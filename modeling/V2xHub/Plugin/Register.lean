import V2xHub.Lib.CString
import V2xHub.Lib.Machine
import Mathlib.Data.Finset.Basic
import Mathlib.Logic.Function.Basic

/-!
# Plugin registration

`Plugin::registerPlugin` and `Plugin::~Plugin`, with the set of client names that all plugins share. A
registration is a sequence of steps: the check of the name under `clientLock`, each operation on the
database, the assignment of the members, the status update. Any of the database operations may throw.
-/

namespace V2xHub.Plugin

structure MessageTypeEntry where
  type : Str
  subtype : Str
deriving DecidableEq

/-- What a registration reads of a `RegistrationInformation`. -/
structure RegistrationInformation where
  name : Str
  messageTypeEntries : List MessageTypeEntry

/-- The operations of `registerPlugin` that may throw a `DbException`. -/
inductive DbStep where
  | openContexts
  | insertOrUpdatePlugin
  | initializePluginConfigParameters
  | getPluginConfigParameters
  | insertMessageType (entry : MessageTypeEntry)
  | mapPluginToMessageType (entry : MessageTypeEntry)

def dbSteps (info : RegistrationInformation) : List DbStep :=
  [.openContexts, .insertOrUpdatePlugin, .initializePluginConfigParameters, .getPluginConfigParameters] ++
    info.messageTypeEntries.flatMap fun entry => [.insertMessageType entry, .mapPluginToMessageType entry]

/-- Where a plugin is in `registerPlugin`. -/
inductive Call where
  | none
  | database (info : RegistrationInformation) (steps : List DbStep)
  | setStatus

/-- The members of a plugin that a registration sets: `mRegistered` and `mInfo.pluginInfo.name`. -/
structure Client where
  registered : Bool
  name : Str
  call : Call

/-- All plugins that are alive, and `Plugin::clientNames`. -/
structure Registry (κ : Type*) where
  clientNames : Finset Str
  clients : κ → Option Client

/-- A plugin is constructed, calls `registerPlugin`, does the next database operation of the call (which
may throw), assigns its members, updates its status (which may throw), or is destroyed. -/
inductive Event (κ : Type*) where
  | construct (c : κ)
  | register (c : κ) (info : RegistrationInformation)
  | database (c : κ) (ok : Bool)
  | assign (c : κ)
  | setStatus (c : κ) (ok : Bool)
  | destroy (c : κ)

namespace Registry
variable {κ : Type*} [DecidableEq κ]

def setClient (s : Registry κ) (c : κ) (client : Option Client) : Registry κ :=
  { s with clients := Function.update s.clients c client }

/-- The check of the name: an empty name or one in use throws. -/
def register (s : Registry κ) (c : κ) (client : Client) (info : RegistrationInformation) : Registry κ :=
  if info.name = [] then s
  else if info.name ∈ s.clientNames then s
  else { s.setClient c (some { client with call := .database info (dbSteps info) }) with
    clientNames := insert info.name s.clientNames }

def step (s : Registry κ) : Event κ → Option (Registry κ)
  | .construct c => if (s.clients c).isNone then some (s.setClient c (some ⟨false, [], .none⟩)) else none
  | .register c info =>
    match s.clients c with
    | some ⟨registered, name, .none⟩ => some (s.register c ⟨registered, name, .none⟩ info)
    | _ => none
  | .database c ok =>
    match s.clients c with
    | some ⟨registered, name, .database info (_ :: steps)⟩ =>
      some (s.setClient c (some ⟨registered, name, if ok then .database info steps else .none⟩))
    | _ => none
  | .assign c =>
    match s.clients c with
    | some ⟨_, _, .database info []⟩ => some (s.setClient c (some ⟨true, info.name, .setStatus⟩))
    | _ => none
  | .setStatus c _ =>
    match s.clients c with
    | some ⟨registered, name, .setStatus⟩ => some (s.setClient c (some ⟨registered, name, .none⟩))
    | _ => none
  | .destroy c =>
    match s.clients c with
    | some ⟨_, name, .none⟩ => some { s.setClient c none with clientNames := s.clientNames.erase name }
    | _ => none

end Registry

/-- All runs of any number of plugins. -/
def machine (κ : Type*) [DecidableEq κ] : Machine (Registry κ) (Event κ) where
  init := ⟨∅, fun _ => none⟩
  step := Registry.step

end V2xHub.Plugin
