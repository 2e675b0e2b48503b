import V2xHub.Lib.Calendar
import V2xHub.Lib.Machine
import V2xHub.PropertyTree.Json

/-!
# The TIM plugin

`TimPlugin::Main`, `TimRequestHandler` and `UpdateConfigSettings`. What is done under `_cfgLock` is one step, except for a
request: the handler makes a new message and sets its contents. In front of `TimDuration` the main loop copies the pointer
without the lock: it reads where the message is and counts it in the next step, and in between a request can free it.
`TimDuration` and the broadcast wait for the lock. The clock is read where the source reads it; the other times in the events
are for what is said about the runs.
-/

namespace V2xHub.TimPlugin

structure TravelerDataFrame where
  startTime : Int
  duratonTime : Int

/-- `rest` is what is only encoded. -/
structure TravelerInformation (ρ : Type*) where
  dataFrames : List TravelerDataFrame
  rest : ρ

/-- What comes from outside: the conversion to a `QString` and back, the parser, the codecs, and the start of a year for
`mktime`. -/
structure Library (ρ : Type*) where
  toLocal8Bit : Str → Str
  read_xml : Str → Option Ptree
  xer_decode : Ptree → Option (TravelerInformation ρ)
  encode : TravelerInformation ρ → Option Str
  mktime : Int → Int

/-- What ends the process, or is undefined. -/
inductive Stop where
  | xml_parser_error
  | J2735Exception
  | nullptr
  | use_after_free
  | overflow
deriving DecidableEq

variable {ρ : Type*}

/-- Nothing is decoded if the message is empty. -/
def Library.get_j2735_data (lib : Library ρ) (contents : Ptree) : Except Stop (Option (TravelerInformation ρ)) :=
  if contents.children = [] then .ok none
  else
    match lib.xer_decode contents with
    | none => .error .J2735Exception
    | some tim => .ok (some tim)

/-- The body of a request, up to a NUL. -/
def Library.parse (lib : Library ρ) (body : Str) : Option Ptree :=
  lib.read_xml ((lib.toLocal8Bit body).takeWhile fun c => c ≠ 0)

def Int64 (x : Int) : Prop := -2 ^ 63 ≤ x ∧ x < 2 ^ 63

instance decidableInt64 (x : Int) : Decidable (Int64 x) := inferInstanceAs (Decidable (_ ∧ _))

def int64 (x : Int) : Except Stop Int := if Int64 x then .ok x else .error .overflow

/-- What follows the first data frame in `TimDuration`; the times of the frame are minutes. -/
def TravelerDataFrame.duration (frame : TravelerDataFrame) (secondsYearStart secondsCurrent : Int) : Except Stop Bool :=
  if frame.startTime ≥ 527040 then .ok false
  else do
    let isPersist := decide (frame.duratonTime ≥ 32000)
    let secondsStart ← int64 (secondsYearStart + (← int64 (frame.startTime * 60)))
    let secondsStop ← int64 (secondsStart + (← int64 (frame.duratonTime * 60)))
    return decide (secondsStart ≤ secondsCurrent ∧ (secondsCurrent ≤ secondsStop ∨ isPersist))

/-- The year is the one of the first reading of the clock. -/
def Library.TimDuration (lib : Library ρ) (contents : Ptree) (t secondsCurrent : Int) : Except Stop Bool :=
  match lib.get_j2735_data contents with
  | .error e => .error e
  | .ok none => .error .nullptr
  | .ok (some timPtr) =>
    match timPtr.dataFrames with
    | [] => .error .nullptr
    | frame :: _ => frame.duration (lib.mktime (Calendar.yearOf t)) secondsCurrent

/-- Without a TIM there is nothing that can be encoded. -/
def Library.encoded (lib : Library ρ) (contents : Ptree) : Except Stop Str :=
  match lib.get_j2735_data contents with
  | .error e => .error e
  | .ok none => .error .J2735Exception
  | .ok (some timPtr) =>
    match lib.encode timPtr with
    | none => .error .J2735Exception
    | some bytes => .ok bytes

/-! ### The plugin -/

/-- Where the main loop is: in the outer loop, in front of the condition of the inner loop, copying the pointer to a message,
in `TimDuration` with a message, behind the condition, or returned. -/
inductive Main where
  | outer
  | inner
  | copy (TimMsg : Nat)
  | TimDuration (TimMsg : Nat)
  | send
  | returned

inductive Response where
  | Created
  | BadRequest

def noContents : Ptree := .node [] []

/-- A message that is not in use is freed. -/
structure TimMessage where
  contents : Ptree
  use_count : Nat

structure State where
  mapFile : Str
  isMapFileNew : Bool
  /-- The messages that were made. -/
  messages : List TimMessage
  timMsgPtr : Option Nat
  /-- What the handler that has the lock will set. -/
  handling : Option Ptree
  main : Main
  responses : List Response
  broadcast : List Str
  stopped : Option Stop

def State.init : State := ⟨[], false, [], none, none, .outer, [], [], none⟩

inductive Event where
  /-- The map file that is configured, if one is, and whether it exists. -/
  | UpdateConfigSettings (mapFile : Option Str) (found : Bool)
  | TimRequestHandler (body : Str) (now : Int)
  | set_contents
  /-- An iteration of the outer loop up to the inner loop, with the files as they are. -/
  | outer (registered : Bool) (files : Str → Option Str) (now : Int)
  | inner (now : Int)
  /-- The message is counted whose place was read. -/
  | copy
  | TimDuration (t secondsCurrent : Int)
  | BroadcastMessage (now : Int)
  /-- The state of the plugin is `IvpPluginState_error`. -/
  | error

/-- A pointer to a message is gone. -/
def release (messages : List TimMessage) (TimMsg : Nat) : List TimMessage :=
  messages.modify TimMsg fun msg => { msg with use_count := msg.use_count - 1 }

namespace State

def message (s : State) (TimMsg : Nat) : TimMessage := s.messages.getD TimMsg ⟨noContents, 0⟩

def contents (s : State) (TimMsg : Nat) : Ptree := (s.message TimMsg).contents

def use_count (s : State) (TimMsg : Nat) : Nat := (s.message TimMsg).use_count

/-- What a pointer to the message gives. -/
def deref (s : State) (TimMsg : Nat) : Except Stop Ptree :=
  if s.use_count TimMsg = 0 then .error .use_after_free else .ok (s.contents TimMsg)

def Unlocked (s : State) : Prop := s.handling = none

instance decidableUnlocked (s : State) : Decidable s.Unlocked := by
  unfold Unlocked
  cases s.handling with
  | none => exact .isTrue rfl
  | some tree => exact .isFalse nofun

def stop (s : State) (e : Stop) : State := { s with stopped := some e }

def writeResponse (s : State) (r : Response) : State := { s with responses := s.responses ++ [r] }

/-- `_timMsgPtr = nullptr` -/
def reset (s : State) : State :=
  { s with messages := s.timMsgPtr.elim s.messages (release s.messages), timMsgPtr := none }

/-- `_timMsgPtr = std::make_shared<TimMessage>()` -/
def make_shared (s : State) : State :=
  { s with
    messages := s.reset.messages ++ [⟨noContents, 1⟩]
    timMsgPtr := some s.messages.length }

/-- Of the message that was made last. -/
def set_contents (s : State) (tree : Ptree) : State :=
  { s with messages := s.messages.modify (s.messages.length - 1) fun msg => { msg with contents := tree } }

def UpdateConfigSettings (s : State) (mapFile : Option Str) (found : Bool) : State :=
  match mapFile with
  | none => s
  | some mapFile => { s with mapFile, isMapFileNew := found || s.isMapFileNew }

section
variable (lib : Library ρ)

def TimRequestHandler (s : State) (body : Str) : State :=
  match lib.parse body with
  | none => s.stop .xml_parser_error
  | some tree => { s.make_shared with handling := some tree }

/-- What `LoadTim` reads. A stream that nothing was written into is in a failed state. -/
def loaded (s : State) (files : Str → Option Str) : Option Ptree :=
  match files s.mapFile with
  | none => none
  | some text => if text = [] then none else lib.read_xml text

def LoadTim (s : State) (files : Str → Option Str) : State :=
  match s.loaded lib files with
  | none => { s.make_shared.reset with isMapFileNew := false }
  | some tree => { s.make_shared.set_contents tree with isMapFileNew := false }

/-- The rest of the copy of the pointer. -/
def copy (s : State) (TimMsg : Nat) : State :=
  match s.deref TimMsg with
  | .error e => s.stop e
  | .ok _ =>
    { s with
      messages := s.messages.modify TimMsg fun msg => { msg with use_count := msg.use_count + 1 }
      main := .TimDuration TimMsg }

/-- The copy of the pointer is gone behind the call. -/
def TimDuration (s : State) (TimMsg : Nat) (t secondsCurrent : Int) : State :=
  match s.deref TimMsg >>= fun contents => lib.TimDuration contents t secondsCurrent with
  | .error e => s.stop e
  | .ok active => { s with messages := release s.messages TimMsg, main := if active then .send else .outer }

def BroadcastMessage (s : State) : State :=
  match s.timMsgPtr with
  | none => { s with main := .inner }
  | some p =>
    match s.deref p >>= lib.encoded with
    | .error e => s.stop e
    | .ok bytes => { s with main := .inner, broadcast := s.broadcast ++ [bytes] }

def step (s : State) (e : Event) : Option State :=
  if s.stopped.isSome then none
  else
    match e with
    | .UpdateConfigSettings mapFile found => if s.Unlocked then some (s.UpdateConfigSettings mapFile found) else none
    | .TimRequestHandler body _ =>
      if body = [] then some (s.writeResponse .BadRequest)
      else if s.Unlocked then some (s.TimRequestHandler lib body) else none
    | .set_contents => s.handling.map fun tree => { (s.set_contents tree).writeResponse .Created with handling := none }
    | .outer registered files _ =>
      match s.main with
      | .outer =>
        if registered = false then some s
        else if s.isMapFileNew = false then some { s with main := .inner }
        else if s.Unlocked then some { s.LoadTim lib files with main := .inner } else none
      | _ => none
    | .inner _ =>
      match s.main with
      | .inner => some { s with main := match s.timMsgPtr with | none => .outer | some p => .copy p }
      | _ => none
    | .copy =>
      match s.main with
      | .copy TimMsg => some (s.copy TimMsg)
      | _ => none
    | .TimDuration t secondsCurrent =>
      match s.main with
      | .TimDuration TimMsg => if s.Unlocked then some (s.TimDuration lib TimMsg t secondsCurrent) else none
      | _ => none
    | .BroadcastMessage _ =>
      match s.main with
      | .send => if s.Unlocked then some (s.BroadcastMessage lib) else none
      | _ => none
    | .error =>
      match s.main with
      | .outer => some { s with main := .returned }
      | _ => none

end

end State

def plugin (lib : Library ρ) : Machine State Event := ⟨State.init, State.step lib⟩

end V2xHub.TimPlugin
