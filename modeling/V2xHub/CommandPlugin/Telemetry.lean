import V2xHub.Lib.Machine
import V2xHub.Lib.Printf
import V2xHub.PropertyTree.Grammar
import Mathlib.Data.List.Infix
import Mathlib.Data.List.Sort

/-!
# Telemetry

`CommandPlugin::GetTelemetry` over what the queries of `TmxControl` find, the frames that `BuildFullTelemetry`,
`BuildUpdateTelemetry` and `BuildRemoveTelemetry` put together, and what a client makes of them. A session is serviced once
between two polls.

A snapshot has the plugins with the names and values that `TmxControl` stores under them, each name once. A name with the
separator `|` of the paths would be stored in a deeper tree; the polls of `SoundPoll` have no such names. The maps of the
plugins keep the trees that are read back from their texts.
-/

namespace V2xHub.CommandPlugin.Telemetry
open PropertyTree

inductive DataType where
  | list
  | config
  | status
  | state
  | systemConfig
deriving DecidableEq

namespace DataType

def name : DataType → Str
  | list => CString.lit "List"
  | config => CString.lit "Config"
  | status => CString.lit "Status"
  | state => CString.lit "State"
  | systemConfig => CString.lit "SystemConfig"

/-- In the order of the frames. -/
def all : List DataType := [list, config, status, state, systemConfig]

end DataType

/-- Names and values. -/
abbrev Fields := List (Str × Str)

/-- A row of the system configuration. -/
structure Parameter where
  name : Str
  value : Str
  defaultValue : Str
deriving DecidableEq

def Parameter.fields (p : Parameter) : Fields :=
  [(CString.lit "name", p.name), (CString.lit "value", p.value), (CString.lit "defaultValue", p.defaultValue)]

/-- What is stored for a plugin. -/
abbrev Sub : DataType → Type
  | .list | .state => Fields
  | .config => List (Str × Fields)
  | .status => Str
  | .systemConfig => List Parameter

abbrev Snapshot (dataType : DataType) := List (Str × Sub dataType)

/-- Names that are there once. -/
def Once {α : Type} (entries : List (Str × α)) : Prop := (entries.map Prod.fst).Nodup

/-- What the queries store. -/
def StoredSub : (dataType : DataType) → Sub dataType → Prop
  | .list, fields | .state, fields => fields ≠ [] ∧ Once fields
  | .config, configs => (configs ≠ [] ∧ Once configs) ∧ ∀ v ∈ configs, v.2 ≠ [] ∧ Once v.2
  | .status, _ => True
  | .systemConfig, parameters => parameters ≠ []

/-- Each plugin is there once; the system configuration is under one name, if there is any. -/
def Stored {dataType : DataType} (snapshot : Snapshot dataType) : Prop :=
  (Once snapshot ∧ ∀ plugin ∈ snapshot, StoredSub dataType plugin.2) ∧
    (dataType = .systemConfig → ∀ plugin ∈ snapshot, plugin.1 = CString.lit "SystemConfig")

instance : ∀ dataType, DecidableEq (Sub dataType)
  | .list | .state => inferInstanceAs (DecidableEq Fields)
  | .config => inferInstanceAs (DecidableEq (List (Str × Fields)))
  | .status => inferInstanceAs (DecidableEq Str)
  | .systemConfig => inferInstanceAs (DecidableEq (List Parameter))

/-! ### What is written -/

/-- A tree with names; without any it is a value, which is empty. -/
def object (members : List (Str × Str)) : Str :=
  if members = [] then quoted [] else 123 :: commas (members.map fun m => quoted m.1 ++ 58 :: m.2) ++ [125]

def array (items : List Str) : Str := 91 :: commas items ++ [93]

def fieldsText (fields : Fields) : Str := object (fields.map fun f => (f.1, quoted f.2))

/-- `write_json` for what is stored for a plugin. -/
def write : (dataType : DataType) → Sub dataType → Str
  | .list, fields | .state, fields => fieldsText fields
  | .config, configs => object (configs.map fun v => (v.1, fieldsText v.2))
  | .status, status => quoted status
  | .systemConfig, parameters => array (parameters.map fun p => fieldsText p.fields)

/-- `GetOutput` -/
def output {dataType : DataType} (snapshot : Snapshot dataType) : Str :=
  if snapshot = [] then [] else object (snapshot.map fun p => (p.1, write dataType p.2)) ++ [10]

/-- A plugin alone, without the braces. -/
def pluginText {dataType : DataType} (plugin : Str × Sub dataType) : Str :=
  quoted plugin.1 ++ 58 :: write dataType plugin.2

/-- `replace_all` of the quotes. -/
def replaceQuotes (val : Str) : Str := val.flatMap fun c => if c = 34 then [92, 34] else [c]

/-- A name, the brace behind it and the text up to the closing brace. -/
def nested (name text : Str) : Str := 34 :: name ++ CString.lit "\": \x7b" ++ text ++ [125]

/-- The pairs of new data that the old data does not have. -/
def changed (old : Option Fields) (fields : Fields) : Fields := fields.filter fun f => (old.bind (·.lookup f.1)) ≠ some f.2

def pairs (fields : Fields) : Str :=
  commas (fields.map fun f => 34 :: f.1 ++ CString.lit "\": \"" ++ replaceQuotes f.2 ++ [34])

/-- The variables with pairs that the old data does not have. -/
def changedConfigs (old : Option (List (Str × Fields))) (configs : List (Str × Fields)) : List (Str × Fields) :=
  (configs.map fun v => (v.1, changed (old.bind (·.lookup v.1)) v.2)).filter fun v => v.2 ≠ []

/-- The update of a plugin. That of the system configuration does not close the quote in front of the name; the text of a
parameter ends its line, which the text of the plugin does not. -/
def updateText : (dataType : DataType) → (old : Option (Sub dataType)) → (plugin : Str × Sub dataType) → Str
  | .list, old, plugin | .state, old, plugin => nested plugin.1 (pairs (changed old plugin.2))
  | .config, old, plugin =>
    nested plugin.1 (commas ((changedConfigs old plugin.2).map fun v => nested v.1 (pairs v.2)))
  | .status, _, plugin => 34 :: plugin.1 ++ CString.lit "\": \"" ++ plugin.2 ++ [34]
  | .systemConfig, _, plugin =>
    34 :: plugin.1 ++ commas ((plugin.2.map fun p => fieldsText p.fields ++ [10]).filter fun text =>
      ¬ text <:+: object [(plugin.1, write .systemConfig plugin.2)])

/-! ### The buffers of a data type -/

structure Part (dataType : DataType) where
  haveData : Bool
  json : Str
  pluginsJSON : Snapshot dataType
  pluginsUpdatesJSON : List (Str × Str)
  pluginsRemoveJSON : List (Str × Str)
  /-- The latest snapshot that was read. -/
  latest : Snapshot dataType

def Part.init (dataType : DataType) : Part dataType := ⟨false, [], [], [], [], []⟩

/-- In the order of a map. -/
def sorted (entries : List (Str × Str)) : List (Str × Str) := entries.insertionSort fun a b => a.1 ≤ b.1

/-- What is between the first `[` and the last `]`; none if that is nothing. -/
def bracketed (text : Str) : Option Str :=
  match text.dropWhile (· ≠ 91) with
  | [] => none
  | _ :: rest =>
    match rest.reverse.dropWhile (· ≠ 93) with
    | [] | [_] => none
    | _ :: inner => some inner.reverse

/-- The plugins with another text than before, with their updates. -/
def updates {dataType : DataType} (old snapshot : Snapshot dataType) : List (Str × Str) :=
  (snapshot.filter fun plugin => old.lookup plugin.1 ≠ some plugin.2).map fun plugin =>
    (plugin.1, updateText dataType (old.lookup plugin.1) plugin)

/-- The plugins that are there no more, with their texts. -/
def removes {dataType : DataType} (old snapshot : Snapshot dataType) : List (Str × Str) :=
  (old.filter fun plugin => plugin.1 ∉ snapshot.map Prod.fst).map fun plugin => (plugin.1, pluginText plugin)

def Part.process {dataType : DataType} (part : Part dataType) (snapshot : Snapshot dataType) (json : Str) : Part dataType :=
  { haveData := true
    json := json
    pluginsJSON := snapshot
    pluginsUpdatesJSON := sorted (updates part.pluginsJSON snapshot)
    pluginsRemoveJSON := sorted (removes part.pluginsJSON snapshot)
    latest := snapshot }

def Part.GetTelemetry {dataType : DataType} (part : Part dataType) : Option (Snapshot dataType) → Part dataType
  | none => { part with haveData := false }
  | some snapshot =>
    if dataType = .systemConfig then
      match bracketed (output snapshot) with
      | none => { part with json := [], haveData := false, latest := snapshot }
      | some cJSON => part.process snapshot cJSON
    else part.process snapshot (output snapshot)

/-! ### The frames -/

def frame (subtype : Str) (time : Nat) (payload : Str) : Str :=
  CString.lit "\x7b\"header\":\x7b\"type\":\"Telemetry\",\"subtype\":\"" ++ subtype ++
    CString.lit "\",\"encoding\":\"jsonstring\",\"timestamp\":\"" ++ Printf.decimal time ++
    CString.lit "\",\"flags\":\"0\"\x7d,\"payload\":" ++ payload ++ [125]

def BuildFullTelemetry {dataType : DataType} (part : Part dataType) (time : Nat) : List Str :=
  if part.haveData then
    [frame dataType.name time (if dataType = .systemConfig then 91 :: part.json ++ [93] else part.json)]
  else []

def BuildUpdateTelemetry {dataType : DataType} (part : Part dataType) (time : Nat) : List Str :=
  if part.haveData ∧ part.pluginsUpdatesJSON ≠ [] then
    let payload := if dataType = .systemConfig then 91 :: ((part.pluginsUpdatesJSON.map Prod.snd).headD []) ++ [93]
      else 123 :: commas (part.pluginsUpdatesJSON.map Prod.snd) ++ [125]
    [frame dataType.name time payload]
  else []

def BuildRemoveTelemetry (part : Part .list) (time : Nat) : List Str :=
  if part.haveData ∧ part.pluginsRemoveJSON ≠ [] then
    [frame (CString.lit "Remove_List") time (123 :: commas (part.pluginsRemoveJSON.map Prod.snd) ++ [125])]
  else []

/-! ### The sessions -/

structure Connection where
  sendFullTelemetry : Bool
  frames : List Str

structure State where
  parts : (dataType : DataType) → Part dataType
  connections : List Connection

def State.init : State := ⟨Part.init, []⟩

inductive Event where
  /-- A poll, what each query finds, none if it fails, and the time of the updates behind it. -/
  | poll (snapshots : (dataType : DataType) → Option { snapshot : Snapshot dataType // Stored snapshot }) (time : Nat)
  | established
  /-- The first time that a session is serviced. -/
  | full (k : Nat) (time : Nat)
  | closed (k : Nat)

namespace State

def GetTelemetry (s : State) (snapshots : (dataType : DataType) → Option { snapshot : Snapshot dataType // Stored snapshot }) :
    State :=
  { s with parts := fun dataType => (s.parts dataType).GetTelemetry ((snapshots dataType).map Subtype.val) }

def fullFrames (s : State) (time : Nat) : List Str :=
  DataType.all.flatMap fun dataType => BuildFullTelemetry (s.parts dataType) time

def updateFrames (s : State) (time : Nat) : List Str :=
  (DataType.all.flatMap fun dataType => BuildUpdateTelemetry (s.parts dataType) time) ++
    BuildRemoveTelemetry (s.parts .list) time

def sendUpdates (s : State) (time : Nat) : State :=
  { s with connections := s.connections.map fun c =>
      if c.sendFullTelemetry then c else { c with frames := c.frames ++ s.updateFrames time } }

def close (s : State) (k : Nat) : State :=
  let s := { s with connections := s.connections.eraseIdx k }
  if s.connections = [] then { s with parts := Part.init } else s

def step (s : State) : Event → Option State
  | .poll snapshots time =>
    if s.connections ≠ [] then some ((s.GetTelemetry snapshots).sendUpdates time) else none
  | .established => some { s with connections := s.connections ++ [⟨true, []⟩] }
  | .full k time =>
    match s.connections[k]? with
    | some c =>
      if c.sendFullTelemetry then some { s with connections := s.connections.set k ⟨false, s.fullFrames time⟩ } else none
    | none => none
  | .closed k => if k < s.connections.length then some (s.close k) else none

end State

def telemetry : Machine State Event := ⟨State.init, State.step⟩

/-! ### The client -/

/-- The values that a client has, each at its path. -/
abbrev Client := DataType → List Str → Option Str

def Client.init : Client := fun _ _ => none

/-- An update is merged, and the plugins of a remove frame are removed with all that there is of them. -/
def Client.receive (client : Client) (message : Json) : Client := fun dataType path =>
  let subtype := message.leaf [CString.lit "header", CString.lit "subtype"]
  let payload := message.get (CString.lit "payload")
  if subtype = some dataType.name then (payload.bind fun j => j.leaf path).or (client dataType path)
  else if subtype = some (CString.lit "Remove_List") ∧ dataType ≠ .systemConfig then
    if (path.head?.bind fun plugin => payload.bind fun j => j.get plugin).isSome then none else client dataType path
  else client dataType path

def fieldsJson (fields : Fields) : Json := .obj (fields.map fun f => (f.1, .str f.2))

def subJson : (dataType : DataType) → Sub dataType → Json
  | .list, fields | .state, fields => fieldsJson fields
  | .config, configs => .obj (configs.map fun v => (v.1, fieldsJson v.2))
  | .status, status => .str status
  | .systemConfig, parameters => .arr (parameters.map fun p => fieldsJson p.fields)

/-- The values of a snapshot. -/
def values : {dataType : DataType} → Snapshot dataType → List Str → Option Str
  | .systemConfig, snapshot => (snapshot.head?.map fun p => subJson .systemConfig p.2).elim (fun _ => none) Json.leaf
  | dataType, snapshot => (Json.obj (snapshot.map fun p => (p.1, subJson dataType p.2))).leaf

/-- The frames of a session are JSON, and the client has the latest snapshots. -/
def Replicated (s : State) : Prop := ∀ c ∈ s.connections, c.sendFullTelemetry = false → ∃ messages,
  List.Forall₂ Value c.frames messages ∧
  ∀ dataType, messages.foldl Client.receive Client.init dataType = values (s.parts dataType).latest

end V2xHub.CommandPlugin.Telemetry
