import V2xHub.IvpMessage.Basic
import V2xHub.Lib.Machine
import V2xHub.Lib.OrdMap
import V2xHub.Lib.Printf
import Mathlib.Data.List.Lex

/-!
# The message profiler

`MessageProfiler` of the core: it counts every message that is routed, per plugin and message type, and a thread of
its own writes the counts to the database. Both hold the lock, so a message and a flush are single events. The
database is known by the ids that it gives to message types; each event carries what the database did. An assertion
that fails, or an exception that nothing catches, ends the core (`aborted`).
-/

namespace V2xHub.MessageProfiler

/-- `2 ^ 32`: counts are `unsigned int`. -/
def uint32 : Nat := 2 ^ 32

/-- The table of message types: `AUTO_INCREMENT` ids, which start at 1. -/
structure Database where
  id : Str → Str → Nat
  id_ne_zero : ∀ type subtype, id type subtype ≠ 0

structure MessageTypeEntry where
  id : Nat
  type : Str
  subtype : Str
deriving DecidableEq

def separator : Str := CString.lit "||"

/-- Bytes in the order of strings. -/
def collate (s : Str) : List Nat := s.map UInt8.toNat

/-- What two entries are compared by. -/
def MessageTypeEntry.text (e : MessageTypeEntry) : Str := e.type ++ separator ++ e.subtype

structure PluginIdMessageTypeKey where
  pluginId : Nat
  messageType : MessageTypeEntry
deriving DecidableEq

def PluginIdMessageTypeKey.text (k : PluginIdMessageTypeKey) : Str :=
  Printf.decimal k.pluginId ++ separator ++ k.messageType.type ++ separator ++ k.messageType.subtype

structure ProfileData where
  messageCounts : Nat
  lastReceivedTime : Nat
  receiveTimeForAveraging : List Nat
deriving DecidableEq

structure MessageActivityEntry where
  messageTypeId : Nat
  pluginId : Nat
  count : Nat
  lastReceivedTimestamp : Nat
  averageInterval : Nat
deriving DecidableEq

/-- The members. A map has the key that it was given first. -/
structure State where
  mMessageTypes : OrdMap (List Nat) MessageTypeEntry
  mProfileData : OrdMap (List Nat) (PluginIdMessageTypeKey × ProfileData)
  aborted : Bool

/-- What `insertMessageType` does: it throws, or it finds no row, or it finds the row of the message type. -/
inductive Lookup where
  | exception
  | noRow
  | found
deriving DecidableEq

inductive Event where
  | message (msg : IvpMessage) (rxTime : Nat) (lookup : Lookup)
  | flush (currentTime purgeWindow : Nat) (connects : Bool)

/-- `results.insert`, which keeps the entry that is there. -/
def insertMessageType (types : OrdMap (List Nat) MessageTypeEntry) (e : MessageTypeEntry) :
    OrdMap (List Nat) MessageTypeEntry :=
  if types.find? (collate e.text) = none then types.insert (collate e.text) e else types

section
variable (db : Database)

/-- `getAllMessageTypes`, over the types and subtypes of the rows; none where it throws. -/
def getAllMessageTypes (rows : List (Str × Str)) : OrdMap (List Nat) MessageTypeEntry :=
  rows.foldl (fun types row => insertMessageType types ⟨db.id row.1 row.2, row.1, row.2⟩) .empty

def State.init (rows : List (Str × Str)) : State := ⟨getAllMessageTypes db rows, .empty, false⟩

/-- The type of a message, with its id, and the known types behind the lookup. -/
def messageType (types : OrdMap (List Nat) MessageTypeEntry) (e : MessageTypeEntry) (lookup : Lookup) :
    MessageTypeEntry × OrdMap (List Nat) MessageTypeEntry :=
  match types.find? (collate e.text) with
  | some localMsgType => (localMsgType, types)
  | none =>
    match lookup with
    | .exception | .noRow => (e, types)
    | .found =>
      let e := { e with id := db.id e.type e.subtype }
      (e, types.insert (collate e.text) e)

/-- One more message of the key. -/
def record (profiles : OrdMap (List Nat) (PluginIdMessageTypeKey × ProfileData)) (key : PluginIdMessageTypeKey)
    (rxTime : Nat) : OrdMap (List Nat) (PluginIdMessageTypeKey × ProfileData) :=
  match profiles.find? (collate key.text) with
  | some (k, data) =>
    profiles.insert (collate key.text) (k,
      { messageCounts := (data.messageCounts + 1) % uint32
        lastReceivedTime := rxTime
        receiveTimeForAveraging := data.receiveTimeForAveraging ++ [rxTime] })
  | none => profiles.insert (collate key.text) (key, ⟨1, rxTime, [rxTime]⟩)

namespace State

/-- Heartbeats have no type; what has no source is dropped. -/
def onMessageReceived (s : State) (msg : IvpMessage) (rxTime : Nat) (lookup : Lookup) : State :=
  match msg.type, msg.source with
  | some type, some source =>
    if source = [] ∨ msg.sourceId = 0 then s
    else
      let (type, types) := messageType db s.mMessageTypes ⟨0, type, msg.subtype.getD []⟩ lookup
      if type.id = 0 then { s with mMessageTypes := types, aborted := true }
      else { s with mMessageTypes := types, mProfileData := record s.mProfileData ⟨msg.sourceId, type⟩ rxTime }
  | _, _ => s

/-- The times within the window that averages are taken over. -/
def purge (currentTime purgeWindow : Nat) (data : ProfileData) : ProfileData :=
  { data with
    receiveTimeForAveraging := data.receiveTimeForAveraging.filter fun t => ¬purgeWindow + t < currentTime }

def activityEntry (purgeWindow : Nat) (key : PluginIdMessageTypeKey) (data : ProfileData) : MessageActivityEntry where
  messageTypeId := key.messageType.id
  pluginId := key.pluginId
  count := data.messageCounts
  lastReceivedTimestamp := data.lastReceivedTime / 1000
  averageInterval := purgeWindow / data.receiveTimeForAveraging.length

/-- What a flush writes. -/
def activityEntries (s : State) (currentTime purgeWindow : Nat) : List MessageActivityEntry :=
  s.mProfileData.entries.map fun e => activityEntry purgeWindow e.2.1 (purge currentTime purgeWindow e.2.2)

/-- The connection to the database is opened outside of `try`. -/
def flush (s : State) (currentTime purgeWindow : Nat) (connects : Bool) : State :=
  { s with
    mProfileData := s.mProfileData.map fun _ x => (x.1, purge currentTime purgeWindow x.2)
    aborted := !connects }

def step (s : State) (e : Event) : Option State :=
  if s.aborted then none
  else
    match e with
    | .message msg rxTime lookup => some (s.onMessageReceived db msg rxTime lookup)
    | .flush currentTime purgeWindow connects => some (s.flush currentTime purgeWindow connects)

end State

def profiler (rows : List (Str × Str)) : Machine State Event := ⟨State.init db rows, State.step db⟩

end

end V2xHub.MessageProfiler
