import V2xHub.Lib.Machine
import V2xHub.Lib.Printf
import V2xHub.PropertyTree.Grammar

/-!
# The event log

`CommandPlugin::GetEventTelemetry` over the rows that `TmxControl::events` finds, what `clearlog` and the close of the last
connection do to the buffers of events, and the frames of events that a session is sent. A poll and the service of each session
are steps of their own, in any order: what a session is sent is in the buffers when it is serviced. A session that logs out is one
that is serviced no more, and a new one. Rows of one second come in the order of their ids.

For the statements the state has what was logged since the start, how much of it at the last poll and at the last clear, and what
each session was sent since its full list.
-/

namespace V2xHub.CommandPlugin.EventLog
open PropertyTree

/-- How the server writes a timestamp, and reads it. -/
structure Timestamps where
  stamp : Nat → Str
  parse : Str → Nat
  parse_stamp : ∀ t, parse (stamp t) = t
  stamp_ne_nil : ∀ t, stamp t ≠ []
  plain_stamp : ∀ t, ∀ c ∈ stamp t, Plain c

structure LogEvent where
  id : Nat
  level : Str
  source : Str
  description : Str
  timestamp : Nat

variable (ts : Timestamps) (eventRowLimit updateIntervalMS : Nat)

def LogEvent.json (e : LogEvent) : Str :=
  CString.lit "\x7b\"id\":" ++ quoted (Printf.decimal e.id) ++ CString.lit ",\"level\":" ++ quoted e.level ++
    CString.lit ",\"source\":" ++ quoted e.source ++ CString.lit ",\"description\":" ++ quoted e.description ++
    CString.lit ",\"timestamp\":" ++ quoted (ts.stamp e.timestamp) ++ CString.lit "\x7d"

/-- Events in a list, without the brackets. -/
def texts (events : List LogEvent) : Str := commas (events.map (LogEvent.json ts))

/-- `GetOutput`, with the rows. -/
def output (rows : List LogEvent) : Str :=
  if rows = [] then [] else CString.lit "\x7b\"EventLog\":[" ++ texts ts rows ++ CString.lit "]\x7d\n"

/-- `TmxControl::events`; none if it fails. -/
def events (log : List LogEvent) (eventTime : Str) : Option (List LogEvent) :=
  if eventTime ≠ [] then some (log.filter fun e => ts.parse eventTime < e.timestamp)
  else if eventRowLimit ≤ 2147483647 then some (log.drop (log.length - eventRowLimit))
  else none

/-- What is in the last quotes. -/
def lastQuoted (eJSON : Str) : Option Str :=
  match eJSON.reverse.dropWhile (· ≠ 34) with
  | [] => none
  | _ :: rest =>
    if rest.dropWhile (· ≠ 34) = [] ∨ rest.takeWhile (· ≠ 34) = [] then none
    else some (rest.takeWhile (· ≠ 34)).reverse

/-- What is between the first `[` and the last `]`. -/
def bracketed (eJSON : Str) : Option Str :=
  match eJSON.dropWhile (· ≠ 91) with
  | [] => none
  | _ :: rest =>
    match rest.reverse.dropWhile (· ≠ 93) with
    | [] => none
    | _ :: text => some text.reverse

/-- The places of `\x7d,\x7b`. -/
def separators : Str → Nat
  | 125 :: 44 :: 123 :: rest => separators rest + 1
  | _ :: rest => separators rest
  | [] => 0

/-- What a session was sent since it received the full list, behind the event `start`. -/
structure Received where
  start : Nat
  frames : List Str

structure Connection where
  sendFullTelemetry : Bool
  lastUpdateSendTimeMS : Nat
  received : Option Received

structure State where
  /-- The table. -/
  log : List LogEvent
  haveEvents : Bool
  lastEventTime : Str
  eventsJSON : Str
  eventsUpdatesJSON : Str
  eventsNextFullJSON : Str
  eventsFullCount : Nat
  eventsNextFullCount : Nat
  lastPluginsUpdateTimeMS : Nat
  connections : List Connection
  logged : List LogEvent
  polled : Nat
  cleared : Nat

def State.init : State := ⟨[], false, [], [], [], [], 0, 0, 0, [], [], 0, 0⟩

inductive Event where
  | insert (e : LogEvent)
  | GetEventTelemetry (currentTime : Nat)
  | clearlog
  | established (currentTime : Nat)
  | serviced (k : Nat)
  | closed (k : Nat)

/-- The payload of a frame. -/
def payload (events : Str) : Str := 91 :: events ++ [93]

def lastId (logged : List LogEvent) : Nat := (logged.getLast?.map LogEvent.id).getD 0

def Received.append (events : Str) (r : Received) : Received := { r with frames := r.frames ++ [payload events] }

namespace State

/-- The buffers behind new events. -/
def store (s : State) (events : Str) (eventCount : Nat) : State :=
  let eventsJSON := if s.eventsJSON ≠ [] then s.eventsJSON ++ [44] else s.eventsJSON
  let full := s.eventsFullCount ≥ eventRowLimit
  let next := if full then
    (if s.eventsNextFullJSON ≠ [] then s.eventsNextFullJSON ++ [44] else s.eventsNextFullJSON) ++ events
    else s.eventsNextFullJSON
  let nextCount := if full then s.eventsNextFullCount + eventCount else s.eventsNextFullCount
  if s.eventsFullCount ≥ eventRowLimit * 2 % 2 ^ 64 then
    { s with
      eventsUpdatesJSON := events
      eventsJSON := next
      eventsNextFullJSON := []
      eventsFullCount := nextCount
      eventsNextFullCount := 0 }
  else
    { s with
      eventsUpdatesJSON := events
      eventsJSON := eventsJSON ++ events
      eventsNextFullJSON := next
      eventsFullCount := s.eventsFullCount + eventCount
      eventsNextFullCount := nextCount }

def GetEventTelemetry (s : State) : State :=
  match events ts eventRowLimit s.log s.lastEventTime with
  | none => { s with haveEvents := false }
  | some rows =>
    let s := { s with haveEvents := true, polled := s.logged.length }
    let eJSON := output ts rows
    if eJSON = [] then { s with eventsUpdatesJSON := [] }
    else
      match lastQuoted eJSON with
      | none => { s with eventsUpdatesJSON := [] }
      | some time =>
        let s := { s with lastEventTime := time }
        match bracketed eJSON with
        | none => { s with eventsUpdatesJSON := [] }
        | some events => s.store eventRowLimit events (1 + separators eJSON)

/-- `BuildUpdateTelemetry` -/
def updates (s : State) (c : Connection) : Option Received :=
  if s.haveEvents ∧ s.eventsUpdatesJSON ≠ [] then c.received.map (Received.append s.eventsUpdatesJSON) else c.received

/-- A session that was sent its full telemetry, when it is serviced. -/
def update (s : State) (c : Connection) : Connection :=
  if c.sendFullTelemetry = false ∧ c.lastUpdateSendTimeMS < s.lastPluginsUpdateTimeMS then
    ⟨false, s.lastPluginsUpdateTimeMS, s.updates c⟩
  else c

/-- `BuildFullTelemetry` -/
def full (s : State) (c : Connection) : Connection :=
  ⟨false, s.lastPluginsUpdateTimeMS, if s.haveEvents then some ⟨lastId s.logged, []⟩ else c.received⟩

def service (s : State) (k : Nat) (c : Connection) : State :=
  { s with connections := s.connections.set k (if c.sendFullTelemetry then s.full c else s.update c) }

def close (s : State) (k : Nat) : State :=
  let s := { s with connections := s.connections.eraseIdx k }
  if s.connections = [] then
    { s with
      haveEvents := false
      eventsJSON := []
      lastEventTime := []
      eventsUpdatesJSON := []
      lastPluginsUpdateTimeMS := 0 }
  else s

def step (s : State) : Event → Option State
  | .insert e =>
    if (∀ e' ∈ s.logged, e'.id < e.id ∧ e'.timestamp ≤ e.timestamp) ∧ 0 < e.id then
      some { s with log := s.log ++ [e], logged := s.logged ++ [e] }
    else none
  | .GetEventTelemetry currentTime =>
    if s.connections ≠ [] ∧ s.lastPluginsUpdateTimeMS + updateIntervalMS ≤ currentTime then
      some { s.GetEventTelemetry ts eventRowLimit with lastPluginsUpdateTimeMS := currentTime }
    else none
  | .clearlog =>
    some { s with log := [], eventsJSON := [], eventsUpdatesJSON := [], cleared := s.logged.length }
  | .established currentTime => some { s with connections := s.connections ++ [⟨true, currentTime, none⟩] }
  | .serviced k => s.connections[k]?.map (s.service k)
  | .closed k => if k < s.connections.length then some (s.close k) else none

end State

def eventLog : Machine State Event := ⟨State.init, State.step ts eventRowLimit updateIntervalMS⟩

/-! ### Delivery -/

def LogEvent.members (e : LogEvent) : List (Str × Str) :=
  [(CString.lit "id", Printf.decimal e.id), (CString.lit "level", e.level), (CString.lit "source", e.source),
    (CString.lit "description", e.description), (CString.lit "timestamp", ts.stamp e.timestamp)]

/-- What the text of an event stands for. -/
def LogEvent.value (e : LogEvent) : Json := .obj ((e.members ts).map fun m => (m.1, .str m.2))

/-- The events that have come behind `start`. -/
def since (start : Nat) (events : List LogEvent) : List LogEvent := events.filter fun e => start < e.id

/-- The updates of a session have each event that was logged since and was there at the last poll, once and in order. -/
def Received.Complete (r : Received) (polled : List LogEvent) : Prop :=
  ∃ updates : List (List LogEvent), r.frames = updates.map (fun events => payload (texts ts events)) ∧
    since r.start updates.flatten = since r.start polled

structure Delivered (s : State) : Prop where
  /-- A session that the last poll comes behind has the update of that poll when it is serviced. -/
  sessions : ∀ c ∈ s.connections, ∀ r ∈ (s.update c).received, r.Complete ts (s.logged.take s.polled)
  /-- The full list is JSON and has consecutive events, the newest ones that were there at the last poll. -/
  full : s.haveEvents = true → ∃ events, s.eventsJSON = texts ts events ∧
    Value (payload s.eventsJSON) (.arr (events.map (LogEvent.value ts))) ∧ events <:+ s.logged.take s.polled ∧
    min (s.polled - s.cleared) eventRowLimit ≤ events.length

/-- The sessions with a full list have no event behind it that was not there at the last poll. -/
def State.Served (s : State) : Prop := ∀ c ∈ s.connections, ∀ r ∈ c.received, since r.start (s.logged.drop s.polled) = []

/-- No session with a full list waits for the update of the last poll. -/
def State.Sent (s : State) : Prop := ∀ c ∈ s.connections, (s.update c).received = c.received

/-- A poll that finds each event that was not there at the last one, when the update of that one was sent. -/
structure SoundPoll (s : State) (currentTime : Nat) : Prop where
  later : s.lastPluginsUpdateTimeMS < currentTime
  sent : s.Sent
  /-- None of the new events is of the second of the last one that was found, or from before it. -/
  found : s.lastEventTime ≠ [] → ∀ e ∈ s.logged.drop s.polled, e ∈ s.log → ts.parse s.lastEventTime < e.timestamp
  /-- A poll that starts over has nothing in the next buffer, and no session waits for more events than the row limit. -/
  start : s.lastEventTime = [] → s.log ≠ [] → s.eventsNextFullJSON = [] ∧
    ∀ c ∈ s.connections, ∀ r ∈ c.received, (since r.start s.log).length ≤ eventRowLimit
  /-- A poll that exchanges the buffers has enough events in the next one. -/
  exchange : eventRowLimit * 2 % 2 ^ 64 ≤ s.eventsFullCount → ∀ rows, rows ≠ [] →
    events ts eventRowLimit s.log s.lastEventTime = some rows →
    ∃ next, s.eventsNextFullJSON = texts ts next ∧ next <:+ s.logged.take s.polled ∧
      min (s.logged.length - s.cleared) eventRowLimit ≤ (next ++ rows).length

/-- The condition for each step: the polls are sound, the log is cleared when the update of the last poll was sent, and where
the table is cleared of events that no poll has found, no session waits for them and the next buffer is empty. -/
def Sound (s : State) : Event → Prop
  | .GetEventTelemetry currentTime => SoundPoll ts eventRowLimit s currentTime
  | .clearlog => s.Sent ∧ (s.polled < s.logged.length → s.eventsNextFullJSON = [] ∧ s.Served)
  | _ => True

end V2xHub.CommandPlugin.EventLog
