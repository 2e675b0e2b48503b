import V2xHub.Lib.CString
import V2xHub.Lib.Machine
import Mathlib.Data.List.Infix
import Mathlib.Data.List.Sort
import Mathlib.Logic.Function.Basic

/-!
# Traffic control messages of the CARMA cloud plugin

`CARMACloudPlugin` keeps the traffic control messages (TCMs) that no vehicle acknowledged. The web thread broadcasts a
TCM and then stores it, the message handler erases one for an acknowledgement, and the loop of
`TCMAckCheckAndRebroadcastTCM` looks at the size, takes the lock, visits the stored TCMs one by one and then erases the
expired ones; nobody else comes in while it holds the lock. Where it finds nothing stored it clears what only it reads.
The codec of the payload is a parameter. When a stored TCM was first visited and how often it was rebroadcast is
recorded with it.
-/

namespace V2xHub.CARMACloudPlugin
open CString

/-- A TCM, whose payload decodes to its number if it decodes. -/
structure Tcm (decode : Str → Option Int) where
  reqid : List UInt8
  msgnum : Int
  payload : Str
  decodes : ∀ {n}, decode payload = some n → n = msgnum

def hexDigit (n : UInt8) : UInt8 := if n < 10 then 48 + n else 87 + n

def hex (buf : List UInt8) : Str := buf.flatMap fun b => [hexDigit (b / 16), hexDigit (b % 16)]

/-- The key of a TCM. -/
def Tcm.tcmv01_req_id_hex {decode : Str → Option Int} (t : Tcm decode) : Str := (hex t.reqid).map tolower

/-- A stored TCM, with the time of its first visit and the number of its rebroadcasts. -/
structure Entry (decode : Str → Option Int) where
  tcm : Tcm decode
  firstSeen : Option Int
  rebroadcasts : Nat

abbrev Entry.key {decode : Str → Option Int} (e : Entry decode) : Str := e.tcm.tcmv01_req_id_hex

def Entry.see {decode : Str → Option Int} (e : Entry decode) (cur_time : Int) : Entry decode :=
  { e with firstSeen := e.firstSeen.or (some cur_time) }

structure TCMBroadcastMetadata where
  tcm_hex : Str
  num_of_times : Int
deriving DecidableEq

/-- A counter that is for another payload or at the total stays. -/
def TCMBroadcastMetadata.count (total : Int) (tcm_hex_payload : Str) (t : TCMBroadcastMetadata) :
    TCMBroadcastMetadata :=
  if t.tcm_hex = tcm_hex_payload ∧ ¬ t.num_of_times ≥ total then { t with num_of_times := t.num_of_times + 1 } else t

structure Settings where
  _strategies : Str
  _TCMRepeatedlyBroadcastTimeOut : Fin (2 ^ 16)
  _TCMNOAcknowledgementDescription : Str
  _TCMRepeatedlyBroadCastTotalTimes : Int
deriving DecidableEq

def _TCMAcknowledgementStrategy : Str := lit "carma3/geofence_acknowledgement"

/-- An id with the comparison that made it expire. -/
structure Expired where
  reqid : Str
  cur_time : Int
  timeout : Int
deriving DecidableEq

/-- What the plugin sends, the events and the negative acknowledgements as texts. -/
inductive Output (decode : Str → Option Int) where
  | broadcast (t : Tcm decode)
  | rebroadcast (t : Tcm decode)
  | info (description : Str)
  | warn (description : Str)
  | cloud (xml : Str)

/-- Where the loop of `TCMAckCheckAndRebroadcastTCM` is. -/
inductive Phase where
  | asleep
  | awake
  | visiting
deriving DecidableEq

/-- While TCMs are visited, those behind the iterator are in `visited`. -/
structure State (decode : Str → Option Int) where
  settings : Settings
  _not_ACK_TCMs : List (Entry decode)
  visited : List (Entry decode)
  _tcm_broadcast_starting_time : Str → Option Int
  _tcm_broadcast_times : List (Str × TCMBroadcastMetadata)
  incoming : Option (Tcm decode)
  expired_req_ids : List Expired
  phase : Phase
  clock : Int
  sent : List (Output decode)

/-- The parts of a message that are read. -/
structure MobilityOperation where
  strategy : Str
  operationParams : Str
  hostStaticId : Str
deriving DecidableEq

inductive Event (decode : Str → Option Int) where
  | UpdateConfigSettings (settings : Settings)
  /-- `CARMAResponseHandler` broadcasts a TCM. -/
  | receive (t : Tcm decode)
  | store
  | mobilityOperation (m : MobilityOperation)
  /-- The size is read. -/
  | wake
  | lock
  | visit (cur_time : Int)
  /-- The loop over the expired ids. -/
  | expire

/-! ### The text of an acknowledgement -/

def isspace (c : UInt8) : Bool := c = 32 || (9 ≤ c && c ≤ 13)

def trim (s : Str) : Str := ((s.dropWhile isspace).reverse.dropWhile isspace).reverse

/-- The digits at the start. -/
def digits (s : Str) : List Nat := (s.takeWhile fun c => 48 ≤ c && c ≤ 57).map fun c => (c - 48).toNat

/-- The number at the start of a text, `none` where `stol` and `stoi` throw. -/
def parseInt (low high : Int) (s : Str) : Option Int :=
  let s := s.dropWhile isspace
  let negative := s.head? = some 45
  let ds := digits (if s.head? = some 45 ∨ s.head? = some 43 then s.tail else s)
  let n : Int := ds.foldl (fun n d => 10 * n + d) 0
  let n := if negative then -n else n
  if ds = [] ∨ n < low ∨ high < n then none else some n

def stol (s : Str) : Option Int := parseInt (-2 ^ 63) (2 ^ 63 - 1) s

def stoi (s : Str) : Option Int := parseInt (-2 ^ 31) (2 ^ 31 - 1) s

def ConvertString2Vector (str : Str) : List Str := (str.splitOn 44).map fun substring => substring.map tolower

def ConvertString2Pair (str : Str) : Str × Str :=
  match str.splitOn 58 with
  | [] => ([], [])
  | key :: values => (key.map tolower, values.flatMap fun substring => substring ++ [32])

def GetValueFromStrategyParamsByKey : List Str → Str → Str
  | [], _ => []
  | param :: strategy_params_v, key =>
    if key <:+: (ConvertString2Pair param).1 then (ConvertString2Pair param).2
    else GetValueFromStrategyParamsByKey strategy_params_v key

namespace MobilityOperation
variable (m : MobilityOperation)

def mo_strategy : Str := m.strategy.map tolower

def value (key : String) : Str := GetValueFromStrategyParamsByKey (ConvertString2Vector m.operationParams) (lit key)

def even_log_description : Str := m.value "reason"

def acknnowledgement_str : Str := m.value "acknowledgement"

def traffic_control_id : Str := (trim (m.value "traffic_control_id")).map tolower

def msgnum : Str := m.value "msgnum"

end MobilityOperation

/-- The message is taken for an acknowledgement. -/
def Settings.isAcknowledgement (settings : Settings) (m : MobilityOperation) : Bool :=
  m.mo_strategy ∈ ConvertString2Vector settings._strategies && _TCMAcknowledgementStrategy <:+: m.mo_strategy

/-! ### The handlers and the loop -/

section
variable {decode : Str → Option Int}

/-- What the loop over the matching TCMs ends with. -/
inductive Search (decode : Str → Option Int) where
  | removed (tcms : List (Entry decode))
  | notFound
  | threw

def Search.cons (e : Entry decode) : Search decode → Search decode
  | .removed tcms => .removed (e :: tcms)
  | .notFound => .notFound
  | .threw => .threw

/-- The loop over the TCMs with the id: it ends at the first one that does not decode, and `stol` may throw. -/
def search (traffic_control_id : Str) (msgnum : Option Int) : List (Entry decode) → Search decode
  | [] => .notFound
  | e :: tcms =>
    if e.key = traffic_control_id then
      match decode e.tcm.payload, msgnum with
      | none, _ => .notFound
      | some _, none => .threw
      | some k, some n => if k = n then .removed tcms else (search traffic_control_id msgnum tcms).cons e
    else (search traffic_control_id msgnum tcms).cons e

/-- `std::multimap::insert`: behind the entries with the same key. -/
def insert (e : Entry decode) (tcms : List (Entry decode)) : List (Entry decode) :=
  tcms.orderedInsert (fun a b => a.key < b.key) e

/-- The event, and for a negative acknowledgement the message to the cloud; `stoi` may throw. -/
def MobilityOperation.reports (m : MobilityOperation) : List (Output decode) :=
  match stoi m.acknnowledgement_str with
  | none => []
  | some ack =>
    let description := m.mo_strategy ++ lit ": Traffic control id = " ++ m.traffic_control_id ++
      (if m.hostStaticId.length ≤ 0 then [] else lit ", CMV Id = " ++ m.hostStaticId) ++
      lit ", reason = " ++ m.even_log_description
    if ack = 1 then [.info description]
    else
      [.warn description,
        .cloud (lit "<?xml version=\"1.0\" encoding=\"UTF-8\"?><TrafficControlAcknowledgement><reqid> " ++
          m.traffic_control_id ++ lit "</reqid><msgnum>" ++ m.msgnum ++ lit "</msgnum><cmvid>" ++ m.hostStaticId ++
          lit "</cmvid><acknowledgement>2</acknowledgement><description>" ++ m.even_log_description ++
          lit "</description></TrafficControlAcknowledgement>")]

namespace State
variable (s : State decode)

def report (m : MobilityOperation) : State decode := { s with sent := s.sent ++ m.reports }

def HandleMobilityOperationMessage (m : MobilityOperation) : State decode :=
  if s.settings.isAcknowledgement m then
    match search m.traffic_control_id (stol m.msgnum) s._not_ACK_TCMs with
    | .threw => s
    | .removed tcms => report { s with _not_ACK_TCMs := tcms } m
    | .notFound => s.report m
  else s

/-- The end of `CARMAResponseHandler` for the TCM that was broadcast. -/
def store (t : Tcm decode) : State decode :=
  if t.tcmv01_req_id_hex.length > 0 then
    { s with _not_ACK_TCMs := insert ⟨t, none, 0⟩ s._not_ACK_TCMs, incoming := none }
  else { s with incoming := none }

/-- The answer of `IsSkipBroadcastCurTCM`. -/
def isSkip (tcmv01_req_id_hex tcm_hex_payload : Str) : Bool :=
  s.settings._TCMRepeatedlyBroadCastTotalTimes = 0 ||
    s._tcm_broadcast_times.any fun c => c.1 = tcmv01_req_id_hex && c.2.tcm_hex = tcm_hex_payload &&
      c.2.num_of_times ≥ s.settings._TCMRepeatedlyBroadCastTotalTimes

/-- The counters behind `IsSkipBroadcastCurTCM`. -/
def countBroadcast (tcmv01_req_id_hex tcm_hex_payload : Str) : List (Str × TCMBroadcastMetadata) :=
  if s.settings._TCMRepeatedlyBroadCastTotalTimes = 0 then s._tcm_broadcast_times
  else if s._tcm_broadcast_times.any fun c => c.1 = tcmv01_req_id_hex && c.2.tcm_hex = tcm_hex_payload then
    s._tcm_broadcast_times.map fun c =>
      if c.1 = tcmv01_req_id_hex then
        (c.1, TCMBroadcastMetadata.count s.settings._TCMRepeatedlyBroadCastTotalTimes tcm_hex_payload c.2)
      else c
  else s._tcm_broadcast_times ++ [(tcmv01_req_id_hex, ⟨tcm_hex_payload, 1⟩)]

/-- The end of the loop body, for a TCM that did not expire. -/
def rebroadcast (e : Entry decode) : State decode :=
  let times := s.countBroadcast e.key e.tcm.payload
  if s.isSkip e.key e.tcm.payload then { s with _tcm_broadcast_times := times, visited := s.visited ++ [e] }
  else
    { s with
      _tcm_broadcast_times := times
      visited := s.visited ++ [{ e with rebroadcasts := e.rebroadcasts + 1 }]
      sent := s.sent ++ [.rebroadcast e.tcm] }

/-- The loop body. -/
def visit (e : Entry decode) (cur_time : Int) : State decode :=
  match s._tcm_broadcast_starting_time e.key with
  | none =>
    let starting_time := Function.update s._tcm_broadcast_starting_time e.key (some cur_time)
    rebroadcast { s with _tcm_broadcast_starting_time := starting_time } (e.see cur_time)
  | some starting_time =>
    if cur_time - starting_time > s.settings._TCMRepeatedlyBroadcastTimeOut.val then
      { s with
        visited := s.visited ++ [e.see cur_time]
        expired_req_ids := s.expired_req_ids ++
          [⟨e.key, cur_time, s.settings._TCMRepeatedlyBroadcastTimeOut.val⟩] }
    else s.rebroadcast (e.see cur_time)

/-- The event and the message to the cloud for an id that expired. -/
def noAcknowledgement (tcmv01_req_id_hex : Str) : List (Output decode) :=
  [.warn (_TCMAcknowledgementStrategy ++ lit ": " ++ s.settings._TCMNOAcknowledgementDescription ++
      lit " Traffic control id = " ++ tcmv01_req_id_hex),
    .cloud (lit "<?xml version=\"1.0\" encoding=\"UTF-8\"?><TrafficControlAcknowledgement><reqid> " ++
      tcmv01_req_id_hex ++ lit "</reqid><msgnum></msgnum><cmvid></cmvid><acknowledgement>3" ++
      lit "</acknowledgement><description>" ++ s.settings._TCMNOAcknowledgementDescription ++
      lit "</description></TrafficControlAcknowledgement>")]

/-- Each id once, in order. -/
def expiredIds : List Str := (s.expired_req_ids.map (·.reqid)).dedup.insertionSort (· ≤ ·)

/-- The loop over the expired ids, and the lock is given back. -/
def expire : State decode :=
  { s with
    _not_ACK_TCMs := s.visited.filter fun e => e.key ∉ s.expiredIds
    visited := []
    _tcm_broadcast_starting_time := fun k => if k ∈ s.expiredIds then none else s._tcm_broadcast_starting_time k
    _tcm_broadcast_times := s._tcm_broadcast_times.filter fun c => c.1 ∉ s.expiredIds
    expired_req_ids := []
    phase := .asleep
    sent := s.sent ++ s.expiredIds.flatMap s.noAcknowledgement }

def step (s : State decode) : Event decode → Option (State decode)
  | .UpdateConfigSettings settings => some { s with settings := settings }
  | .receive t =>
    match s.incoming with
    | none => some { s with incoming := some t, sent := s.sent ++ [.broadcast t] }
    | some _ => none
  | .store =>
    match s.incoming with
    | none => none
    | some t => if s.phase = .visiting then none else some (s.store t)
  | .mobilityOperation m => if s.phase = .visiting then none else some (s.HandleMobilityOperationMessage m)
  | .wake =>
    if s.phase = .asleep then
      if s._not_ACK_TCMs.length > 0 then some { s with phase := .awake }
      else some { s with _tcm_broadcast_times := [], _tcm_broadcast_starting_time := fun _ => none }
    else none
  | .lock => if s.phase = .awake then some { s with phase := .visiting } else none
  | .visit cur_time =>
    if s.phase = .visiting ∧ s.clock ≤ cur_time then
      match s._not_ACK_TCMs with
      | [] => none
      | e :: tcms => some (visit { s with _not_ACK_TCMs := tcms, clock := cur_time } e cur_time)
    else none
  | .expire => if s.phase = .visiting ∧ s._not_ACK_TCMs = [] then some s.expire else none

/-- What a step can do. -/
inductive Step : Event decode → State decode → Prop
  | configure (settings : Settings) : Step (.UpdateConfigSettings settings) { s with settings := settings }
  | receive (t : Tcm decode) (hincoming : s.incoming = none) :
      Step (.receive t) { s with incoming := some t, sent := s.sent ++ [.broadcast t] }
  | store (t : Tcm decode) (hincoming : s.incoming = some t) (hphase : s.phase ≠ .visiting) : Step .store (s.store t)
  | acknowledge (m : MobilityOperation) (hphase : s.phase ≠ .visiting) :
      Step (.mobilityOperation m) (s.HandleMobilityOperationMessage m)
  | wake (hphase : s.phase = .asleep) : Step .wake { s with phase := .awake }
  | clear (hphase : s.phase = .asleep) (hnil : s._not_ACK_TCMs = []) :
      Step .wake { s with _tcm_broadcast_times := [], _tcm_broadcast_starting_time := fun _ => none }
  | lock (hphase : s.phase = .awake) : Step .lock { s with phase := .visiting }
  | visit (cur_time : Int) (e : Entry decode) (tcms : List (Entry decode)) (hphase : s.phase = .visiting)
      (hclock : s.clock ≤ cur_time) (htcms : s._not_ACK_TCMs = e :: tcms) :
      Step (.visit cur_time) (visit { s with _not_ACK_TCMs := tcms, clock := cur_time } e cur_time)
  | expire (hphase : s.phase = .visiting) (hnil : s._not_ACK_TCMs = []) : Step .expire s.expire

theorem step_cases {s t : State decode} {ev : Event decode} (h : s.step ev = some t) : Step s ev t := by
  unfold step at h
  cases ev with
  | UpdateConfigSettings settings =>
    cases h
    exact .configure settings
  | receive x =>
    cases hin : s.incoming with
    | some y => rw [hin] at h; cases h
    | none =>
      rw [hin] at h
      cases h
      exact .receive x hin
  | store =>
    cases hin : s.incoming with
    | none => rw [hin] at h; cases h
    | some x =>
      rw [hin] at h
      obtain ⟨hphase, h⟩ := Option.ite_none_left_eq_some.1 h
      cases Option.some.inj h
      exact .store x hin hphase
  | mobilityOperation m =>
    obtain ⟨hphase, h⟩ := Option.ite_none_left_eq_some.1 h
    cases Option.some.inj h
    exact .acknowledge m hphase
  | wake =>
    obtain ⟨hphase, h⟩ := Option.ite_none_right_eq_some.1 h
    by_cases hlen : s._not_ACK_TCMs.length > 0
    · rw [if_pos hlen] at h
      cases h
      exact .wake hphase
    · rw [if_neg hlen] at h
      cases h
      exact .clear hphase (List.length_eq_zero_iff.1 (Nat.eq_zero_of_not_pos hlen))
  | lock =>
    obtain ⟨hphase, h⟩ := Option.ite_none_right_eq_some.1 h
    cases h
    exact .lock hphase
  | visit cur_time =>
    obtain ⟨⟨hphase, hclock⟩, h⟩ := Option.ite_none_right_eq_some.1 h
    cases htcms : s._not_ACK_TCMs with
    | nil => rw [htcms] at h; cases h
    | cons e tcms =>
      rw [htcms] at h
      cases Option.some.inj h
      exact .visit cur_time e tcms hphase hclock htcms
  | expire =>
    obtain ⟨⟨hphase, hnil⟩, h⟩ := Option.ite_none_right_eq_some.1 h
    cases Option.some.inj h
    exact .expire hphase hnil

end State

/-- Behind the constructor. -/
def State.init (settings : Settings) : State decode where
  settings := settings
  _not_ACK_TCMs := []
  visited := []
  _tcm_broadcast_starting_time := fun _ => none
  _tcm_broadcast_times := []
  incoming := none
  expired_req_ids := []
  phase := .asleep
  clock := 0
  sent := []

/-- Started with some settings and a clock at 0. -/
def plugin (decode : Str → Option Int) (settings : Settings) : Machine (State decode) (Event decode) :=
  ⟨.init settings, State.step⟩

end
end V2xHub.CARMACloudPlugin
