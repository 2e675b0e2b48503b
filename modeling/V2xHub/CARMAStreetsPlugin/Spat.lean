import V2xHub.JsonCpp.Value

/-!
# SPaT messages from JSON

`JsonToJ2735SpatConverter`: the structure it fills, and which JSON it converts without an exception (`SpatReadable`).
-/

namespace V2xHub.CARMAStreetsPlugin
open JsonCpp JsonCpp.Value

structure AdvisorySpeed where
  type : Int
  speed : Int
  confidence : Int
  Class : Int
  distance : Int

structure ConnectionManeuverAssist where
  connectionID : Int
  queueLength : Int
  availableStorageLength : Int
  waitOnStop : Bool
  pedBicycleDetect : Bool

structure TimeChangeDetails where
  startTime : Int
  minEndTime : Int
  maxEndTime : Int
  likelyTime : Int
  nextTime : Int
  confidence : Int

structure MovementEvent where
  eventState : Int
  timing : TimeChangeDetails
  speeds : Option (List AdvisorySpeed)

structure MovementState where
  movementName : Option Str
  signalGroup : Int
  state_time_speed : List MovementEvent
  maneuverAssistList : Option (List ConnectionManeuverAssist)

structure IntersectionState where
  name : Str
  id : Int
  revision : Int
  moy : Int
  timeStamp : Int
  status : UInt8 × UInt8
  enabledLanes : Option (List Int)
  states : List MovementState
  maneuverAssistList : Option (List ConnectionManeuverAssist)

structure SPAT where
  name : Option Str
  timeStamp : Option Int
  intersections : List IntersectionState

section
variable (valueToString : Double → Str)

/-- A name that is missing or empty is not set. -/
def optionalName (key : String) (json : Value) : Except Exception (Option Str) := do
  if ← json.isMember key then
    let name ← json.readAt key (asString valueToString)
    return if name.length ≠ 0 then some name else none
  else return none

/-- What `read` makes of the elements of an array; anything else is skipped. -/
def arrayAt {α : Type} (key : String) (read : Value → Except Exception α) (json : Value) :
    Except Exception (Option (List α)) := do
  let v ← json.member key
  if v.isArray then some <$> v.elements.mapM read else return none

def convertJson2AdvisorySpeed (speed_json : Value) : Except Exception AdvisorySpeed := do
  return {
    type := ← speed_json.readAt "type" asInt
    speed := ← speed_json.readAt "speed_limit" asInt
    confidence := ← speed_json.readAt "speed_confidence" asInt
    Class := ← speed_json.readAt "class" asInt
    distance := ← speed_json.readAt "distance" asInt }

def convertJson2ManeuverAssist (masst : Value) : Except Exception ConnectionManeuverAssist := do
  return {
    connectionID := ← masst.readAt "connection_id" asInt
    queueLength := ← masst.readAt "queue_length" asInt
    availableStorageLength := ← masst.readAt "available_storage_length" asInt
    waitOnStop := ← masst.readAt "wait_on_stop" asBool
    pedBicycleDetect := ← masst.readAt "ped_bicycle_detect" asBool }

def convertJson2TimeChangeDetail (time_change_detail_json : Value) : Except Exception TimeChangeDetails := do
  return {
    startTime := ← time_change_detail_json.readAt "start_time" asInt
    minEndTime := ← time_change_detail_json.readAt "min_end_time" asInt
    maxEndTime := ← time_change_detail_json.readAt "max_end_time" asInt
    likelyTime := ← time_change_detail_json.readAt "likely_time" asInt
    nextTime := ← time_change_detail_json.readAt "next_time" asInt
    confidence := ← time_change_detail_json.readAt "confidence" asInt }

def convertJson2MovementEvent (m_event : Value) : Except Exception MovementEvent := do
  return {
    eventState := ← m_event.readAt "event_state" asInt
    timing := ← m_event.readAt "timing" convertJson2TimeChangeDetail
    speeds := ← arrayAt "speeds" convertJson2AdvisorySpeed m_event }

def convertJson2Movement (movement_json : Value) : Except Exception MovementState := do
  return {
    movementName := ← optionalName valueToString "movement_name" movement_json
    signalGroup := ← movement_json.readAt "signal_group" asInt
    state_time_speed := (← arrayAt "state_time_speed" convertJson2MovementEvent movement_json).getD []
    maneuverAssistList := ← arrayAt "maneuver_assist_list" convertJson2ManeuverAssist movement_json }

/-- The two bytes of the status, the higher one first. -/
def statusBytes (status : Int) : UInt8 × UInt8 := (.ofNat (status / 256 % 256).toNat, .ofNat (status % 256).toNat)

def convertJson2IntersectionState (int_json : Value) : Except Exception IntersectionState := do
  return {
    name := ← int_json.readAt "name" (asString valueToString)
    id := ← int_json.readAt "id" asInt
    revision := ← int_json.readAt "revision" asInt
    moy := ← int_json.readAt "moy" asInt
    timeStamp := ← int_json.readAt "time_stamp" asInt
    status := statusBytes (← int_json.readAt "status" asInt)
    enabledLanes := ← arrayAt "enabled_lanes" asInt int_json
    states := (← arrayAt "states" (convertJson2Movement valueToString) int_json).getD []
    maneuverAssistList := ← arrayAt "maneuver_assist_list" convertJson2ManeuverAssist int_json }

def convertJson2Spat (spat_json : Value) : Except Exception SPAT := do
  return {
    name := ← optionalName valueToString "name" spat_json
    timeStamp := ← spat_json.optionalAt "time_stamp" asInt
    intersections := (← arrayAt "intersections" (convertJson2IntersectionState valueToString) spat_json).getD [] }

/-! ### What is converted -/

/-- The elements, if it is an array. -/
def ArrayOf (P : Value → Prop) (json : Value) : Prop := json.isArray = true → ∀ v ∈ json.elements, P v

def MovementEventReadable (json : Value) : Prop :=
  json.Reads asInt ["event_state"] ∧
    (json.get "timing").Reads asInt
      ["start_time", "min_end_time", "max_end_time", "likely_time", "next_time", "confidence"] ∧
    ArrayOf (Reads asInt ["type", "speed_limit", "speed_confidence", "class", "distance"]) (json.get "speeds")

def ManeuverAssistReadable (json : Value) : Prop :=
  json.Reads asInt ["connection_id", "queue_length", "available_storage_length"] ∧
    json.Reads asBool ["wait_on_stop", "ped_bicycle_detect"]

def MovementReadable (json : Value) : Prop :=
  json.Reads (asString valueToString) ["movement_name"] ∧ json.Reads asInt ["signal_group"] ∧
    ArrayOf MovementEventReadable (json.get "state_time_speed") ∧
    ArrayOf ManeuverAssistReadable (json.get "maneuver_assist_list")

def IntersectionStateReadable (json : Value) : Prop :=
  json.Reads (asString valueToString) ["name"] ∧
    json.Reads asInt ["id", "revision", "moy", "time_stamp", "status"] ∧
    ArrayOf (fun v => Succeeds v.asInt) (json.get "enabled_lanes") ∧
    ArrayOf (MovementReadable valueToString) (json.get "states") ∧
    ArrayOf ManeuverAssistReadable (json.get "maneuver_assist_list")

/-- Every value that the converter looks into is an object or null, and every value it converts is null, of a type that
JsonCpp converts, and in range. -/
def SpatReadable (json : Value) : Prop :=
  json.Reads (asString valueToString) ["name"] ∧ json.Reads asInt ["time_stamp"] ∧
    ArrayOf (IntersectionStateReadable valueToString) (json.get "intersections")

end

section
variable {valueToString : Double → Str} {α : Type} {read : Value → Except Exception α} {json : Value} {key : String}

theorem succeeds_mapM_iff {l : List Value} : Succeeds (l.mapM read) ↔ ∀ v ∈ l, Succeeds (read v) := by
  refine ⟨fun h => ?_, succeeds_mapM⟩
  induction l with
  | nil => exact fun v hv => absurd hv List.not_mem_nil
  | cons v l ih =>
    rw [List.mapM_cons] at h
    obtain ⟨a, ha, h⟩ := succeeds_bind.1 h
    obtain ⟨as, has, -⟩ := succeeds_bind.1 h
    exact List.forall_mem_cons.2 ⟨⟨a, ha⟩, ih ⟨as, has⟩⟩

theorem succeeds_arrayAt {P : Value → Prop} (h : ∀ v, Succeeds (read v) ↔ P v) :
    Succeeds (arrayAt key read json) ↔ json.Indexable ∧ ArrayOf P (json.get key) := by
  refine succeeds_member_bind.trans (and_congr_right fun _ => ?_)
  unfold ArrayOf
  cases (json.get key).isArray with
  | true => simpa [succeeds_map', ← h] using succeeds_mapM_iff
  | false => simp

theorem succeeds_optionalName :
    Succeeds (optionalName valueToString key json) ↔ Succeeds (json.readAt key (asString valueToString)) := by
  rw [succeeds_readAt]
  refine succeeds_isMember_bind.trans (and_congr_right fun hjson => ?_)
  cases h : json.contains key with
  | true =>
    refine (succeeds_bind_iff (Q := True) succeeds_readAt fun _ => iff_true_intro succeeds_pure).trans ?_
    rw [and_true, and_iff_right hjson]
  | false =>
    rw [get_of_not_contains h]
    exact iff_of_true succeeds_pure ⟨[], rfl⟩

theorem succeeds_convertJson2AdvisorySpeed : Succeeds (convertJson2AdvisorySpeed json) ↔
    json.Reads asInt ["type", "speed_limit", "speed_confidence", "class", "distance"] := by
  rw [reads_iff]
  iterate 5 refine reads_bind Iff.rfl fun _ => ?_
  exact reads_pure

theorem succeeds_convertJson2TimeChangeDetail : Succeeds (convertJson2TimeChangeDetail json) ↔ json.Reads asInt
    ["start_time", "min_end_time", "max_end_time", "likely_time", "next_time", "confidence"] := by
  rw [reads_iff]
  iterate 6 refine reads_bind Iff.rfl fun _ => ?_
  exact reads_pure

theorem succeeds_convertJson2ManeuverAssist :
    Succeeds (convertJson2ManeuverAssist json) ↔ ManeuverAssistReadable json := by
  have h : Succeeds (convertJson2ManeuverAssist json) ↔ Succeeds (json.readAt "connection_id" asInt) ∧
      Succeeds (json.readAt "queue_length" asInt) ∧ Succeeds (json.readAt "available_storage_length" asInt) ∧
      Succeeds (json.readAt "wait_on_stop" asBool) ∧ Succeeds (json.readAt "ped_bicycle_detect" asBool) ∧ True := by
    iterate 5 refine succeeds_bind_iff Iff.rfl fun _ => ?_
    exact iff_true_intro succeeds_pure
  rw [h]
  simp only [ManeuverAssistReadable, Reads, succeeds_readAt, List.forall_mem_cons, List.not_mem_nil, false_imp_iff,
    implies_true]
  tauto

theorem succeeds_convertJson2MovementEvent :
    Succeeds (convertJson2MovementEvent json) ↔ MovementEventReadable json := by
  have h : Succeeds (convertJson2MovementEvent json) ↔ Succeeds (json.readAt "event_state" asInt) ∧
      Succeeds (json.readAt "timing" convertJson2TimeChangeDetail) ∧
      Succeeds (arrayAt "speeds" convertJson2AdvisorySpeed json) ∧ True := by
    iterate 3 refine succeeds_bind_iff Iff.rfl fun _ => ?_
    exact iff_true_intro succeeds_pure
  rw [h, succeeds_readAt, succeeds_readAt, succeeds_arrayAt fun _ => succeeds_convertJson2AdvisorySpeed,
    succeeds_convertJson2TimeChangeDetail]
  unfold MovementEventReadable
  generalize ArrayOf _ (json.get "speeds") = speeds
  simp only [Reads, List.forall_mem_singleton]
  tauto

theorem succeeds_convertJson2Movement :
    Succeeds (convertJson2Movement valueToString json) ↔ MovementReadable valueToString json := by
  have h : Succeeds (convertJson2Movement valueToString json) ↔
      Succeeds (optionalName valueToString "movement_name" json) ∧ Succeeds (json.readAt "signal_group" asInt) ∧
      Succeeds (arrayAt "state_time_speed" convertJson2MovementEvent json) ∧
      Succeeds (arrayAt "maneuver_assist_list" convertJson2ManeuverAssist json) ∧ True := by
    iterate 4 refine succeeds_bind_iff Iff.rfl fun _ => ?_
    exact iff_true_intro succeeds_pure
  rw [h, succeeds_optionalName, succeeds_readAt, succeeds_readAt,
    succeeds_arrayAt fun _ => succeeds_convertJson2MovementEvent,
    succeeds_arrayAt fun _ => succeeds_convertJson2ManeuverAssist]
  simp only [MovementReadable, Reads, List.forall_mem_singleton]
  tauto

theorem succeeds_convertJson2IntersectionState :
    Succeeds (convertJson2IntersectionState valueToString json) ↔ IntersectionStateReadable valueToString json := by
  have h : Succeeds (convertJson2IntersectionState valueToString json) ↔
      Succeeds (json.readAt "name" (asString valueToString)) ∧ Succeeds (json.readAt "id" asInt) ∧
      Succeeds (json.readAt "revision" asInt) ∧ Succeeds (json.readAt "moy" asInt) ∧
      Succeeds (json.readAt "time_stamp" asInt) ∧ Succeeds (json.readAt "status" asInt) ∧
      Succeeds (arrayAt "enabled_lanes" asInt json) ∧
      Succeeds (arrayAt "states" (convertJson2Movement valueToString) json) ∧
      Succeeds (arrayAt "maneuver_assist_list" convertJson2ManeuverAssist json) ∧ True := by
    iterate 9 refine succeeds_bind_iff Iff.rfl fun _ => ?_
    exact iff_true_intro succeeds_pure
  rw [h, succeeds_arrayAt fun _ => Iff.rfl, succeeds_arrayAt fun _ => succeeds_convertJson2Movement,
    succeeds_arrayAt fun _ => succeeds_convertJson2ManeuverAssist]
  simp only [IntersectionStateReadable, Reads, succeeds_readAt, List.forall_mem_cons, List.not_mem_nil, false_imp_iff,
    implies_true]
  tauto

theorem succeeds_convertJson2Spat :
    Succeeds (convertJson2Spat valueToString json) ↔ SpatReadable valueToString json := by
  have h : Succeeds (convertJson2Spat valueToString json) ↔ Succeeds (optionalName valueToString "name" json) ∧
      Succeeds (json.optionalAt "time_stamp" asInt) ∧
      Succeeds (arrayAt "intersections" (convertJson2IntersectionState valueToString) json) ∧ True := by
    iterate 3 refine succeeds_bind_iff Iff.rfl fun _ => ?_
    exact iff_true_intro succeeds_pure
  rw [h, succeeds_optionalName, succeeds_readAt, succeeds_optionalAt ⟨0, rfl⟩,
    succeeds_arrayAt fun _ => succeeds_convertJson2IntersectionState]
  simp only [SpatReadable, Reads, List.forall_mem_singleton]
  tauto

end
end V2xHub.CARMAStreetsPlugin
