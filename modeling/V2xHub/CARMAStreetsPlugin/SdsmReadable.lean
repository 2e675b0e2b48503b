import V2xHub.CARMAStreetsPlugin.Sdsm
import V2xHub.CARMAStreetsPlugin.Spat

/-!
# The JSON that is converted to a sensor data sharing message

Which JSON values `convertJsonToSDSM` converts without an exception (`SdsmReadable`).
-/

namespace V2xHub.CARMAStreetsPlugin
open JsonCpp JsonCpp.Value

def CommonReadable (json : Value) : Prop :=
  json.Reads asInt64 ["obj_type", "obj_type_cfd", "object_id", "measurement_time", "time_confidence", "speed",
      "speed_confidence", "speed_z", "speed_confidence_z", "heading", "heading_conf", "acc_cfd_x", "acc_cfd_y", "acc_cfd_z",
      "acc_cfd_yaw"] ∧
    (json.get "pos").Reads asInt64 ["offset_x", "offset_y", "offset_z"] ∧
    (json.get "pos_confidence").Reads asInt64 ["pos", "elevation"] ∧
    (json.get "accel_4_way").Reads asInt64 ["long", "lat", "vert", "yaw"]

def VehicleReadable (json : Value) : Prop :=
  json.Reads asInt64 ["height", "vehicle_class", "vehicle_class_conf"] ∧
    (json.get "veh_attitude").Reads asInt64 ["pitch", "roll", "yaw"] ∧
    (json.get "veh_attitude_confidence").Reads asInt64 ["pitch_confidence", "roll_confidence", "yaw_confidence"] ∧
    (json.get "veh_ang_vel").Reads asInt64 ["pitch_rate", "roll_rate"] ∧
    (json.get "veh_ang_vel_confidence").Reads asInt64 ["pitch_rate_confidence", "roll_rate_confidence"] ∧
    (json.get "size").Reads asInt64 ["length", "width"] ∧
    (json.get "vehicle_size_confidence").Reads asInt64
      ["vehicle_length_confidence", "vehicle_width_confidence", "vehicle_height_confidence"]

/-- Of several members the first one is read. -/
def PropulsionReadable (json : Value) : Prop :=
  json.Indexable ∧
    if json.contains "human" then Succeeds (json.get "human").asInt64
    else if json.contains "animal" then Succeeds (json.get "animal").asInt64
    else if json.contains "motor" then Succeeds (json.get "motor").asInt64
    else True

def VRUReadable (json : Value) : Prop :=
  json.Reads asInt64 ["basic_type", "attachment", "radius"] ∧ PropulsionReadable (json.get "propulsion")

def ObstacleReadable (json : Value) : Prop :=
  json.Indexable ∧ (json.get "obst_size").Reads asInt64 ["length", "width", "height"] ∧
    (json.get "obst_size_confidence").Reads asInt64 ["length_confidence", "width_confidence", "height_confidence"]

/-- Of several members the first one is read. -/
def OptionalDataReadable (json : Value) : Prop :=
  json.Indexable ∧
    if json.contains "detected_vehicle_data" then VehicleReadable (json.get "detected_vehicle_data")
    else if json.contains "detected_vru_data" then VRUReadable (json.get "detected_vru_data")
    else if json.contains "detected_obstacle_data" then ObstacleReadable (json.get "detected_obstacle_data")
    else True

def ObjectReadable (json : Value) : Prop :=
  json.Indexable ∧ (json.get "detected_object_data").Indexable ∧
    CommonReadable ((json.get "detected_object_data").get "detected_object_common_data") ∧
    OptionalDataReadable ((json.get "detected_object_data").get "detected_object_optional_data")

/-- Every value that the converter looks into is an object or null, every value it converts is null, of a type that JsonCpp
converts, and in range, and the source id has four characters. -/
def SdsmReadable (valueToString : Double → Str) (json : Value) : Prop :=
  json.Reads asInt64 ["msg_cnt", "equipment_type", "ref_pos_el_conf"] ∧
    (∃ id, (json.get "source_id").asString valueToString = .ok id ∧ 4 ≤ id.length) ∧
    (json.get "sdsm_time_stamp").Reads asInt64 ["year", "month", "day", "hour", "minute", "second", "offset"] ∧
    (json.get "ref_pos").Reads asInt64 ["lat", "long", "elevation"] ∧
    (json.get "ref_pos_xy_conf").Reads asInt64 ["semi_major", "semi_minor", "orientation"] ∧
    ArrayOf ObjectReadable (json.get "objects")

section
variable {json : Value} {key : String}

theorem succeeds_optionalInt64 : Succeeds (json.optionalAt key asInt64) ↔ Succeeds (json.int64At key) :=
  (succeeds_optionalAt ⟨0, rfl⟩).trans succeeds_readAt.symm

theorem reads_int64_cons (key : String) {keys : List String} :
    json.Reads asInt64 (key :: keys) ↔ Succeeds (json.int64At key) ∧ ∀ k ∈ keys, Succeeds (json.int64At k) := reads_cons

theorem succeeds_DDateTime {uninitialized : DDateTime} : Succeeds (DDateTime.ofJson uninitialized json) ↔
    json.Reads asInt64 ["year", "month", "day", "hour", "minute", "second", "offset"] := by
  rw [reads_iff]
  iterate 7 refine reads_bind succeeds_optionalInt64 fun _ => ?_
  exact reads_pure

theorem succeeds_Position3D :
    Succeeds (Position3D.ofJson json) ↔ json.Reads asInt64 ["lat", "long", "elevation"] := by
  rw [reads_iff]
  iterate 2 refine reads_bind Iff.rfl fun _ => ?_
  refine reads_bind succeeds_optionalInt64 fun _ => ?_
  exact reads_pure

theorem succeeds_PositionalAccuracy :
    Succeeds (PositionalAccuracy.ofJson json) ↔ json.Reads asInt64 ["semi_major", "semi_minor", "orientation"] := by
  rw [reads_iff]
  iterate 3 refine reads_bind Iff.rfl fun _ => ?_
  exact reads_pure

theorem succeeds_PositionOffsetXYZ :
    Succeeds (PositionOffsetXYZ.ofJson json) ↔ json.Reads asInt64 ["offset_x", "offset_y", "offset_z"] := by
  rw [reads_iff]
  iterate 2 refine reads_bind Iff.rfl fun _ => ?_
  refine reads_bind succeeds_optionalInt64 fun _ => ?_
  exact reads_pure

theorem succeeds_PositionConfidenceSet :
    Succeeds (PositionConfidenceSet.ofJson json) ↔ json.Reads asInt64 ["pos", "elevation"] := by
  rw [reads_iff]
  iterate 2 refine reads_bind Iff.rfl fun _ => ?_
  exact reads_pure

theorem succeeds_AccelerationSet4Way :
    Succeeds (AccelerationSet4Way.ofJson json) ↔ json.Reads asInt64 ["long", "lat", "vert", "yaw"] := by
  rw [reads_iff]
  iterate 4 refine reads_bind Iff.rfl fun _ => ?_
  exact reads_pure

/-- Members of null are null. -/
theorem reads_null {keys : List String} : null.Reads asInt64 keys := ⟨trivial, fun _ _ => ⟨0, rfl⟩⟩

theorem succeeds_common : Succeeds (DetectedObjectCommonData.ofJson json) ↔ CommonReadable json := by
  have h : Succeeds (DetectedObjectCommonData.ofJson json) ↔ Succeeds (json.int64At "obj_type") ∧
      Succeeds (json.int64At "obj_type_cfd") ∧ Succeeds (json.int64At "object_id") ∧
      Succeeds (json.int64At "measurement_time") ∧ Succeeds (json.int64At "time_confidence") ∧
      Succeeds (json.readAt "pos" PositionOffsetXYZ.ofJson) ∧
      Succeeds (json.readAt "pos_confidence" PositionConfidenceSet.ofJson) ∧ Succeeds (json.int64At "speed") ∧
      Succeeds (json.int64At "speed_confidence") ∧ Succeeds (json.int64At "speed_z") ∧
      Succeeds (json.int64At "speed_confidence_z") ∧ Succeeds (json.int64At "heading") ∧
      Succeeds (json.int64At "heading_conf") ∧ Succeeds (json.optionalAt "accel_4_way" AccelerationSet4Way.ofJson) ∧
      Succeeds (json.int64At "acc_cfd_x") ∧ Succeeds (json.int64At "acc_cfd_y") ∧ Succeeds (json.int64At "acc_cfd_z") ∧
      Succeeds (json.int64At "acc_cfd_yaw") ∧ True := by
    iterate 9 refine succeeds_bind_iff Iff.rfl fun _ => ?_
    iterate 2 refine succeeds_bind_iff succeeds_optionalInt64 fun _ => ?_
    iterate 3 refine succeeds_bind_iff Iff.rfl fun _ => ?_
    iterate 4 refine succeeds_bind_iff succeeds_optionalInt64 fun _ => ?_
    exact iff_true_intro succeeds_pure
  rw [h, succeeds_readAt, succeeds_readAt, succeeds_optionalAt (succeeds_AccelerationSet4Way.2 reads_null),
    succeeds_PositionOffsetXYZ, succeeds_PositionConfidenceSet, succeeds_AccelerationSet4Way, CommonReadable,
    reads_int64_cons "obj_type"]
  simp only [List.forall_mem_cons, List.not_mem_nil, false_imp_iff, implies_true, and_true]
  constructor
  · rintro ⟨h1, h2, h3, h4, h5, ⟨-, hpos⟩, ⟨-, hconfidence⟩, h6, h7, h8, h9, h10, h11, ⟨-, haccel⟩, h12, h13, h14, h15⟩
    exact ⟨⟨h1, h2, h3, h4, h5, h6, h7, h8, h9, h10, h11, h12, h13, h14, h15⟩, hpos, hconfidence, haccel⟩
  · rintro ⟨⟨h1, h2, h3, h4, h5, h6, h7, h8, h9, h10, h11, h12, h13, h14, h15⟩, hpos, hconfidence, haccel⟩
    have hjson : json.Indexable := (succeeds_readAt.1 h1).1
    exact ⟨h1, h2, h3, h4, h5, ⟨hjson, hpos⟩, ⟨hjson, hconfidence⟩, h6, h7, h8, h9, h10, h11, ⟨hjson, haccel⟩, h12, h13, h14,
      h15⟩

theorem succeeds_Attitude : Succeeds (Attitude.ofJson json) ↔ json.Reads asInt64 ["pitch", "roll", "yaw"] := by
  rw [reads_iff]
  iterate 3 refine reads_bind Iff.rfl fun _ => ?_
  exact reads_pure

theorem succeeds_AttitudeConfidence : Succeeds (AttitudeConfidence.ofJson json) ↔
    json.Reads asInt64 ["pitch_confidence", "roll_confidence", "yaw_confidence"] := by
  rw [reads_iff]
  iterate 3 refine reads_bind Iff.rfl fun _ => ?_
  exact reads_pure

theorem succeeds_AngularVelocity :
    Succeeds (AngularVelocity.ofJson json) ↔ json.Reads asInt64 ["pitch_rate", "roll_rate"] := by
  rw [reads_iff]
  iterate 2 refine reads_bind Iff.rfl fun _ => ?_
  exact reads_pure

theorem succeeds_AngularVelocityConfidence : Succeeds (AngularVelocityConfidence.ofJson json) ↔
    json.Reads asInt64 ["pitch_rate_confidence", "roll_rate_confidence"] := by
  rw [reads_iff]
  iterate 2 refine reads_bind succeeds_optionalInt64 fun _ => ?_
  exact reads_pure

theorem succeeds_VehicleSize : Succeeds (VehicleSize.ofJson json) ↔ json.Reads asInt64 ["length", "width"] := by
  rw [reads_iff]
  iterate 2 refine reads_bind Iff.rfl fun _ => ?_
  exact reads_pure

theorem succeeds_VehicleSizeConfidence : Succeeds (VehicleSizeConfidence.ofJson json) ↔ json.Reads asInt64
    ["vehicle_length_confidence", "vehicle_width_confidence", "vehicle_height_confidence"] := by
  rw [reads_iff]
  iterate 2 refine reads_bind Iff.rfl fun _ => ?_
  refine reads_bind succeeds_optionalInt64 fun _ => ?_
  exact reads_pure

theorem succeeds_vehicle : Succeeds (DetectedVehicleData.ofJson json) ↔ VehicleReadable json := by
  have h : Succeeds (DetectedVehicleData.ofJson json) ↔ Succeeds (json.optionalAt "veh_attitude" Attitude.ofJson) ∧
      Succeeds (json.optionalAt "veh_attitude_confidence" AttitudeConfidence.ofJson) ∧
      Succeeds (json.optionalAt "veh_ang_vel" AngularVelocity.ofJson) ∧
      Succeeds (json.optionalAt "veh_ang_vel_confidence" AngularVelocityConfidence.ofJson) ∧
      Succeeds (json.optionalAt "size" VehicleSize.ofJson) ∧ Succeeds (json.int64At "height") ∧
      Succeeds (json.optionalAt "vehicle_size_confidence" VehicleSizeConfidence.ofJson) ∧
      Succeeds (json.int64At "vehicle_class") ∧ Succeeds (json.int64At "vehicle_class_conf") ∧ True := by
    iterate 5 refine succeeds_bind_iff Iff.rfl fun _ => ?_
    refine succeeds_bind_iff succeeds_optionalInt64 fun _ => ?_
    refine succeeds_bind_iff Iff.rfl fun _ => ?_
    iterate 2 refine succeeds_bind_iff succeeds_optionalInt64 fun _ => ?_
    exact iff_true_intro succeeds_pure
  rw [h, succeeds_optionalAt (succeeds_Attitude.2 reads_null), succeeds_Attitude,
    succeeds_optionalAt (succeeds_AttitudeConfidence.2 reads_null), succeeds_AttitudeConfidence,
    succeeds_optionalAt (succeeds_AngularVelocity.2 reads_null), succeeds_AngularVelocity,
    succeeds_optionalAt (succeeds_AngularVelocityConfidence.2 reads_null), succeeds_AngularVelocityConfidence,
    succeeds_optionalAt (succeeds_VehicleSize.2 reads_null), succeeds_VehicleSize,
    succeeds_optionalAt (succeeds_VehicleSizeConfidence.2 reads_null), succeeds_VehicleSizeConfidence, VehicleReadable,
    reads_int64_cons "height"]
  simp only [List.forall_mem_cons, List.not_mem_nil, false_imp_iff, implies_true, and_true]
  constructor
  · rintro ⟨⟨-, hattitude⟩, ⟨-, hconfidence⟩, ⟨-, hvel⟩, ⟨-, hvelConfidence⟩, ⟨-, hsize⟩, h1, ⟨-, hsizeConfidence⟩, h2, h3⟩
    exact ⟨⟨h1, h2, h3⟩, hattitude, hconfidence, hvel, hvelConfidence, hsize, hsizeConfidence⟩
  · rintro ⟨⟨h1, h2, h3⟩, hattitude, hconfidence, hvel, hvelConfidence, hsize, hsizeConfidence⟩
    have hjson : json.Indexable := (succeeds_readAt.1 h1).1
    exact ⟨⟨hjson, hattitude⟩, ⟨hjson, hconfidence⟩, ⟨hjson, hvel⟩, ⟨hjson, hvelConfidence⟩, ⟨hjson, hsize⟩, h1,
      ⟨hjson, hsizeConfidence⟩, h2, h3⟩

theorem succeeds_propulsion : Succeeds (PropelledInformation.ofJson json) ↔ PropulsionReadable json := by
  refine succeeds_isMember_bind.trans (and_congr_right fun hjson => ?_)
  have hread : ∀ key (f : Int64 → PropelledInformation), Succeeds (do return f (← json.int64At key)) ↔
      Succeeds (json.get key).asInt64 := fun key f =>
    (succeeds_bind_iff (Q := True) succeeds_readAt fun _ => iff_true_intro succeeds_pure).trans
      ((iff_of_eq (and_true _)).trans (and_iff_right hjson))
  split
  · exact hread _ _
  · refine succeeds_isMember_bind.trans ((and_iff_right hjson).trans ?_)
    split
    · exact hread _ _
    · refine succeeds_isMember_bind.trans ((and_iff_right hjson).trans ?_)
      split
      · exact hread _ _
      · exact iff_true_intro succeeds_pure

theorem succeeds_VRU : Succeeds (DetectedVRUData.ofJson json) ↔ VRUReadable json := by
  have h : Succeeds (DetectedVRUData.ofJson json) ↔ Succeeds (json.int64At "basic_type") ∧
      Succeeds (json.optionalAt "propulsion" PropelledInformation.ofJson) ∧ Succeeds (json.int64At "attachment") ∧
      Succeeds (json.int64At "radius") ∧ True := by
    refine succeeds_bind_iff succeeds_optionalInt64 fun _ => ?_
    refine succeeds_bind_iff Iff.rfl fun _ => ?_
    iterate 2 refine succeeds_bind_iff succeeds_optionalInt64 fun _ => ?_
    exact iff_true_intro succeeds_pure
  rw [h, succeeds_optionalAt (succeeds_propulsion.2 ⟨trivial, trivial⟩), succeeds_propulsion, VRUReadable,
    reads_int64_cons]
  simp only [List.forall_mem_cons, List.not_mem_nil, false_imp_iff, implies_true, and_true]
  constructor
  · rintro ⟨h1, ⟨-, hpropulsion⟩, h2, h3⟩
    exact ⟨⟨h1, h2, h3⟩, hpropulsion⟩
  · rintro ⟨⟨h1, h2, h3⟩, hpropulsion⟩
    exact ⟨h1, ⟨(succeeds_readAt.1 h1).1, hpropulsion⟩, h2, h3⟩

theorem succeeds_ObstacleSize : Succeeds (ObstacleSize.ofJson json) ↔ json.Reads asInt64 ["length", "width", "height"] := by
  rw [reads_iff]
  iterate 2 refine reads_bind Iff.rfl fun _ => ?_
  refine reads_bind succeeds_optionalInt64 fun _ => ?_
  exact reads_pure

theorem succeeds_ObstacleSizeConfidence : Succeeds (ObstacleSizeConfidence.ofJson json) ↔
    json.Reads asInt64 ["length_confidence", "width_confidence", "height_confidence"] := by
  rw [reads_iff]
  iterate 2 refine reads_bind Iff.rfl fun _ => ?_
  refine reads_bind succeeds_optionalInt64 fun _ => ?_
  exact reads_pure

theorem succeeds_obstacle : Succeeds (DetectedObstacleData.ofJson json) ↔ ObstacleReadable json := by
  have h : Succeeds (DetectedObstacleData.ofJson json) ↔ Succeeds (json.readAt "obst_size" ObstacleSize.ofJson) ∧
      Succeeds (json.readAt "obst_size_confidence" ObstacleSizeConfidence.ofJson) ∧ True := by
    iterate 2 refine succeeds_bind_iff Iff.rfl fun _ => ?_
    exact iff_true_intro succeeds_pure
  rw [h, succeeds_readAt, succeeds_readAt, succeeds_ObstacleSize, succeeds_ObstacleSizeConfidence, ObstacleReadable]
  tauto

theorem succeeds_populateOptionalData : Succeeds (populateOptionalData json) ↔ OptionalDataReadable json := by
  refine succeeds_isMember_bind.trans (and_congr_right fun hjson => ?_)
  have hread : ∀ {α : Type} {P : Value → Prop} {read : Value → Except Exception α} (key) (f : α → DetectedObjectOptionalData),
      (∀ v, Succeeds (read v) ↔ P v) → (Succeeds (do return f (← json.readAt key read)) ↔ P (json.get key)) := by
    intro α P read key f h
    rw [succeeds_bind_iff (Q := True) succeeds_readAt fun _ => iff_true_intro succeeds_pure, and_true,
      and_iff_right hjson]
    exact h _
  split
  · exact hread _ _ fun _ => succeeds_vehicle
  · refine succeeds_isMember_bind.trans ((and_iff_right hjson).trans ?_)
    split
    · exact hread _ _ fun _ => succeeds_VRU
    · refine succeeds_isMember_bind.trans ((and_iff_right hjson).trans ?_)
      split
      · exact hread _ _ fun _ => succeeds_obstacle
      · exact iff_true_intro succeeds_pure

theorem succeeds_object : Succeeds (DetectedObjectData.ofJson json) ↔ ObjectReadable json := by
  refine succeeds_member_bind.trans (and_congr_right fun _ => ?_)
  generalize json.get "detected_object_data" = data
  have h : Succeeds (do
      return { detObjCommon := ← data.readAt "detected_object_common_data" DetectedObjectCommonData.ofJson,
               detObjOptData := ← data.optionalAt "detected_object_optional_data" populateOptionalData :
        DetectedObjectData }) ↔
      Succeeds (data.readAt "detected_object_common_data" DetectedObjectCommonData.ofJson) ∧
      Succeeds (data.optionalAt "detected_object_optional_data" populateOptionalData) ∧ True := by
    iterate 2 refine succeeds_bind_iff Iff.rfl fun _ => ?_
    exact iff_true_intro succeeds_pure
  rw [h, succeeds_readAt, succeeds_optionalAt (succeeds_populateOptionalData.2 ⟨trivial, trivial⟩), succeeds_common,
    succeeds_populateOptionalData]
  tauto

theorem succeeds_objectsOfJson :
    Succeeds (objectsOfJson json) ↔ json.Indexable ∧ ArrayOf ObjectReadable (json.get "objects") := by
  refine succeeds_isMember_bind.trans (and_congr_right fun hjson => ?_)
  cases h : json.contains "objects" with
  | true =>
    refine succeeds_member_bind.trans ((and_iff_right hjson).trans ?_)
    unfold ArrayOf
    cases (json.get "objects").isArray with
    | true =>
      refine succeeds_mapM_iff.trans ?_
      simp only [succeeds_object, forall_true_left]
    | false => simp
  | false =>
    rw [get_of_not_contains h]
    exact iff_of_true succeeds_pure fun h => by cases h

theorem succeeds_substr {pos : Nat} {text : Str} : Succeeds (substr pos text) ↔ pos ≤ text.length := by
  unfold substr
  split
  · rename_i h
    exact iff_of_true succeeds_ok h
  · rename_i h
    exact iff_of_false not_succeeds_error h

theorem succeeds_convertJsonToSDSM {valueToString : Double → Str} (uninitialized : DDateTime) :
    Succeeds (convertJsonToSDSM valueToString uninitialized json) ↔ SdsmReadable valueToString json := by
  have h : Succeeds (convertJsonToSDSM valueToString uninitialized json) ↔ Succeeds (json.int64At "msg_cnt") ∧
      (∃ id, json.readAt "source_id" (asString valueToString) = .ok id ∧ 4 ≤ id.length ∧
        Succeeds (json.int64At "equipment_type") ∧
        Succeeds (json.readAt "sdsm_time_stamp" (DDateTime.ofJson uninitialized)) ∧
        Succeeds (json.readAt "ref_pos" Position3D.ofJson) ∧
        Succeeds (json.readAt "ref_pos_xy_conf" PositionalAccuracy.ofJson) ∧ Succeeds (json.int64At "ref_pos_el_conf") ∧
        Succeeds (objectsOfJson json) ∧ True) := by
    refine succeeds_bind_iff Iff.rfl fun _ => succeeds_bind.trans (exists_congr fun id => and_congr_right fun _ => ?_)
    refine succeeds_bind_iff succeeds_substr fun _ => ?_
    iterate 4 refine succeeds_bind_iff Iff.rfl fun _ => ?_
    refine succeeds_bind_iff succeeds_optionalInt64 fun _ => ?_
    refine succeeds_bind_iff Iff.rfl fun _ => ?_
    exact iff_true_intro succeeds_pure
  rw [h, succeeds_readAt, succeeds_readAt, succeeds_readAt, succeeds_DDateTime, succeeds_Position3D,
    succeeds_PositionalAccuracy, succeeds_objectsOfJson, SdsmReadable, reads_int64_cons "msg_cnt"]
  simp only [List.forall_mem_cons, List.not_mem_nil, false_imp_iff, implies_true, and_true]
  have hmember : json.Indexable → json.readAt "source_id" (asString valueToString) =
      (json.get "source_id").asString valueToString := fun hjson => by rw [readAt, member_eq hjson, ok_bind]
  constructor
  · rintro ⟨h1, id, hid, hlength, h2, ⟨hjson, htime⟩, ⟨-, hpos⟩, ⟨-, haccuracy⟩, h3, -, hobjects⟩
    exact ⟨⟨h1, h2, h3⟩, ⟨id, (hmember hjson).symm.trans hid, hlength⟩, htime, hpos, haccuracy, hobjects⟩
  · rintro ⟨⟨h1, h2, h3⟩, ⟨id, hid, hlength⟩, htime, hpos, haccuracy, hobjects⟩
    have hjson : json.Indexable := (succeeds_readAt.1 h1).1
    exact ⟨h1, id, (hmember hjson).trans hid, hlength, h2, ⟨hjson, htime⟩, ⟨hjson, hpos⟩, ⟨hjson, haccuracy⟩, h3, hjson,
      hobjects⟩

end
end V2xHub.CARMAStreetsPlugin
