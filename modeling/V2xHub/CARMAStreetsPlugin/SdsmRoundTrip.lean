import V2xHub.CARMAStreetsPlugin.Sdsm
import Mathlib.Data.List.TakeWhile

/-!
# The round trip of sensor data sharing messages

What comes back of a message that was written (`received`): the source id becomes the last four digits of its text, the
lights are lost and every propulsion is a human one. A message goes through unchanged exactly if it is `Kept`
(`sdsm_round_trip`).
-/

namespace V2xHub.CARMAStreetsPlugin
open JsonCpp JsonCpp.Value

/-! ### The members of the optional fields -/

def DDateTime.members (t : DDateTime) : List (List String × Bool) :=
  [(["year"], t.year.isSome), (["month"], t.month.isSome), (["day"], t.day.isSome), (["hour"], t.hour.isSome),
    (["minute"], t.minute.isSome), (["second"], t.second.isSome), (["offset"], t.offset.isSome)]

def DetectedObjectCommonData.members (c : DetectedObjectCommonData) : List (List String × Bool) :=
  [(["pos", "offset_z"], c.pos.offsetZ.isSome), (["speed_z"], c.speedZ.isSome),
    (["speed_confidence_z"], c.speedConfidenceZ.isSome), (["accel_4_way"], c.accel4way.isSome),
    (["acc_cfd_x"], c.accCfdX.isSome), (["acc_cfd_y"], c.accCfdY.isSome), (["acc_cfd_z"], c.accCfdZ.isSome),
    (["acc_cfd_yaw"], c.accCfdYaw.isSome)]

def DetectedVehicleData.members (v : DetectedVehicleData) : List (List String × Bool) :=
  [(["lights"], v.lights.isSome), (["veh_attitude"], v.vehAttitude.isSome),
    (["veh_attitude_confidence"], v.vehAttitudeConfidence.isSome), (["veh_ang_vel"], v.vehAngVel.isSome),
    (["veh_ang_vel_confidence"], v.vehAngVelConfidence.isSome),
    (["veh_ang_vel_confidence", "pitch_rate_confidence"], v.vehAngVelConfidence.any (·.pitchRateConfidence.isSome)),
    (["veh_ang_vel_confidence", "roll_rate_confidence"], v.vehAngVelConfidence.any (·.rollRateConfidence.isSome)),
    (["size"], v.size.isSome), (["height"], v.height.isSome), (["vehicle_size_confidence"], v.vehicleSizeConfidence.isSome),
    (["vehicle_size_confidence", "vehicle_height_confidence"],
      v.vehicleSizeConfidence.any (·.vehicleHeightConfidence.isSome)),
    (["vehicle_class"], v.vehicleClass.isSome), (["vehicle_class_conf"], v.classConf.isSome)]

def PropelledInformation.members : PropelledInformation → List (List String × Bool)
  | NOTHING => [(["human"], false), (["animal"], false), (["motor"], false)]
  | human _ => [(["human"], true), (["animal"], false), (["motor"], false)]
  | animal _ => [(["human"], false), (["animal"], true), (["motor"], false)]
  | motor _ => [(["human"], false), (["animal"], false), (["motor"], true)]

def DetectedVRUData.members (v : DetectedVRUData) : List (List String × Bool) :=
  [(["basic_type"], v.basicType.isSome), (["propulsion"], v.propulsion.isSome), (["attachment"], v.attachment.isSome),
    (["radius"], v.radius.isSome)] ++ under "propulsion" (v.propulsion.elim [] PropelledInformation.members)

def DetectedObstacleData.members (o : DetectedObstacleData) : List (List String × Bool) :=
  [(["obst_size", "height"], o.obstSize.height.isSome),
    (["obst_size_confidence", "height_confidence"], o.obstSizeConfidence.heightConfidence.isSome)]

def DetectedObjectOptionalData.members : DetectedObjectOptionalData → List (List String × Bool)
  | NOTHING => [(["detected_vehicle_data"], false), (["detected_vru_data"], false), (["detected_obstacle_data"], false)]
  | detVeh data =>
    [(["detected_vehicle_data"], true), (["detected_vru_data"], false), (["detected_obstacle_data"], false)] ++
      under "detected_vehicle_data" data.members
  | detVRU data =>
    [(["detected_vehicle_data"], false), (["detected_vru_data"], true), (["detected_obstacle_data"], false)] ++
      under "detected_vru_data" data.members
  | detObst data =>
    [(["detected_vehicle_data"], false), (["detected_vru_data"], false), (["detected_obstacle_data"], true)] ++
      under "detected_obstacle_data" data.members

def DetectedObjectData.members (o : DetectedObjectData) : List (List String × Bool) :=
  under "detected_object_data" (under "detected_object_common_data" o.detObjCommon.members ++
    (["detected_object_optional_data"], o.detObjOptData.isSome) ::
      under "detected_object_optional_data" (o.detObjOptData.elim [] DetectedObjectOptionalData.members))

/-- Those of the objects are their own. -/
def SensorDataSharingMessage.members (m : SensorDataSharingMessage) : List (List String × Bool) :=
  under "sdsm_time_stamp" m.sDSMTimeStamp.members ++
    [(["ref_pos", "elevation"], m.refPos.elevation.isSome), (["ref_pos_el_conf"], m.refPosElConf.isSome)]

/-- No null pointer is dereferenced, a member is there exactly if its field is, and the message comes back. -/
def RoundTrips (valueToString : Double → Str) (uninitialized : DDateTime) (m : SensorDataSharingMessage) : Prop :=
  ∃ json objects, convertJ3224ToSDSMJSON m = some json ∧ json.Emits m.members ∧ json.member "objects" = Except.ok objects ∧
    List.Forall₂ (fun o v => v.Emits o.members) m.objects objects.elements ∧
    convertJsonToSDSM valueToString uninitialized json = .ok m

/-! ### The messages that go through -/

def DDateTime.Complete (t : DDateTime) : Prop :=
  t.year.isSome ∧ t.month.isSome ∧ t.day.isSome ∧ t.hour.isSome ∧ t.minute.isSome ∧ t.second.isSome ∧ t.offset.isSome

def DetectedObjectCommonData.Complete (c : DetectedObjectCommonData) : Prop :=
  c.pos.offsetZ.isSome ∧ c.speedZ.isSome ∧ c.speedConfidenceZ.isSome ∧ c.accel4way.isSome ∧ c.accCfdX.isSome ∧
    c.accCfdY.isSome ∧ c.accCfdZ.isSome ∧ c.accCfdYaw.isSome

/-- A propulsion has to be a human one. -/
def DetectedVRUData.Kept (v : DetectedVRUData) : Prop :=
  v.basicType.isSome ∧ (∃ type, v.propulsion = some (.human type)) ∧ v.attachment.isSome ∧ v.radius.isSome

def DetectedObstacleData.Complete (o : DetectedObstacleData) : Prop :=
  o.obstSize.height.isSome ∧ o.obstSizeConfidence.heightConfidence.isSome

/-- No vehicle comes back with its lights. -/
def DetectedObjectOptionalData.Kept : DetectedObjectOptionalData → Prop
  | NOTHING => True
  | detVeh _ => False
  | detVRU data => data.Kept
  | detObst data => data.Complete

def DetectedObjectData.Kept (o : DetectedObjectData) : Prop :=
  o.detObjCommon.Complete ∧ ∀ data, o.detObjOptData = some data → data.Kept

/-- The source ids whose last two bytes, in hexadecimal digits, are the source id: 33 33 33 30 to 33 33 33 39. -/
def SourceKept (sourceID : List UInt8) : Prop := ∃ d : UInt8, 0x30 ≤ d ∧ d ≤ 0x39 ∧ sourceID = [0x33, 0x33, 0x33, d]

def SensorDataSharingMessage.Kept (m : SensorDataSharingMessage) : Prop :=
  SourceKept m.sourceID ∧ m.sDSMTimeStamp.Complete ∧ m.refPos.elevation.isSome ∧ m.refPosElConf.isSome ∧
    ∀ o ∈ m.objects, o.Kept

/-! ### What comes back -/

/-- Without a member no propulsion comes back. -/
def PropelledInformation.received : PropelledInformation → Option PropelledInformation
  | NOTHING => none
  | human type => some (human type)
  | animal type => some (human type)
  | motor type => some (human type)

def DetectedVRUData.received (v : DetectedVRUData) : DetectedVRUData :=
  { v with propulsion := v.propulsion.bind PropelledInformation.received }

def DetectedObjectOptionalData.received : DetectedObjectOptionalData → DetectedObjectOptionalData
  | NOTHING => NOTHING
  | detVeh data => detVeh { data with lights := none }
  | detVRU data => detVRU data.received
  | detObst data => detObst data

def DetectedObjectData.received (o : DetectedObjectData) : DetectedObjectData :=
  { o with detObjOptData := o.detObjOptData.map DetectedObjectOptionalData.received }

def SensorDataSharingMessage.received (m : SensorDataSharingMessage) : SensorDataSharingMessage :=
  { m with sourceID := (id_fill m.sourceID).drop 4, objects := m.objects.map DetectedObjectData.received }

theorem DDateTime.ofJson_toJson {t : DDateTime} {json : Value} (h : t.toJson = some json) (uninitialized : DDateTime) :
    DDateTime.ofJson uninitialized json = .ok t := by
  obtain ⟨year, month, day, hour, minute, second, offset⟩ := t
  simp only [toJson, Option.bind_eq_bind, Option.bind_eq_some_iff, Option.pure_def, Option.some.injEq] at h
  obtain ⟨year, rfl, month, rfl, day, rfl, hour, rfl, minute, rfl, second, rfl, offset, rfl, rfl⟩ := h
  simp [DDateTime.ofJson]

theorem Position3D.ofJson_toJson {p : Position3D} {json : Value} (h : p.toJson = some json) :
    Position3D.ofJson json = .ok p := by
  obtain ⟨lat, Long, elevation⟩ := p
  simp only [toJson, Option.bind_eq_bind, Option.bind_eq_some_iff, Option.pure_def, Option.some.injEq] at h
  obtain ⟨elevation, rfl, rfl⟩ := h
  simp [Position3D.ofJson]

theorem PositionalAccuracy.ofJson_toJson (a : PositionalAccuracy) : PositionalAccuracy.ofJson a.toJson = .ok a := by
  simp [PositionalAccuracy.ofJson, toJson]

theorem PositionOffsetXYZ.ofJson_toJson {p : PositionOffsetXYZ} {json : Value} (h : p.toJson = some json) :
    PositionOffsetXYZ.ofJson json = .ok p := by
  obtain ⟨offsetX, offsetY, offsetZ⟩ := p
  simp only [toJson, Option.bind_eq_bind, Option.bind_eq_some_iff, Option.pure_def, Option.some.injEq] at h
  obtain ⟨offsetZ, rfl, rfl⟩ := h
  simp [PositionOffsetXYZ.ofJson]

theorem PositionConfidenceSet.ofJson_toJson (c : PositionConfidenceSet) :
    PositionConfidenceSet.ofJson c.toJson = .ok c := by
  simp [PositionConfidenceSet.ofJson, toJson]

theorem AccelerationSet4Way.ofJson_toJson (a : AccelerationSet4Way) :
    AccelerationSet4Way.ofJson a.toJson = .ok a := by
  simp [AccelerationSet4Way.ofJson, toJson]

theorem DetectedObjectCommonData.ofJson_toJson {c : DetectedObjectCommonData} {json : Value}
    (h : c.toJson = some json) : DetectedObjectCommonData.ofJson json = .ok c := by
  obtain ⟨objType, objTypeCfd, objectID, measurementTime, timeConfidence, pos, posConfidence, speed, speedConfidence,
    speedZ, speedConfidenceZ, heading, headingConf, accel4way, accCfdX, accCfdY, accCfdZ, accCfdYaw⟩ := c
  simp only [toJson, Option.bind_eq_bind, Option.bind_eq_some_iff, Option.pure_def, Option.some.injEq] at h
  obtain ⟨pos', hpos, speedZ, rfl, speedConfidenceZ, rfl, accel4way, rfl, accCfdX, rfl, accCfdY, rfl, accCfdZ, rfl,
    accCfdYaw, rfl, rfl⟩ := h
  have hpos := PositionOffsetXYZ.ofJson_toJson hpos
  have hconfidence := PositionConfidenceSet.ofJson_toJson posConfidence
  have haccel := AccelerationSet4Way.ofJson_toJson accel4way
  simp [DetectedObjectCommonData.ofJson, hpos, hconfidence, haccel]

theorem Attitude.ofJson_toJson (a : Attitude) : Attitude.ofJson a.toJson = .ok a := by
  simp [Attitude.ofJson, toJson]

theorem AttitudeConfidence.ofJson_toJson (c : AttitudeConfidence) :
    AttitudeConfidence.ofJson c.toJson = .ok c := by
  simp [AttitudeConfidence.ofJson, toJson]

theorem AngularVelocity.ofJson_toJson (v : AngularVelocity) : AngularVelocity.ofJson v.toJson = .ok v := by
  simp [AngularVelocity.ofJson, toJson]

theorem AngularVelocityConfidence.ofJson_toJson {c : AngularVelocityConfidence} {json : Value}
    (h : c.toJson = some json) : AngularVelocityConfidence.ofJson json = .ok c := by
  obtain ⟨pitchRateConfidence, rollRateConfidence⟩ := c
  simp only [toJson, Option.bind_eq_bind, Option.bind_eq_some_iff, Option.pure_def, Option.some.injEq] at h
  obtain ⟨pitchRateConfidence, rfl, rollRateConfidence, rfl, rfl⟩ := h
  simp [AngularVelocityConfidence.ofJson]

theorem VehicleSize.ofJson_toJson (s : VehicleSize) : VehicleSize.ofJson s.toJson = .ok s := by
  simp [VehicleSize.ofJson, toJson]

theorem VehicleSizeConfidence.ofJson_toJson {c : VehicleSizeConfidence} {json : Value} (h : c.toJson = some json) :
    VehicleSizeConfidence.ofJson json = .ok c := by
  obtain ⟨vehicleWidthConfidence, vehicleLengthConfidence, vehicleHeightConfidence⟩ := c
  simp only [toJson, Option.bind_eq_bind, Option.bind_eq_some_iff, Option.pure_def, Option.some.injEq] at h
  obtain ⟨vehicleHeightConfidence, rfl, rfl⟩ := h
  simp [VehicleSizeConfidence.ofJson]

/-- All but the lights come back. -/
theorem DetectedVehicleData.ofJson_toJson {v : DetectedVehicleData} {json : Value} (h : v.toJson = some json) :
    v.lights.isSome ∧ DetectedVehicleData.ofJson json = .ok { v with lights := none } := by
  obtain ⟨lights, vehAttitude, vehAttitudeConfidence, vehAngVel, vehAngVelConfidence, size, height, vehicleSizeConfidence,
    vehicleClass, classConf⟩ := v
  unfold toJson at h
  obtain ⟨lights, rfl, h⟩ := Option.bind_eq_some_iff.1 h
  obtain ⟨_, _, h⟩ := Option.bind_eq_some_iff.1 h
  obtain ⟨vehAttitude, rfl, h⟩ := Option.bind_eq_some_iff.1 h
  obtain ⟨vehAttitudeConfidence, rfl, h⟩ := Option.bind_eq_some_iff.1 h
  obtain ⟨vehAngVel, rfl, h⟩ := Option.bind_eq_some_iff.1 h
  obtain ⟨vehAngVelConfidence, rfl, h⟩ := Option.bind_eq_some_iff.1 h
  obtain ⟨_, hvel, h⟩ := Option.bind_eq_some_iff.1 h
  obtain ⟨size, rfl, h⟩ := Option.bind_eq_some_iff.1 h
  obtain ⟨height, rfl, h⟩ := Option.bind_eq_some_iff.1 h
  obtain ⟨vehicleSizeConfidence, rfl, h⟩ := Option.bind_eq_some_iff.1 h
  obtain ⟨_, hsize, h⟩ := Option.bind_eq_some_iff.1 h
  obtain ⟨vehicleClass, rfl, h⟩ := Option.bind_eq_some_iff.1 h
  obtain ⟨classConf, rfl, h⟩ := Option.bind_eq_some_iff.1 h
  obtain rfl := Option.some.inj h
  have hattitude := Attitude.ofJson_toJson vehAttitude
  have hconfidence := AttitudeConfidence.ofJson_toJson vehAttitudeConfidence
  have hang := AngularVelocity.ofJson_toJson vehAngVel
  have hvel := AngularVelocityConfidence.ofJson_toJson hvel
  have hvehicle := VehicleSize.ofJson_toJson size
  have hsize := VehicleSizeConfidence.ofJson_toJson hsize
  refine ⟨rfl, ?_⟩
  simp [DetectedVehicleData.ofJson, hattitude, hconfidence, hang, hvel, hvehicle, hsize]

theorem DetectedVRUData.ofJson_toJson {v : DetectedVRUData} {json : Value} (h : v.toJson = some json) :
    DetectedVRUData.ofJson json = .ok v.received := by
  obtain ⟨basicType, propulsion, attachment, radius⟩ := v
  simp only [toJson, Option.bind_eq_bind, Option.bind_eq_some_iff, Option.pure_def, Option.some.injEq] at h
  obtain ⟨basicType, rfl, propulsion, rfl, attachment, rfl, radius, rfl, rfl⟩ := h
  cases propulsion <;>
    simp [DetectedVRUData.ofJson, PropelledInformation.toJson, PropelledInformation.ofJson, received,
      PropelledInformation.received]

theorem ObstacleSize.ofJson_toJson {s : ObstacleSize} {json : Value} (h : s.toJson = some json) :
    ObstacleSize.ofJson json = .ok s := by
  obtain ⟨width, length, height⟩ := s
  simp only [toJson, Option.bind_eq_bind, Option.bind_eq_some_iff, Option.pure_def, Option.some.injEq] at h
  obtain ⟨height, rfl, rfl⟩ := h
  simp [ObstacleSize.ofJson]

theorem ObstacleSizeConfidence.ofJson_toJson {c : ObstacleSizeConfidence} {json : Value} (h : c.toJson = some json) :
    ObstacleSizeConfidence.ofJson json = .ok c := by
  obtain ⟨widthConfidence, lengthConfidence, heightConfidence⟩ := c
  simp only [toJson, Option.bind_eq_bind, Option.bind_eq_some_iff, Option.pure_def, Option.some.injEq] at h
  obtain ⟨heightConfidence, rfl, rfl⟩ := h
  simp [ObstacleSizeConfidence.ofJson]

theorem DetectedObstacleData.ofJson_toJson {o : DetectedObstacleData} {json : Value} (h : o.toJson = some json) :
    DetectedObstacleData.ofJson json = .ok o := by
  simp only [toJson, Option.bind_eq_bind, Option.bind_eq_some_iff, Option.pure_def, Option.some.injEq] at h
  obtain ⟨_, hsize, _, hconfidence, rfl⟩ := h
  simp [DetectedObstacleData.ofJson, ObstacleSize.ofJson_toJson hsize, ObstacleSizeConfidence.ofJson_toJson hconfidence]

theorem DetectedObjectOptionalData.ofJson_toJson {data : DetectedObjectOptionalData} {json : Value}
    (h : data.toJson = some json) : populateOptionalData json = .ok data.received := by
  cases data with
  | NOTHING =>
    cases h
    rfl
  | detVeh data =>
    simp only [toJson, Option.bind_eq_bind, Option.bind_eq_some_iff, Option.pure_def, Option.some.injEq] at h
    obtain ⟨_, hdata, rfl⟩ := h
    simp [populateOptionalData, (DetectedVehicleData.ofJson_toJson hdata).2, received]
  | detVRU data =>
    simp only [toJson, Option.bind_eq_bind, Option.bind_eq_some_iff, Option.pure_def, Option.some.injEq] at h
    obtain ⟨_, hdata, rfl⟩ := h
    simp [populateOptionalData, DetectedVRUData.ofJson_toJson hdata, received]
  | detObst data =>
    simp only [toJson, Option.bind_eq_bind, Option.bind_eq_some_iff, Option.pure_def, Option.some.injEq] at h
    obtain ⟨_, hdata, rfl⟩ := h
    simp [populateOptionalData, DetectedObstacleData.ofJson_toJson hdata, received]

theorem DetectedObjectData.ofJson_toJson {o : DetectedObjectData} {json : Value} (h : o.toJson = some json) :
    DetectedObjectData.ofJson json = .ok o.received := by
  obtain ⟨detObjCommon, detObjOptData⟩ := o
  simp only [toJson, Option.bind_eq_bind, Option.bind_eq_some_iff] at h
  obtain ⟨_, hcommon, h⟩ := h
  cases detObjOptData with
  | none =>
    cases h
    simp [DetectedObjectData.ofJson, DetectedObjectCommonData.ofJson_toJson hcommon, received]
  | some data =>
    simp only [Option.bind_eq_some_iff, Option.pure_def, Option.some.injEq] at h
    obtain ⟨_, hdata, rfl⟩ := h
    simp [DetectedObjectData.ofJson, DetectedObjectCommonData.ofJson_toJson hcommon,
      DetectedObjectOptionalData.ofJson_toJson hdata, received]

/-! ### The source id -/

theorem id_num_step {n : Nat} (hn : n < 2 ^ 56) (b : UInt8) : n <<< 8 % 2 ^ 64 ||| b.toNat = n * 256 + b.toNat := by
  have hb := b.toNat_lt
  rw [Nat.shiftLeft_eq, Nat.mod_eq_of_lt (by omega), mul_comm, ← Nat.two_pow_add_eq_or_of_lt (by simpa using hb)]

theorem id_num_four (a b c d : UInt8) :
    id_num [a, b, c, d] = ((a.toNat * 256 + b.toNat) * 256 + c.toNat) * 256 + d.toNat := by
  have ha := a.toNat_lt
  have hb := b.toNat_lt
  have hc := c.toNat_lt
  simp only [id_num, List.foldl_cons, List.foldl_nil]
  rw [id_num_step (by omega) a, id_num_step (n := 0 * 256 + a.toNat) (by omega),
    id_num_step (n := (0 * 256 + a.toNat) * 256 + b.toNat) (by omega), id_num_step (by omega)]
  omega

/-- The last `k` digits, the least one first. -/
def lastDigits : Nat → Nat → List Nat
  | 0, _ => []
  | k + 1, n => n % 16 :: lastDigits k (n / 16)

theorem lastDigits_zero (k : Nat) : lastDigits k 0 = List.replicate k 0 := by
  induction k with
  | zero => rfl
  | succ k ih => rw [lastDigits, List.replicate_succ, Nat.zero_div, ih]

theorem digits_append_replicate {k n : Nat} (h : n < 16 ^ k) :
    Nat.digits 16 n ++ List.replicate (k - (Nat.digits 16 n).length) 0 = lastDigits k n := by
  induction k generalizing n with
  | zero =>
    obtain rfl : n = 0 := by omega
    rfl
  | succ k ih =>
    rcases Nat.eq_zero_or_pos n with rfl | hn
    · rw [lastDigits_zero]
      rfl
    · rw [Nat.digits_def' (by decide) hn, lastDigits, ← ih (by omega)]
      simp

theorem pad_hex {k n : Nat} (hk : 0 < k) (h : n < 16 ^ k) :
    List.replicate (k - (hex n).length) 48 ++ hex n = (lastDigits k n).reverse.map hexDigit := by
  rw [← digits_append_replicate h]
  unfold hex
  split
  · rename_i hn
    subst hn
    obtain ⟨k, rfl⟩ := Nat.exists_eq_add_one_of_ne_zero hk.ne'
    simp [List.replicate_succ', hexDigit]
    rw [← List.replicate_succ', List.replicate_succ]
  · simp [hexDigit]

theorem drop_id_fill (a b c d : UInt8) : (id_fill [a, b, c, d]).drop 4 =
    [hexDigit (c.toNat / 16), hexDigit (c.toNat % 16), hexDigit (d.toNat / 16), hexDigit (d.toNat % 16)] := by
  have ha := a.toNat_lt
  have hb := b.toNat_lt
  have hc := c.toNat_lt
  have hd := d.toNat_lt
  have hnum := id_num_four a b c d
  unfold id_fill
  rw [pad_hex (by decide) (by omega)]
  generalize id_num [a, b, c, d] = n at hnum
  have h0 : n % 16 = d.toNat % 16 := by omega
  have h1 : n / 16 % 16 = d.toNat / 16 := by omega
  have h2 : n / 16 / 16 % 16 = c.toNat % 16 := by omega
  have h3 : n / 16 / 16 / 16 % 16 = c.toNat / 16 := by omega
  simp [lastDigits, h0, h1, h2, h3]

theorem eq_of_hexDigit {n : Nat} (hn : n < 256) : hexDigit (n % 16) = UInt8.ofNat n → 0x30 ≤ n ∧ n ≤ 0x39 := by
  revert n
  decide +kernel

theorem drop_id_fill_eq_iff {sourceID : List UInt8} (h : sourceID.length = 4) :
    (id_fill sourceID).drop 4 = sourceID ↔ SourceKept sourceID := by
  obtain ⟨a, b, c, d, rfl⟩ : ∃ a b c d, sourceID = [a, b, c, d] := by
    match sourceID, h with
    | [a, b, c, d], _ => exact ⟨a, b, c, d, rfl⟩
  rw [drop_id_fill]
  constructor
  · intro h
    simp only [List.cons.injEq, and_true] at h
    obtain ⟨ha, hb, hc, hd⟩ := h
    have hrange := eq_of_hexDigit d.toNat_lt (hd.trans UInt8.ofNat_toNat.symm)
    have hthree : d.toNat / 16 = 3 := by omega
    rw [hthree] at hc
    subst hc
    exact ⟨d, UInt8.le_iff_toNat_le.2 hrange.1, UInt8.le_iff_toNat_le.2 hrange.2, by rw [← ha, ← hb]; rfl⟩
  · rintro ⟨d', hlow, hhigh, h⟩
    simp only [List.cons.injEq, and_true] at h
    obtain ⟨rfl, rfl, rfl, rfl⟩ := h
    have hlow : 0x30 ≤ d.toNat := UInt8.le_iff_toNat_le.1 hlow
    have hhigh : d.toNat ≤ 0x39 := UInt8.le_iff_toNat_le.1 hhigh
    have hthree : d.toNat / 16 = 3 := by omega
    have hself : hexDigit (d.toNat % 16) = d := by
      rw [hexDigit, if_pos (by omega), show 48 + d.toNat % 16 = d.toNat by omega, UInt8.ofNat_toNat]
    rw [hthree, hself]
    rfl

/-- No digit is a zero. -/
theorem hexDigit_ne_zero {d : Nat} (hd : d < 16) : hexDigit d ≠ 0 := by
  revert d
  decide

theorem ne_zero_of_mem_id_fill {buf : List UInt8} {x : UInt8} (hx : x ∈ id_fill buf) : x ≠ 0 := by
  rcases List.mem_append.1 hx with hx | hx
  · rw [(List.mem_replicate.1 hx).2]
    decide
  · unfold hex at hx
    split at hx
    · rw [List.mem_singleton.1 hx]
      decide
    · obtain ⟨d, hd, rfl⟩ := List.mem_map.1 hx
      exact hexDigit_ne_zero (Nat.digits_lt_base (by decide) (List.mem_reverse.1 hd))

theorem substr_id_fill (buf : List UInt8) : substr 4 (id_fill buf) = .ok ((id_fill buf).drop 4) := by
  refine if_pos ?_
  simp only [id_fill, List.length_append, List.length_replicate]
  omega

/-! ### The message -/

theorem objects_ofJson {objects : List DetectedObjectData} {values : List Value}
    (h : objects.mapM DetectedObjectData.toJson = some values) :
    values.mapM DetectedObjectData.ofJson = .ok (objects.map DetectedObjectData.received) := by
  induction objects generalizing values with
  | nil =>
    cases h
    rfl
  | cons o objects ih =>
    rw [List.mapM_cons] at h
    obtain ⟨v, hv, h⟩ := Option.bind_eq_some_iff.1 h
    obtain ⟨values, hvalues, h⟩ := Option.bind_eq_some_iff.1 h
    obtain rfl := Option.some.inj h
    rw [List.mapM_cons, DetectedObjectData.ofJson_toJson hv, ih hvalues]
    rfl

/-- The message in JSON, of its parts. -/
def messageJson (m : SensorDataSharingMessage) (sDSMTimeStamp refPos : Value) (refPosElConf : Int64)
    (objects : List Value) : Value :=
  object ([("msg_cnt", int m.msgCnt), ("source_id", string (id_fill m.sourceID)),
    ("equipment_type", int m.equipmentType), ("sdsm_time_stamp", sDSMTimeStamp), ("ref_pos", refPos),
    ("ref_pos_xy_conf", m.refPosXYConf.toJson), ("ref_pos_el_conf", int refPosElConf)] ++
    if objects = [] then [] else [("objects", array objects)])

theorem convertJ3224ToSDSMJSON_eq_some {m : SensorDataSharingMessage} {json : Value} :
    convertJ3224ToSDSMJSON m = some json ↔ ∃ sDSMTimeStamp refPos refPosElConf objects,
      m.sDSMTimeStamp.toJson = some sDSMTimeStamp ∧ m.refPos.toJson = some refPos ∧ m.refPosElConf = some refPosElConf ∧
        m.objects.mapM DetectedObjectData.toJson = some objects ∧
          messageJson m sDSMTimeStamp refPos refPosElConf objects = json := by
  constructor
  · intro h
    obtain ⟨sDSMTimeStamp, htime, h⟩ := Option.bind_eq_some_iff.1 h
    obtain ⟨refPos, hpos, h⟩ := Option.bind_eq_some_iff.1 h
    obtain ⟨refPosElConf, hconf, h⟩ := Option.bind_eq_some_iff.1 h
    obtain ⟨objects, hobjects, h⟩ := Option.bind_eq_some_iff.1 h
    exact ⟨sDSMTimeStamp, refPos, refPosElConf, objects, htime, hpos, hconf, hobjects, Option.some.inj h⟩
  · rintro ⟨sDSMTimeStamp, refPos, refPosElConf, objects, htime, hpos, hconf, hobjects, rfl⟩
    unfold convertJ3224ToSDSMJSON
    rw [htime, hpos, hconf, hobjects]
    rfl

theorem convertJsonToSDSM_convert {m : SensorDataSharingMessage} {json : Value}
    (h : convertJ3224ToSDSMJSON m = some json) (valueToString : Double → Str) (uninitialized : DDateTime) :
    convertJsonToSDSM valueToString uninitialized json = .ok m.received := by
  obtain ⟨sDSMTimeStamp, refPos, refPosElConf, objects, htime, hpos, hconf, hobjects, rfl⟩ :=
    convertJ3224ToSDSMJSON_eq_some.1 h
  have htime := DDateTime.ofJson_toJson htime uninitialized
  have hpos := Position3D.ofJson_toJson hpos
  have haccuracy := PositionalAccuracy.ofJson_toJson m.refPosXYConf
  have hobjects := objects_ofJson hobjects
  have hid : ∀ x ∈ (id_fill m.sourceID).drop 4, x ≠ 0 := fun x hx => ne_zero_of_mem_id_fill (List.mem_of_mem_drop hx)
  cases objects with
  | nil =>
    have hnil : [] = m.objects.map DetectedObjectData.received := Except.ok.inj hobjects
    simpa [convertJsonToSDSM, messageJson, objectsOfJson, asString, htime, hpos, haccuracy, substr_id_fill,
      SensorDataSharingMessage.received, hconf, ← hnil] using hid
  | cons v objects =>
    simpa [convertJsonToSDSM, messageJson, objectsOfJson, asString, htime, hpos, haccuracy, substr_id_fill,
      SensorDataSharingMessage.received, hconf, isArray, elements, hobjects] using hid

/-! ### Which messages are written -/

theorem DDateTime.complete_iff {t : DDateTime} : t.Complete ↔ ∃ json, t.toJson = some json ∧ json.Emits t.members := by
  obtain ⟨year, month, day, hour, minute, second, offset⟩ := t
  simp only [Complete, Option.isSome_iff_exists]
  constructor
  · rintro ⟨⟨year, rfl⟩, ⟨month, rfl⟩, ⟨day, rfl⟩, ⟨hour, rfl⟩, ⟨minute, rfl⟩, ⟨second, rfl⟩, offset, rfl⟩
    exact ⟨_, rfl, by simp [members]⟩
  · rintro ⟨json, h, -⟩
    simp only [toJson, Option.bind_eq_bind, Option.bind_eq_some_iff, Option.pure_def, Option.some.injEq] at h
    obtain ⟨year, rfl, month, rfl, day, rfl, hour, rfl, minute, rfl, second, rfl, offset, rfl, rfl⟩ := h
    simp

theorem DetectedObjectCommonData.complete_iff {c : DetectedObjectCommonData} :
    c.Complete ↔ ∃ json, c.toJson = some json ∧ json.Emits c.members := by
  obtain ⟨objType, objTypeCfd, objectID, measurementTime, timeConfidence, ⟨offsetX, offsetY, offsetZ⟩, posConfidence, speed,
    speedConfidence, speedZ, speedConfidenceZ, heading, headingConf, accel4way, accCfdX, accCfdY, accCfdZ, accCfdYaw⟩ := c
  simp only [Complete, Option.isSome_iff_exists]
  constructor
  · rintro ⟨⟨offsetZ, rfl⟩, ⟨speedZ, rfl⟩, ⟨speedConfidenceZ, rfl⟩, ⟨accel4way, rfl⟩, ⟨accCfdX, rfl⟩, ⟨accCfdY, rfl⟩,
      ⟨accCfdZ, rfl⟩, accCfdYaw, rfl⟩
    exact ⟨_, rfl, by simp [members]⟩
  · rintro ⟨json, h, -⟩
    simp only [toJson, PositionOffsetXYZ.toJson, Option.bind_eq_bind, Option.bind_eq_some_iff, Option.pure_def,
      Option.some.injEq] at h
    obtain ⟨_, ⟨offsetZ, rfl, rfl⟩, speedZ, rfl, speedConfidenceZ, rfl, accel4way, rfl, accCfdX, rfl, accCfdY, rfl, accCfdZ,
      rfl, accCfdYaw, rfl, rfl⟩ := h
    simp

theorem DetectedVRUData.kept_iff {v : DetectedVRUData} :
    v.Kept ↔ ∃ json, v.toJson = some json ∧ json.Emits v.members ∧ v.received = v := by
  obtain ⟨basicType, propulsion, attachment, radius⟩ := v
  simp only [Kept, Option.isSome_iff_exists]
  constructor
  · rintro ⟨⟨basicType, rfl⟩, ⟨type, rfl⟩, ⟨attachment, rfl⟩, radius, rfl⟩
    exact ⟨_, rfl, by simp [members, under, PropelledInformation.members, PropelledInformation.toJson], rfl⟩
  · rintro ⟨json, h, -, hreceived⟩
    simp only [toJson, Option.bind_eq_bind, Option.bind_eq_some_iff, Option.pure_def, Option.some.injEq] at h
    obtain ⟨basicType, rfl, propulsion, rfl, attachment, rfl, radius, rfl, rfl⟩ := h
    have hpropulsion : propulsion.received = some propulsion := congrArg DetectedVRUData.propulsion hreceived
    cases propulsion with
    | human type => simp
    | NOTHING => cases hpropulsion
    | animal type => cases hpropulsion
    | motor type => cases hpropulsion

theorem DetectedObstacleData.complete_iff {o : DetectedObstacleData} :
    o.Complete ↔ ∃ json, o.toJson = some json ∧ json.Emits o.members := by
  obtain ⟨⟨width, length, height⟩, widthConfidence, lengthConfidence, heightConfidence⟩ := o
  simp only [Complete, Option.isSome_iff_exists]
  constructor
  · rintro ⟨⟨height, rfl⟩, heightConfidence, rfl⟩
    exact ⟨_, rfl, by simp [members]⟩
  · rintro ⟨json, h, -⟩
    simp only [toJson, ObstacleSize.toJson, ObstacleSizeConfidence.toJson, Option.bind_eq_bind, Option.bind_eq_some_iff,
      Option.pure_def, Option.some.injEq] at h
    obtain ⟨_, ⟨height, rfl, rfl⟩, _, ⟨heightConfidence, rfl, rfl⟩, rfl⟩ := h
    simp

theorem DetectedObjectOptionalData.kept_iff {data : DetectedObjectOptionalData} :
    data.Kept ↔ ∃ json, data.toJson = some json ∧ json.Emits data.members ∧ data.received = data := by
  cases data with
  | NOTHING => exact iff_of_true trivial ⟨_, rfl, by simp [members, has], rfl⟩
  | detVeh data =>
    refine iff_of_false id ?_
    rintro ⟨json, h, -, hreceived⟩
    obtain ⟨_, hdata, -⟩ := Option.bind_eq_some_iff.1 h
    have hlights := (DetectedVehicleData.ofJson_toJson hdata).1
    rw [← congrArg DetectedVehicleData.lights (detVeh.inj hreceived)] at hlights
    cases hlights
  | detVRU data =>
    refine DetectedVRUData.kept_iff.trans ?_
    constructor
    · rintro ⟨json, h, hemits, hreceived⟩
      exact ⟨object [("detected_vru_data", json)], by simp [toJson, h], by
        simp [members, emits_under (v := json), hemits], congrArg detVRU hreceived⟩
    · rintro ⟨json, h, hemits, hreceived⟩
      obtain ⟨json, hdata, h⟩ := Option.bind_eq_some_iff.1 h
      obtain rfl := Option.some.inj h
      rw [members, emits_append, emits_under (v := json) (by simp)] at hemits
      exact ⟨json, hdata, hemits.2, detVRU.inj hreceived⟩
  | detObst data =>
    refine DetectedObstacleData.complete_iff.trans ?_
    constructor
    · rintro ⟨json, h, hemits⟩
      exact ⟨object [("detected_obstacle_data", json)], by simp [toJson, h], by
        simp [members, emits_under (v := json), hemits], rfl⟩
    · rintro ⟨json, h, hemits, -⟩
      obtain ⟨json, hdata, h⟩ := Option.bind_eq_some_iff.1 h
      obtain rfl := Option.some.inj h
      rw [members, emits_append, emits_under (v := json) (by simp)] at hemits
      exact ⟨json, hdata, hemits.2⟩

theorem DetectedObjectData.kept_iff {o : DetectedObjectData} :
    o.Kept ↔ ∃ json, o.toJson = some json ∧ json.Emits o.members ∧ o.received = o := by
  obtain ⟨detObjCommon, detObjOptData⟩ := o
  cases detObjOptData with
  | none =>
    constructor
    · rintro ⟨hcommon, -⟩
      obtain ⟨common, hjson, hemits⟩ := DetectedObjectCommonData.complete_iff.1 hcommon
      refine ⟨object [("detected_object_data", object [("detected_object_common_data", common)])], ?_, ?_, rfl⟩
      · rw [toJson, hjson]
        rfl
      · rw [members, emits_under (lookup_cons.trans (if_pos rfl)), emits_append,
          emits_under (lookup_cons.trans (if_pos rfl)), emits_cons]
        exact ⟨hemits, by simp, by simp [under]⟩
    · rintro ⟨json, h, hemits, -⟩
      obtain ⟨common, hjson, h⟩ := Option.bind_eq_some_iff.1 h
      obtain rfl := Option.some.inj h
      rw [members, emits_under (lookup_cons.trans (if_pos rfl)), emits_append,
        emits_under (lookup_cons.trans (if_pos rfl))] at hemits
      exact ⟨DetectedObjectCommonData.complete_iff.2 ⟨common, hjson, hemits.1⟩, fun data hdata => by cases hdata⟩
  | some data =>
    constructor
    · rintro ⟨hcommon, hdata⟩
      obtain ⟨common, hjson, hemits⟩ := DetectedObjectCommonData.complete_iff.1 hcommon
      obtain ⟨optional, hjson', hemits', hreceived⟩ := DetectedObjectOptionalData.kept_iff.1 (hdata data rfl)
      refine ⟨object [("detected_object_data",
        object [("detected_object_common_data", common), ("detected_object_optional_data", optional)])], ?_, ?_,
        by simp [received, hreceived]⟩
      · rw [toJson, hjson]
        simp [hjson']
      · rw [members, emits_under (lookup_cons.trans (if_pos rfl)), emits_append,
          emits_under (lookup_cons.trans (if_pos rfl)), emits_cons, Option.elim_some,
          emits_under (v := optional) (by simp)]
        exact ⟨hemits, by simp, hemits'⟩
    · rintro ⟨json, h, hemits, hreceived⟩
      obtain ⟨common, hjson, h⟩ := Option.bind_eq_some_iff.1 h
      obtain ⟨optional, hjson', h⟩ := Option.bind_eq_some_iff.1 h
      obtain rfl := Option.some.inj h
      rw [members, emits_under (lookup_cons.trans (if_pos rfl)), emits_append,
        emits_under (lookup_cons.trans (if_pos rfl)), emits_cons, Option.elim_some,
        emits_under (v := optional) (by simp)] at hemits
      have hreceived : data.received = data :=
        Option.some.inj (congrArg DetectedObjectData.detObjOptData hreceived)
      refine ⟨DetectedObjectCommonData.complete_iff.2 ⟨common, hjson, hemits.1⟩, fun data' hdata => ?_⟩
      obtain rfl := Option.some.inj hdata
      exact DetectedObjectOptionalData.kept_iff.2 ⟨optional, hjson', hemits.2.2, hreceived⟩

/-- The list of objects goes through if every object does. -/
theorem objects_kept_iff {objects : List DetectedObjectData} :
    (∀ o ∈ objects, o.Kept) ↔ ∃ values, objects.mapM DetectedObjectData.toJson = some values ∧
      List.Forall₂ (fun o v => v.Emits o.members) objects values ∧
        objects.map DetectedObjectData.received = objects := by
  induction objects with
  | nil => exact iff_of_true (fun o ho => absurd ho List.not_mem_nil) ⟨[], rfl, .nil, rfl⟩
  | cons o objects ih =>
    rw [List.forall_mem_cons, DetectedObjectData.kept_iff, ih]
    constructor
    · rintro ⟨⟨v, hv, hemits, hreceived⟩, values, hvalues, hemits', hreceived'⟩
      refine ⟨v :: values, ?_, .cons hemits hemits', by rw [List.map_cons, hreceived, hreceived']⟩
      rw [List.mapM_cons, hv, hvalues]
      rfl
    · rintro ⟨values, h, hemits, hreceived⟩
      rw [List.mapM_cons] at h
      obtain ⟨v, hv, h⟩ := Option.bind_eq_some_iff.1 h
      obtain ⟨values, hvalues, h⟩ := Option.bind_eq_some_iff.1 h
      obtain rfl := Option.some.inj h
      obtain ⟨hemits, hemits'⟩ := List.forall₂_cons.1 hemits
      obtain ⟨hreceived, hreceived'⟩ := List.cons.inj hreceived
      exact ⟨⟨v, hv, hemits, hreceived⟩, values, hvalues, hemits', hreceived'⟩

theorem emits_messageJson {m : SensorDataSharingMessage} {sDSMTimeStamp refPos : Value} {refPosElConf : Int64}
    {objects : List Value} (htime : sDSMTimeStamp.Emits m.sDSMTimeStamp.members) (hpos : m.refPos.toJson = some refPos)
    (hconf : m.refPosElConf = some refPosElConf) :
    (messageJson m sDSMTimeStamp refPos refPosElConf objects).Emits m.members := by
  obtain ⟨elevation, helevation, hpos⟩ := Option.bind_eq_some_iff.1 hpos
  obtain rfl := Option.some.inj hpos
  rw [SensorDataSharingMessage.members, emits_append, messageJson, emits_under (v := sDSMTimeStamp) (by simp)]
  exact ⟨htime, by simp [helevation, hconf]⟩

theorem member_objects (m : SensorDataSharingMessage) (sDSMTimeStamp refPos : Value) (refPosElConf : Int64)
    (objects : List Value) : ∃ v, (messageJson m sDSMTimeStamp refPos refPosElConf objects).member "objects" = .ok v ∧
      v.elements = objects := by
  cases objects with
  | nil => exact ⟨null, by simp [messageJson], rfl⟩
  | cons v objects => exact ⟨array (v :: objects), by simp [messageJson], rfl⟩

theorem RoundTrips.received_eq {valueToString : Double → Str} {uninitialized : DDateTime} {m : SensorDataSharingMessage}
    (h : RoundTrips valueToString uninitialized m) : m.received = m := by
  obtain ⟨json, -, hjson, -, -, -, hback⟩ := h
  exact Except.ok.inj ((convertJsonToSDSM_convert hjson valueToString uninitialized).symm.trans hback)

/-- Exactly the messages that are `Kept` go through, of those with a source id of four bytes. -/
theorem sdsm_round_trip (valueToString : Double → Str) (uninitialized : DDateTime) (m : SensorDataSharingMessage)
    (hid : m.sourceID.length = 4) : RoundTrips valueToString uninitialized m ↔ m.Kept := by
  constructor
  · intro h
    have hreceived := h.received_eq
    obtain ⟨json, v, hjson, hmembers, hv, hemits, -⟩ := h
    obtain ⟨sDSMTimeStamp, refPos, refPosElConf, objects, htime, hpos, hconf, hobjects, rfl⟩ :=
      convertJ3224ToSDSMJSON_eq_some.1 hjson
    obtain ⟨v', hv', rfl⟩ := member_objects m sDSMTimeStamp refPos refPosElConf objects
    obtain rfl := Except.ok.inj (hv'.symm.trans hv)
    obtain ⟨elevation, helevation, -⟩ := Option.bind_eq_some_iff.1 hpos
    rw [SensorDataSharingMessage.members, emits_append, messageJson, emits_under (v := sDSMTimeStamp) (by simp)] at hmembers
    exact ⟨(drop_id_fill_eq_iff hid).1 (congrArg SensorDataSharingMessage.sourceID hreceived),
      DDateTime.complete_iff.2 ⟨sDSMTimeStamp, htime, hmembers.1⟩, by simp [helevation], by simp [hconf],
      objects_kept_iff.2 ⟨_, hobjects, hemits, congrArg SensorDataSharingMessage.objects hreceived⟩⟩
  · rintro ⟨hsource, htime, helevation, hconf, hobjects⟩
    obtain ⟨sDSMTimeStamp, htime, hemits⟩ := DDateTime.complete_iff.1 htime
    obtain ⟨elevation, helevation⟩ := Option.isSome_iff_exists.1 helevation
    obtain ⟨refPosElConf, hconf⟩ := Option.isSome_iff_exists.1 hconf
    obtain ⟨objects, hobjects, hemits', hreceived⟩ := objects_kept_iff.1 hobjects
    have hpos : m.refPos.toJson =
        some (object [("lat", int m.refPos.lat), ("long", int m.refPos.Long), ("elevation", int elevation)]) := by
      rw [Position3D.toJson, helevation]
      rfl
    have hjson := convertJ3224ToSDSMJSON_eq_some.2 ⟨_, _, _, _, htime, hpos, hconf, hobjects, rfl⟩
    obtain ⟨v, hv, rfl⟩ := member_objects m sDSMTimeStamp _ refPosElConf objects
    refine ⟨_, v, hjson, emits_messageJson hemits hpos hconf, hv, hemits', ?_⟩
    rw [convertJsonToSDSM_convert hjson, SensorDataSharingMessage.received, hreceived, (drop_id_fill_eq_iff hid).2 hsource]

/-- A message with one object, a propelled user of the road, and all optional fields. -/
def rider (propulsion : PropelledInformation) : SensorDataSharingMessage where
  msgCnt := 1
  sourceID := [0x33, 0x33, 0x33, 0x30]
  equipmentType := 1
  sDSMTimeStamp := ⟨some 2026, some 7, some 4, some 19, some 15, some 5000, some 400⟩
  refPos := ⟨400000000, 600000000, some 30⟩
  refPosXYConf := ⟨235, 200, 25000⟩
  refPosElConf := some 10
  objects := [⟨⟨2, 65, 12200, -1100, 2, ⟨4000, -720, some 20⟩, ⟨2, 5⟩, 2100, 3, some 1000, some 4, 16000, 4,
    some ⟨200, -500, 1, 400⟩, some 4, some 5, some 6, some 3⟩, some (.detVRU ⟨some 2, some propulsion, some 3, some 10⟩)⟩]

theorem sdsm_round_trip_human :
    RoundTrips (fun _ => []) ⟨none, none, none, none, none, none, none⟩ (rider (.human 2)) := by
  refine (sdsm_round_trip _ _ _ rfl).2 ⟨⟨0x30, by decide, by decide, rfl⟩, ?_, rfl, rfl, fun o ho => ?_⟩
  · exact ⟨rfl, rfl, rfl, rfl, rfl, rfl, rfl⟩
  · rw [List.mem_singleton.1 ho]
    refine ⟨⟨rfl, rfl, rfl, rfl, rfl, rfl, rfl, rfl⟩, fun data hdata => ?_⟩
    obtain rfl := Option.some.inj hdata
    exact ⟨rfl, ⟨2, rfl⟩, rfl, rfl⟩

/-- A rider on an animal comes back as propelled by a human. -/
theorem sdsm_round_trip_animal : ¬ ∀ (valueToString : Double → Str) (uninitialized : DDateTime)
    (m : SensorDataSharingMessage), m.sourceID.length = 4 → RoundTrips valueToString uninitialized m := by
  intro h
  have hreceived := (h (fun _ => []) ⟨none, none, none, none, none, none, none⟩ (rider (.animal 2)) rfl).received_eq
  have hobject := (List.cons.inj (congrArg SensorDataSharingMessage.objects hreceived)).1
  have hdata := DetectedObjectOptionalData.detVRU.inj (Option.some.inj (congrArg DetectedObjectData.detObjOptData hobject))
  have hpropulsion : some (PropelledInformation.human 2) = some (.animal 2) := congrArg DetectedVRUData.propulsion hdata
  cases hpropulsion

end V2xHub.CARMAStreetsPlugin
