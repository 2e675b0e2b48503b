import V2xHub.CARMAStreetsPlugin.Sdsm
import V2xHub.JsonCpp.Build
import V2xHub.Lib.Single

/-!
# Signal requests as JSON

`J2735ToSRMJsonConverter` writes one document for each request of a message. A pointer to an optional field is an `Option`;
a null pointer that is dereferenced, or a member of a union that is not the present one, is undefined (`none`). The document
says what the message says (`Faithful`) under a condition on the optional fields that `srm_to_json` states exactly.
-/

namespace V2xHub.CARMAStreetsPlugin.Srm
open JsonCpp JsonCpp.Value

inductive VehicleID where
  | entityID (buf : List UInt8)
  | stationID (id : Nat)
deriving DecidableEq

/-- `choice.entityID` -/
def VehicleID.entityID? : VehicleID → Option (List UInt8)
  | entityID buf => some buf
  | stationID _ => none

inductive IntersectionAccessPoint where
  | NOTHING
  | lane (id : Int64)
  | approach (id : Int64)
  | connection (id : Int64)
deriving DecidableEq

/-- In steps of 10 cm, in the 16 bits that the decoder reads. -/
structure Elevation where
  value : Int64
  low : -4096 ≤ value.toInt
  high : value.toInt ≤ 61439
deriving DecidableEq

structure RequestorPositionVector where
  lat : Int64
  Long : Int64
  elevation : Option Elevation
  heading : Option Int64
  speed : Option Int64
deriving DecidableEq

/-- Of the type the role is kept. -/
structure RequestorDescription where
  id : VehicleID
  type : Option Int64
  position : Option RequestorPositionVector
deriving DecidableEq

structure SignalRequestPackage where
  id : Int64
  requestType : Int64
  inBoundLane : IntersectionAccessPoint
  minute : Option Int64
  second : Option Int64
  duration : Option Int64
deriving DecidableEq

structure SignalRequestMessage where
  timeStamp : Option Int64
  second : Int64
  sequenceNumber : Option Int64
  requests : Option (List SignalRequestPackage)
  requestor : RequestorDescription
deriving DecidableEq

/-! ### The converter -/

def MsgType : Str := CString.lit "SRM"

/-- `const float FIFTY_TH = 0.02` -/
def FIFTY_TH : ℚ := Single.round (1 / 50)

/-- A float as it is. -/
def DEGREE_TO_TENTH_MICRODEGREE : ℚ := 10000000

def IntersectionAccessPoint.toJson : IntersectionAccessPoint → Value
  | NOTHING => null
  | lane id => null.assign "LaneID" (int id)
  | approach id => null.assign "ApproachID" (int id)
  | connection id => null.assign "ConnectionID" (int id)

def SignalRequestPackage.expectedTimeOfArrival (p : SignalRequestPackage) : Value :=
  ((null.assignOptional "ETA_Minute" (p.minute.map int)).assignOptional "ETA_Second" (p.second.map int)).assignOptional
    "ETA_Duration" (p.duration.map int)

def RequestorPositionVector.positionJson (v : RequestorPositionVector) : Value :=
  let position := null.assign "latitude_DecimalDegree"
    (real (.finite (Single.intDiv v.lat.toInt DEGREE_TO_TENTH_MICRODEGREE)))
  let position := position.assign "longitude_DecimalDegree"
    (real (.finite (Single.intDiv v.Long.toInt DEGREE_TO_TENTH_MICRODEGREE)))
  position.assignOptional "elevation_Meter" (v.elevation.map fun e => int (e.value * 10))

/-- The document of a request, with what the pointers of the requestor point to. -/
def document (srm : SignalRequestMessage) (p : SignalRequestPackage) (role : Int64) (entityID : List UInt8)
    (position : RequestorPositionVector) : Value :=
  -- `Json::Value` has no constructor for these pointers: they become booleans
  let request := null.assignOptional "msgCount" (srm.sequenceNumber.map fun _ => boolean true)
  let request := request.assignOptional "minuteOfYear" (srm.timeStamp.map fun _ => boolean true)
  let request := request.assign "msOfMinute" (int srm.second)
  let request := request.assignOptional "minuteOfYear" (p.minute.map int)
  let request := request.assignOptional "msOfMinute" (p.second.map int)
  let request := request.assign "intersectionID" (int p.id)
  let request := request.assign "priorityRequestType" (int p.requestType)
  let request := request.assign "basicVehicleRole" (int role)
  let request := request.assign "inBoundLane" p.inBoundLane.toJson
  let request := request.assign "expectedTimeOfArrival" p.expectedTimeOfArrival
  let request := request.assign "vehicleID" (string (hex (id_num entityID)))
  let request := request.assignOptional "heading_Degree" (position.heading.map int)
  let request := request.assignOptional "speed_MeterPerSecond"
    (position.speed.map fun speed => real (.finite (Single.intDiv speed.toInt FIFTY_TH)))
  let request := request.assign "position" position.positionJson
  (null.assign "MsgType" (string MsgType)).assign "SignalRequest" request

/-- The null check of the position covers heading and speed only. -/
def SignalRequestPackage.toJson (srm : SignalRequestMessage) (p : SignalRequestPackage) : Option Value := do
  let role ← srm.requestor.type
  let entityID ← srm.requestor.id.entityID?
  let position ← srm.requestor.position
  return document srm p role entityID position

def toSRMJsonV (jsonV : List Value) (srm : Option SignalRequestMessage) : Option (List Value) :=
  match srm with
  | none => some jsonV
  | some srm =>
    match srm.requests with
    | none => some jsonV
    | some requests => (requests.mapM (SignalRequestPackage.toJson srm)).map (jsonV ++ ·)

/-! ### What a document should say -/

/-- The member is present if and only if the quantity is, and carries it in the unit of its name, to the precision of a
float. -/
def Measures : Option ℚ → Option Value → Prop
  | none, none => True
  | some exact, some v => ∃ q, v.number? = some q ∧ |q - exact| ≤ |exact| / 2 ^ 22
  | _, _ => False

/-- The id as a number. -/
def VehicleID.number : VehicleID → Nat
  | entityID buf => id_num buf
  | stationID id => id

def IntersectionAccessPoint.lane? : IntersectionAccessPoint → Option Int64
  | lane id => some id
  | _ => none

def IntersectionAccessPoint.approach? : IntersectionAccessPoint → Option Int64
  | approach id => some id
  | _ => none

def IntersectionAccessPoint.connection? : IntersectionAccessPoint → Option Int64
  | connection id => some id
  | _ => none

/-- Every member carries its own field, and is there if and only if the field is. The time of the request, where it has
one, stands for that of the message. -/
structure Faithful (srm : SignalRequestMessage) (p : SignalRequestPackage) (doc : Value) : Prop where
  msgType : doc.valueAt ["MsgType"] = some (string MsgType)
  msgCount : doc.valueAt ["SignalRequest", "msgCount"] = srm.sequenceNumber.map int
  minuteOfYear : doc.valueAt ["SignalRequest", "minuteOfYear"] = (p.minute.or srm.timeStamp).map int
  msOfMinute : doc.valueAt ["SignalRequest", "msOfMinute"] = some (int (p.second.getD srm.second))
  intersectionID : doc.valueAt ["SignalRequest", "intersectionID"] = some (int p.id)
  priorityRequestType : doc.valueAt ["SignalRequest", "priorityRequestType"] = some (int p.requestType)
  basicVehicleRole : doc.valueAt ["SignalRequest", "basicVehicleRole"] = srm.requestor.type.map int
  laneID : doc.valueAt ["SignalRequest", "inBoundLane", "LaneID"] = p.inBoundLane.lane?.map int
  approachID : doc.valueAt ["SignalRequest", "inBoundLane", "ApproachID"] = p.inBoundLane.approach?.map int
  connectionID : doc.valueAt ["SignalRequest", "inBoundLane", "ConnectionID"] = p.inBoundLane.connection?.map int
  etaMinute : doc.valueAt ["SignalRequest", "expectedTimeOfArrival", "ETA_Minute"] = p.minute.map int
  etaSecond : doc.valueAt ["SignalRequest", "expectedTimeOfArrival", "ETA_Second"] = p.second.map int
  etaDuration : doc.valueAt ["SignalRequest", "expectedTimeOfArrival", "ETA_Duration"] = p.duration.map int
  vehicleID : doc.valueAt ["SignalRequest", "vehicleID"] = some (string (hex srm.requestor.id.number))
  heading : Measures (srm.requestor.position.bind fun v => v.heading.map fun h => (h.toInt : ℚ) / 80)
    (doc.valueAt ["SignalRequest", "heading_Degree"])
  speed : Measures (srm.requestor.position.bind fun v => v.speed.map fun s => (s.toInt : ℚ) / 50)
    (doc.valueAt ["SignalRequest", "speed_MeterPerSecond"])
  latitude : Measures (srm.requestor.position.map fun v => (v.lat.toInt : ℚ) / 10000000)
    (doc.valueAt ["SignalRequest", "position", "latitude_DecimalDegree"])
  longitude : Measures (srm.requestor.position.map fun v => (v.Long.toInt : ℚ) / 10000000)
    (doc.valueAt ["SignalRequest", "position", "longitude_DecimalDegree"])
  elevation : Measures (srm.requestor.position.bind fun v => v.elevation.map fun e => (e.value.toInt : ℚ) / 10)
    (doc.valueAt ["SignalRequest", "position", "elevation_Meter"])

/-- The fields that are written in another unit than the name of their member says are absent or zero. -/
def RequestorPositionVector.Unscaled (v : RequestorPositionVector) : Prop :=
  (∀ h ∈ v.heading, h = 0) ∧ (∀ s ∈ v.speed, s = 0) ∧ ∀ e ∈ v.elevation, e.value = 0

/-- There is nothing to convert, or the message has no sequence number, no time of its own that a request would fall back
on, a requestor with an entity id, a type and a position, and zero where the units are wrong. -/
def SignalRequestMessage.Convertible (srm : SignalRequestMessage) : Prop :=
  srm.requests.getD [] = [] ∨
    srm.sequenceNumber = none ∧ (∃ role, srm.requestor.type = some role) ∧
      (∃ buf, srm.requestor.id = .entityID buf) ∧ (∃ v, srm.requestor.position = some v ∧ v.Unscaled) ∧
      (srm.timeStamp = none ∨ ∀ p ∈ srm.requests.getD [], p.minute ≠ none)

variable {srm : SignalRequestMessage} {p : SignalRequestPackage} {role : Int64} {buf : List UInt8}
  {position : RequestorPositionVector} {x q : ℚ} {jsonV : List Value}

/-! ### Units -/

/-- A quantity in a unit at least twice too small is right only where it is zero. -/
theorem near_scaled_iff {k : ℚ} (hk : 2 ≤ k) (hq : |q - k * x| ≤ |k * x| / 2 ^ 20) : |q - x| ≤ |x| / 2 ^ 22 ↔ x = 0 := by
  constructor
  · intro hx
    have htri : |k * x - x| ≤ |k * x - q| + |q - x| := abs_sub_le _ _ _
    have hfactor : |k * x - x| = (k - 1) * |x| := by
      rw [← sub_one_mul, abs_mul, abs_of_nonneg (by linarith)]
    rw [abs_sub_comm (k * x) q, hfactor] at htri
    rw [abs_mul, abs_of_nonneg (by linarith : 0 ≤ k)] at hq
    by_contra hne
    have hpos := abs_pos.2 hne
    norm_num at hx hq
    nlinarith [mul_le_mul_of_nonneg_right hk hpos.le]
  · rintro rfl
    rw [mul_zero, abs_zero, zero_div] at hq
    rw [abs_zero, zero_div]
    simpa using hq

theorem FIFTY_TH_bounds : 1 / 2 ^ 10 ≤ FIFTY_TH ∧ FIFTY_TH ≤ 1 / 25 := by
  have h : |FIFTY_TH - 1 / 50| ≤ |(1 : ℚ) / 50| / 2 ^ 24 := Single.abs_round_sub_le (by norm_num)
  rw [abs_le] at h
  norm_num at h ⊢
  constructor <;> linarith

theorem measures_speed (n : Int64) :
    Measures (some ((n.toInt : ℚ) / 50)) (some (real (.finite (Single.intDiv n.toInt FIFTY_TH)))) ↔ n = 0 := by
  obtain ⟨hlow, hhigh⟩ := FIFTY_TH_bounds
  have hc : 0 < FIFTY_TH := lt_of_lt_of_le (by norm_num) hlow
  have herr := Single.abs_intDiv_sub_le hlow (hhigh.trans (by norm_num)) n.toInt
  have hscale : (n.toInt : ℚ) / FIFTY_TH = 50 / FIFTY_TH * (n.toInt / 50) := by field_simp
  have htwo : 2 ≤ 50 / FIFTY_TH := by
    rw [le_div_iff₀ hc]
    linarith
  rw [hscale] at herr
  have hnear := near_scaled_iff htwo (herr.trans (div_le_div_of_nonneg_left (abs_nonneg _) (by norm_num) (by norm_num)))
  have hmeasures : Measures (some ((n.toInt : ℚ) / 50)) (some (real (.finite (Single.intDiv n.toInt FIFTY_TH)))) ↔
      |Single.intDiv n.toInt FIFTY_TH - n.toInt / 50| ≤ |(n.toInt : ℚ) / 50| / 2 ^ 22 := by
    simp [Measures, number?]
  rw [hmeasures, hnear, div_eq_zero_iff]
  simp [← Int64.toInt_inj]

/-- An integer that is written as it is, or multiplied, where its unit wants a part of it. -/
theorem measures_int {n m : Int64} {k : Nat} {d : ℚ} (hd : 0 < d) (hk : 2 ≤ k * d) (hm : (m.toInt : ℚ) = k * n.toInt) :
    Measures (some ((n.toInt : ℚ) / d)) (some (int m)) ↔ n = 0 := by
  have hexact : (m.toInt : ℚ) - k * d * (n.toInt / d) = 0 := by
    rw [hm, mul_assoc, mul_div_cancel₀ _ hd.ne', sub_self]
  have hnear := near_scaled_iff (x := (n.toInt : ℚ) / d) hk (by rw [hexact, abs_zero]; positivity)
  have hmeasures : Measures (some ((n.toInt : ℚ) / d)) (some (int m)) ↔
      |(m.toInt : ℚ) - n.toInt / d| ≤ |(n.toInt : ℚ) / d| / 2 ^ 22 := by
    simp [Measures, number?]
  rw [hmeasures, hnear, div_eq_zero_iff]
  simp [hd.ne', ← Int64.toInt_inj]

theorem measures_degree (n : Int) : Measures (some ((n : ℚ) / 10000000))
    (some (real (.finite (Single.intDiv n DEGREE_TO_TENTH_MICRODEGREE)))) := by
  refine ⟨_, rfl, Single.abs_intDiv_sub_le ?_ ?_ n⟩ <;> norm_num [DEGREE_TO_TENTH_MICRODEGREE]

theorem measures_heading (o : Option Int64) :
    Measures (o.map fun h => (h.toInt : ℚ) / 80) (o.map int) ↔ ∀ h ∈ o, h = 0 := by
  cases o with
  | none => simp [Measures]
  | some h =>
    rw [Option.map_some, Option.map_some, measures_int (k := 1) (by norm_num) (by norm_num) (by rw [Nat.cast_one, one_mul])]
    simp

theorem measures_optionalSpeed (o : Option Int64) :
    Measures (o.map fun s => (s.toInt : ℚ) / 50) (o.map fun s => real (.finite (Single.intDiv s.toInt FIFTY_TH))) ↔
      ∀ s ∈ o, s = 0 := by
  cases o with
  | none => simp [Measures]
  | some s =>
    rw [Option.map_some, Option.map_some, measures_speed]
    simp

theorem measures_elevation (o : Option Elevation) :
    Measures (o.map fun e => (e.value.toInt : ℚ) / 10) (o.map fun e => int (e.value * 10)) ↔ ∀ e ∈ o, e.value = 0 := by
  cases o with
  | none => simp [Measures]
  | some e =>
    have hmul : (e.value * 10).toInt = 10 * e.value.toInt := by
      have hlow := e.low
      have hhigh := e.high
      have hten : (10 : Int64).toInt = 10 := by decide
      rw [Int64.toInt_mul, hten, Int.bmod_eq_of_le (by omega) (by omega), mul_comm]
    have hcast : ((e.value * 10).toInt : ℚ) = (10 : ℕ) * e.value.toInt := by exact_mod_cast hmul
    rw [Option.map_some, Option.map_some, measures_int (k := 10) (by norm_num) (by norm_num) hcast]
    simp

/-! ### One document -/

theorem faithful_document (htype : srm.requestor.type = some role) (hid : srm.requestor.id = .entityID buf)
    (hposition : srm.requestor.position = some position) :
    Faithful srm p (document srm p role buf position) ↔
      srm.sequenceNumber = none ∧ (p.minute = none → srm.timeStamp = none) ∧ position.Unscaled := by
  have hheading : (document srm p role buf position).valueAt ["SignalRequest", "heading_Degree"] =
      position.heading.map int := by simp [document]
  have hspeed : (document srm p role buf position).valueAt ["SignalRequest", "speed_MeterPerSecond"] =
      position.speed.map fun speed => real (.finite (Single.intDiv speed.toInt FIFTY_TH)) := by simp [document]
  have helevation : (document srm p role buf position).valueAt ["SignalRequest", "position", "elevation_Meter"] =
      position.elevation.map fun e => int (e.value * 10) := by simp [document, RequestorPositionVector.positionJson]
  have hcount : (document srm p role buf position).valueAt ["SignalRequest", "msgCount"] =
      srm.sequenceNumber.map fun _ => boolean true := by simp [document]
  have hminute : (document srm p role buf position).valueAt ["SignalRequest", "minuteOfYear"] =
      (p.minute.map int).or (srm.timeStamp.map fun _ => boolean true) := by simp [document]
  constructor
  · intro h
    refine ⟨?_, ?_, ?_, ?_, ?_⟩
    · have := hcount.symm.trans h.msgCount
      cases hn : srm.sequenceNumber with
      | none => rfl
      | some n => rw [hn] at this; nomatch this
    · intro hnone
      have := hminute.symm.trans h.minuteOfYear
      rw [hnone] at this
      cases hn : srm.timeStamp with
      | none => rfl
      | some n => rw [hn] at this; nomatch this
    · have := h.heading
      rw [hposition, hheading] at this
      exact (measures_heading _).1 this
    · have := h.speed
      rw [hposition, hspeed] at this
      exact (measures_optionalSpeed _).1 this
    · have := h.elevation
      rw [hposition, helevation] at this
      exact (measures_elevation _).1 this
  · rintro ⟨hnone, htime, hh, hs, he⟩
    exact {
      msgType := by simp [document]
      msgCount := by rw [hcount, hnone]; rfl
      minuteOfYear := by
        rw [hminute]
        cases hm : p.minute with
        | none => rw [htime hm]; rfl
        | some m => rfl
      msOfMinute := by cases hs : p.second <;> simp [document, hs]
      intersectionID := by simp [document]
      priorityRequestType := by simp [document]
      basicVehicleRole := by simp [document, htype]
      laneID := by
        cases hl : p.inBoundLane <;>
          simp [document, hl, IntersectionAccessPoint.toJson, IntersectionAccessPoint.lane?]
      approachID := by
        cases hl : p.inBoundLane <;>
          simp [document, hl, IntersectionAccessPoint.toJson, IntersectionAccessPoint.approach?]
      connectionID := by
        cases hl : p.inBoundLane <;>
          simp [document, hl, IntersectionAccessPoint.toJson, IntersectionAccessPoint.connection?]
      etaMinute := by simp [document, SignalRequestPackage.expectedTimeOfArrival]
      etaSecond := by simp [document, SignalRequestPackage.expectedTimeOfArrival]
      etaDuration := by simp [document, SignalRequestPackage.expectedTimeOfArrival]
      vehicleID := by simp [document, hid, VehicleID.number]
      heading := by
        rw [hposition, hheading]
        exact (measures_heading _).2 hh
      speed := by
        rw [hposition, hspeed]
        exact (measures_optionalSpeed _).2 hs
      latitude := by
        have hlat : (document srm p role buf position).valueAt ["SignalRequest", "position", "latitude_DecimalDegree"] =
            some (real (.finite (Single.intDiv position.lat.toInt DEGREE_TO_TENTH_MICRODEGREE))) := by
          simp [document, RequestorPositionVector.positionJson]
        rw [hposition, hlat]
        exact measures_degree _
      longitude := by
        have hlong : (document srm p role buf position).valueAt ["SignalRequest", "position", "longitude_DecimalDegree"] =
            some (real (.finite (Single.intDiv position.Long.toInt DEGREE_TO_TENTH_MICRODEGREE))) := by
          simp [document, RequestorPositionVector.positionJson]
        rw [hposition, hlong]
        exact measures_degree _
      elevation := by
        rw [hposition, helevation]
        exact (measures_elevation _).2 he }

theorem toJson_eq_some {doc : Value} : p.toJson srm = some doc ↔ ∃ role, srm.requestor.type = some role ∧
    ∃ buf, srm.requestor.id = .entityID buf ∧ ∃ position, srm.requestor.position = some position ∧
      doc = document srm p role buf position := by
  have hid : ∀ buf, srm.requestor.id.entityID? = some buf ↔ srm.requestor.id = .entityID buf := by
    intro buf
    cases srm.requestor.id <;> simp [VehicleID.entityID?]
  simp only [SignalRequestPackage.toJson, Option.bind_eq_bind, Option.pure_def, Option.bind_eq_some_iff, Option.some.injEq, hid,
    eq_comm (a := doc)]

/-! ### All of them -/

theorem toSRMJsonV_eq_some {docs : List Value} : toSRMJsonV jsonV (some srm) = some (jsonV ++ docs) ↔
    (srm.requests.getD []).mapM (SignalRequestPackage.toJson srm) = some docs := by
  have happend : Function.Injective (jsonV ++ ·) := fun _ _ => List.append_cancel_left
  unfold toSRMJsonV
  dsimp only
  cases srm.requests with
  | none =>
    rw [Option.getD_none, List.mapM_nil]
    show some jsonV = some (jsonV ++ docs) ↔ some [] = some docs
    rw [Option.some.injEq, Option.some.injEq, List.self_eq_append_right, eq_comm]
  | some requests =>
    have hsome : some (jsonV ++ docs) = (some docs).map (jsonV ++ ·) := rfl
    rw [Option.getD_some, hsome]
    exact (Option.map_injective happend).eq_iff

/-- For any message and whatever was converted before: the converter writes one document for each request, in order, and
each is faithful, if and only if the message is convertible. -/
theorem srm_to_json (jsonV : List Value) (srm : SignalRequestMessage) :
    (∃ docs, toSRMJsonV jsonV (some srm) = some (jsonV ++ docs) ∧
      List.Forall₂ (Faithful srm) (srm.requests.getD []) docs) ↔ srm.Convertible := by
  simp only [toSRMJsonV_eq_some]
  rw [mapM_forall₂]
  constructor
  · intro h
    rcases List.eq_nil_or_concat (srm.requests.getD []) with hnil | ⟨l, p, hl⟩
    · exact .inl hnil
    · have hmem : p ∈ srm.requests.getD [] := by
        rw [hl, List.concat_eq_append]
        exact List.mem_concat_self
      obtain ⟨doc, hdoc, hfaithful⟩ := h p hmem
      obtain ⟨role, htype, buf, hid, position, hposition, rfl⟩ := toJson_eq_some.1 hdoc
      obtain ⟨hcount, -, hunscaled⟩ := (faithful_document htype hid hposition).1 hfaithful
      refine .inr ⟨hcount, ⟨role, htype⟩, ⟨buf, hid⟩, ⟨position, hposition, hunscaled⟩, ?_⟩
      by_cases htime : srm.timeStamp = none
      · exact .inl htime
      · refine .inr fun p' hp' hminute => htime ?_
        obtain ⟨doc', hdoc', hfaithful'⟩ := h p' hp'
        obtain ⟨role', htype', buf', hid', position', hposition', rfl⟩ := toJson_eq_some.1 hdoc'
        exact ((faithful_document htype' hid' hposition').1 hfaithful').2.1 hminute
  · rintro (hnil | ⟨hcount, ⟨role, htype⟩, ⟨buf, hid⟩, ⟨position, hposition, hunscaled⟩, htime⟩) p hp
    · rw [hnil] at hp
      exact absurd hp List.not_mem_nil
    · refine ⟨document srm p role buf position, toJson_eq_some.2 ⟨role, htype, buf, hid, position, hposition, rfl⟩, ?_⟩
      refine (faithful_document htype hid hposition).2 ⟨hcount, fun hminute => ?_, hunscaled⟩
      exact htime.resolve_right fun h => h p hp hminute

/-- A request with a sequence number: the document says `true` for it. -/
theorem srm_sequence_number :
    let request : SignalRequestPackage := ⟨1222, 0, .lane 1, some 123, some 1212, some 122⟩
    let srm : SignalRequestMessage :=
      ⟨none, 12, some 5, some [request], ⟨.entityID [1, 12, 12, 10], some 0, some ⟨3712333, 8012333, none, none, none⟩⟩⟩
    (∃ doc, toSRMJsonV [] (some srm) = some [doc] ∧
      doc.valueAt ["SignalRequest", "msgCount"] = some (boolean true)) ∧
    ¬ ∃ docs, toSRMJsonV [] (some srm) = some docs ∧ List.Forall₂ (Faithful srm) [request] docs := by
  intro request srm
  refine ⟨⟨_, rfl, by simp [document, srm]⟩, ?_⟩
  rintro ⟨docs, hdocs, hall⟩
  obtain rfl := Option.some.inj (hdocs.symm.trans rfl)
  obtain ⟨hfaithful, -⟩ := List.forall₂_cons.1 hall
  exact absurd ((faithful_document rfl rfl rfl).1 hfaithful).1 (nofun)

end V2xHub.CARMAStreetsPlugin.Srm
