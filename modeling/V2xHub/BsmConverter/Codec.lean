import Mathlib.Data.Rat.Floor
import Mathlib.Tactic.Linarith
import Mathlib.Tactic.NormNum
import Mathlib.Tactic.Ring

/-!
# The codec of basic safety messages

`BsmConverter` between the raw core data of a basic safety message and its physical units, which are exact
rationals here. A conversion of a number to an integer type that cannot hold it is undefined (`none`). Going there
and back keeps the core data exactly if it is `Kept` (`core_round_trip`), and a value that is out of range comes out
as the limit of its range exactly if it is `Near` it (`saturates_iff`).
-/

namespace V2xHub.BsmConverter

structure AccelerationSet4Way where
  Long : Int
  lat : Int
  vert : Int
  yaw : Int
deriving DecidableEq

/-- The bits of `wheelBrakes` are the upper five of its byte; the enumerations are numbers. -/
structure BrakeSystemStatus where
  wheelBrakes : UInt8
  traction : Int
  abs : Int
  scs : Int
  brakeBoost : Int
  auxBrakes : Int
deriving DecidableEq

structure VehicleSize where
  width : Int
  length : Int
deriving DecidableEq

structure PositionalAccuracy where
  semiMajor : Int
  semiMinor : Int
  orientation : Int
deriving DecidableEq

structure BSMcoreData where
  msgCnt : Int
  id : UInt32
  secMark : Int
  lat : Int
  Long : Int
  elev : Int
  accuracy : PositionalAccuracy
  transmission : Int
  speed : Int
  heading : Int
  angle : Int
  accelSet : AccelerationSet4Way
  brakes : BrakeSystemStatus
  size : VehicleSize
deriving DecidableEq

/-- A new message has the defaults. -/
structure DecodedBsmMessage where
  TemporaryId : UInt32 := 0
  SecondMark : UInt16 := 0
  Latitude : ℚ := 0
  Longitude : ℚ := 0
  Elevation_m : ℚ := 0
  Speed_mps : ℚ := 0
  Heading : ℚ := 0
  SteeringWheelAngle : ℚ := 0
  IsLocationValid : Bool := false
  IsElevationValid : Bool := false
  IsSpeedValid : Bool := false
  IsHeadingValid : Bool := false
  IsSteeringWheelAngleValid : Bool := false
deriving DecidableEq

/-! ### Conversions -/

/-- Towards zero. -/
def trunc (q : ℚ) : Int := if q < 0 then ⌈q⌉ else ⌊q⌋

/-- A number as an integer of the type from `lo` to `hi`. -/
def toInteger (lo hi : Int) (q : ℚ) : Option Int := if lo ≤ trunc q ∧ trunc q ≤ hi then some (trunc q) else none

def toInt8 : ℚ → Option Int := toInteger (-128) 127

def toInt16 : ℚ → Option Int := toInteger (-32768) 32767

def toUInt16 : ℚ → Option Int := toInteger 0 65535

def toInt32 : ℚ → Option Int := toInteger (-2147483648) 2147483647

/-! ### To physical units -/

def ToDecodedBsmMessage (bsm : BSMcoreData) : DecodedBsmMessage :=
  let latitude : Int := bsm.lat.bmod (2 ^ 32)
  let longitude : Int := bsm.Long.bmod (2 ^ 32)
  let location := latitude ≠ 900000001 ∧ longitude ≠ 1800000001
  let elevation : Int := bsm.elev.bmod (2 ^ 16)
  let speed : Int := bsm.speed % 2 ^ 16
  let heading : Int := bsm.heading % 2 ^ 16
  let angle : Int := bsm.angle.bmod (2 ^ 16)
  { TemporaryId := bsm.id
    Latitude := if location then latitude / 10000000 else 0
    Longitude := if location then longitude / 10000000 else 0
    IsLocationValid := location
    Elevation_m := if elevation ≠ -4095 then elevation / 10 else 0
    IsElevationValid := elevation ≠ -4095
    Speed_mps := if speed ≠ 8191 then speed / 50 else 0
    IsSpeedValid := speed ≠ 8191
    Heading := if heading ≠ 28800 then heading / 80 else 0
    IsHeadingValid := heading ≠ 28800
    SteeringWheelAngle := if angle ≠ 127 then angle * (3 / 2) else 0
    IsSteeringWheelAngleValid := angle ≠ 127 }

/-! ### To the core data -/

/-- What has a range of physical values. -/
inductive Quantity where
  | latitude
  | longitude
  | elevation
  | speed
  | heading
  | steeringWheelAngle
deriving DecidableEq

namespace Quantity

/-- A valid value as `ToBasicSafetyMessage` writes it. Elevation, heading and steering angle are set to their limits
there first; the assignment behind it has no `else`. -/
def encode : Quantity → ℚ → Option Int
  | latitude, x => toInt32 (x * 10000000)
  | longitude, x => toInt32 (x * 10000000)
  | elevation, x => toInt16 (x * 10)
  | speed, x => toInt16 (x * 50)
  | heading, x => toUInt16 (x * 80)
  | steeringWheelAngle, x => toInt8 (x * 80)

/-- A value, or the code for one that is not available. -/
def field (q : Quantity) (valid : Bool) (x : ℚ) (unavailable : Int) : Option Int :=
  if valid then q.encode x else some unavailable

end Quantity

def ToBasicSafetyMessage (decoded : DecodedBsmMessage) : Option BSMcoreData := do
  let lat ← Quantity.latitude.field decoded.IsLocationValid decoded.Latitude 900000001
  let Long ← Quantity.longitude.field decoded.IsLocationValid decoded.Longitude 1800000001
  let elev ← Quantity.elevation.field decoded.IsElevationValid decoded.Elevation_m (-4095)
  let speed ← Quantity.speed.field decoded.IsSpeedValid decoded.Speed_mps 8191
  let heading ← Quantity.heading.field decoded.IsHeadingValid decoded.Heading 28800
  let angle ← Quantity.steeringWheelAngle.field decoded.IsSteeringWheelAngleValid decoded.SteeringWheelAngle 127
  return {
    msgCnt := 0
    id := decoded.TemporaryId
    secMark := decoded.SecondMark.toNat
    lat, Long, elev, speed, heading, angle
    accuracy := ⟨0, 0, 0⟩
    transmission := 7
    accelSet := ⟨0, 0, 0, 0⟩
    brakes := ⟨0, 0, 0, 0, 0, 0⟩
    -- what the message is cleared to at the start
    size := ⟨0, 0⟩ }

/-! ### Ranges -/

structure BSMcoreData.InRange (bsm : BSMcoreData) : Prop where
  lat : -900000000 ≤ bsm.lat ∧ bsm.lat ≤ 900000001
  Long : -1799999999 ≤ bsm.Long ∧ bsm.Long ≤ 1800000001
  elev : -4096 ≤ bsm.elev ∧ bsm.elev ≤ 61439
  speed : 0 ≤ bsm.speed ∧ bsm.speed ≤ 8191
  heading : 0 ≤ bsm.heading ∧ bsm.heading ≤ 28800
  angle : -126 ≤ bsm.angle ∧ bsm.angle ≤ 127

namespace Quantity

/-- The least and the greatest raw value that is not the code for 'unavailable'. -/
def least : Quantity → Int
  | latitude => -900000000
  | longitude => -1799999999
  | elevation => -4095
  | speed => 0
  | heading => 0
  | steeringWheelAngle => -126

def greatest : Quantity → Int
  | latitude => 900000000
  | longitude => 1800000000
  | elevation => 61439
  | speed => 8190
  | heading => 28799
  | steeringWheelAngle => 126

/-- The raw units in one physical unit. -/
def scale : Quantity → ℚ
  | latitude => 10000000
  | longitude => 10000000
  | elevation => 10
  | speed => 50
  | heading => 80
  | steeringWheelAngle => 2 / 3

def Below (q : Quantity) (x : ℚ) : Prop := x * q.scale < q.least

def Above (q : Quantity) (x : ℚ) : Prop := q.greatest < x * q.scale

/-- A value that is out of range is written as the limit of the range that is nearest to it. -/
structure Saturates (q : Quantity) (x : ℚ) : Prop where
  below : q.Below x → q.encode x = some q.least
  above : q.Above x → q.encode x = some q.greatest

/-- Out of range by less than one raw unit at a limit that the code can write at all. -/
structure Near (q : Quantity) (x : ℚ) : Prop where
  below : q.Below x → q.least - 1 < x * q.scale ∧ q ≠ steeringWheelAngle
  above : q.Above x → x * q.scale < q.greatest + 1 ∧ q ≠ steeringWheelAngle ∧ q ≠ elevation

end Quantity

/-- The fields that the two directions are about. -/
structure BSMcoreData.SameFields (a b : BSMcoreData) : Prop where
  lat : a.lat = b.lat
  Long : a.Long = b.Long
  elev : a.elev = b.elev
  speed : a.speed = b.speed
  heading : a.heading = b.heading
  angle : a.angle = b.angle
  accelSet : a.accelSet = b.accelSet
  brakes : a.brakes = b.brakes
  size : a.size = b.size

def RoundTrips (bsm : BSMcoreData) : Prop :=
  ∃ bsm', ToBasicSafetyMessage (ToDecodedBsmMessage bsm) = some bsm' ∧ bsm'.SameFields bsm

/-- What the two directions keep: latitude and longitude both there or both not, an elevation that fits 16 bits, a
steering angle that is 0 or not available, and none of what only one direction has. -/
structure BSMcoreData.Kept (bsm : BSMcoreData) : Prop where
  location : bsm.lat = 900000001 ↔ bsm.Long = 1800000001
  elev : bsm.elev < 32768
  angle : bsm.angle = 0 ∨ bsm.angle = 127
  accelSet : bsm.accelSet = ⟨0, 0, 0, 0⟩
  brakes : bsm.brakes = ⟨0, 0, 0, 0, 0, 0⟩
  size : bsm.size = ⟨0, 0⟩

/-! ### The two directions -/

@[simp] theorem trunc_intCast (n : Int) : trunc n = n := by rw [trunc, Int.ceil_intCast, Int.floor_intCast, ite_self]

theorem toInteger_intCast {lo hi n : Int} : toInteger lo hi n = if lo ≤ n ∧ n ≤ hi then some n else none := by
  rw [toInteger, trunc_intCast]

theorem encode_latitude {n : Int} (h : -900000000 ≤ n ∧ n ≤ 900000001) :
    Quantity.latitude.encode (n / 10000000) = some n := by
  rw [Quantity.encode, toInt32, div_mul_cancel₀ _ (by norm_num), toInteger_intCast, if_pos (by omega)]

theorem encode_longitude {n : Int} (h : -1799999999 ≤ n ∧ n ≤ 1800000001) :
    Quantity.longitude.encode (n / 10000000) = some n := by
  rw [Quantity.encode, toInt32, div_mul_cancel₀ _ (by norm_num), toInteger_intCast, if_pos (by omega)]

theorem encode_elevation {n : Int} (h : -32768 ≤ n ∧ n ≤ 32767) : Quantity.elevation.encode (n / 10) = some n := by
  rw [Quantity.encode, toInt16, div_mul_cancel₀ _ (by norm_num), toInteger_intCast, if_pos h]

theorem encode_speed {n : Int} (h : 0 ≤ n ∧ n ≤ 8191) : Quantity.speed.encode (n / 50) = some n := by
  rw [Quantity.encode, toInt16, div_mul_cancel₀ _ (by norm_num), toInteger_intCast, if_pos (by omega)]

theorem encode_heading {n : Int} (h : 0 ≤ n ∧ n ≤ 28800) : Quantity.heading.encode (n / 80) = some n := by
  rw [Quantity.encode, toUInt16, div_mul_cancel₀ _ (by norm_num), toInteger_intCast, if_pos (by omega)]

/-- The factor of the one direction is not that of the other. -/
theorem encode_angle {n : Int} :
    Quantity.steeringWheelAngle.encode (n * (3 / 2)) = if -1 ≤ n ∧ n ≤ 1 then some (120 * n) else none := by
  have hscaled : (n : ℚ) * (3 / 2) * 80 = ((120 * n : Int) : ℚ) := by
    push_cast
    ring
  rw [Quantity.encode, toInt8, hscaled, toInteger_intCast]
  exact if_congr (by omega) rfl rfl

theorem decoded_lat {bsm : BSMcoreData} (h : bsm.InRange) : bsm.lat.bmod (2 ^ 32) = bsm.lat :=
  Int.bmod_eq_of_le (by have := h.lat; omega) (by have := h.lat; omega)

theorem decoded_Long {bsm : BSMcoreData} (h : bsm.InRange) : bsm.Long.bmod (2 ^ 32) = bsm.Long :=
  Int.bmod_eq_of_le (by have := h.Long; omega) (by have := h.Long; omega)

theorem decoded_angle {bsm : BSMcoreData} (h : bsm.InRange) : bsm.angle.bmod (2 ^ 16) = bsm.angle :=
  Int.bmod_eq_of_le (by have := h.angle; omega) (by have := h.angle; omega)

section
variable {bsm : BSMcoreData} (h : bsm.InRange)
include h

/-- The two coordinates are there together or not at all. -/
theorem field_location :
    (Quantity.latitude.field (ToDecodedBsmMessage bsm).IsLocationValid (ToDecodedBsmMessage bsm).Latitude 900000001 =
        some bsm.lat ∧
      Quantity.longitude.field (ToDecodedBsmMessage bsm).IsLocationValid (ToDecodedBsmMessage bsm).Longitude
        1800000001 = some bsm.Long) ↔
      (bsm.lat = 900000001 ↔ bsm.Long = 1800000001) := by
  simp only [ToDecodedBsmMessage, decoded_lat h, decoded_Long h, Quantity.field]
  by_cases hlocation : bsm.lat ≠ 900000001 ∧ bsm.Long ≠ 1800000001
  · rw [if_pos (decide_eq_true hlocation), if_pos (decide_eq_true hlocation), if_pos hlocation, if_pos hlocation]
    exact iff_of_true ⟨encode_latitude h.lat, encode_longitude h.Long⟩ (iff_of_false hlocation.1 hlocation.2)
  · simp only [hlocation, decide_false, Bool.false_eq_true, if_false, Option.some.injEq]
    omega

/-- An elevation from 3276.8 m on wraps to a negative one. -/
theorem field_elevation :
    Quantity.elevation.field (ToDecodedBsmMessage bsm).IsElevationValid (ToDecodedBsmMessage bsm).Elevation_m (-4095) =
      some bsm.elev ↔ bsm.elev < 32768 := by
  have hrange := h.elev
  have hlower : -(2 ^ 16 / 2 : Int) ≤ bsm.elev.bmod (2 ^ 16) := Int.le_bmod (by norm_num)
  have hupper : bsm.elev.bmod (2 ^ 16) < ((2 ^ 16 : Nat) + 1) / 2 := Int.bmod_lt (by norm_num)
  have hkept : bsm.elev.bmod (2 ^ 16) = bsm.elev ↔ bsm.elev < 32768 :=
    ⟨fun heq => by omega, fun hlt => Int.bmod_eq_of_le (by omega) (by omega)⟩
  simp only [ToDecodedBsmMessage, Quantity.field]
  rw [← hkept]
  by_cases helevation : bsm.elev.bmod (2 ^ 16) = -4095
  · simp only [helevation, ne_eq, not_true_eq_false, decide_false, Bool.false_eq_true, if_false, Option.some.injEq]
  · simp only [helevation, ne_eq, not_false_eq_true, decide_true, if_true]
    rw [encode_elevation ⟨by omega, by omega⟩, Option.some.injEq]

theorem field_speed :
    Quantity.speed.field (ToDecodedBsmMessage bsm).IsSpeedValid (ToDecodedBsmMessage bsm).Speed_mps 8191 =
      some bsm.speed := by
  have hspeed : bsm.speed % 2 ^ 16 = bsm.speed := by have := h.speed; omega
  simp only [ToDecodedBsmMessage, hspeed, Quantity.field]
  by_cases hunavailable : bsm.speed = 8191
  · simp [hunavailable]
  · simp only [hunavailable, ne_eq, not_false_eq_true, decide_true, if_true]
    exact encode_speed h.speed

theorem field_heading :
    Quantity.heading.field (ToDecodedBsmMessage bsm).IsHeadingValid (ToDecodedBsmMessage bsm).Heading 28800 =
      some bsm.heading := by
  have hheading : bsm.heading % 2 ^ 16 = bsm.heading := by have := h.heading; omega
  simp only [ToDecodedBsmMessage, hheading, Quantity.field]
  by_cases hunavailable : bsm.heading = 28800
  · simp [hunavailable]
  · simp only [hunavailable, ne_eq, not_false_eq_true, decide_true, if_true]
    exact encode_heading h.heading

/-- The angle comes back as the 120-fold of itself, where that fits a byte. -/
theorem field_angle :
    Quantity.steeringWheelAngle.field (ToDecodedBsmMessage bsm).IsSteeringWheelAngleValid
      (ToDecodedBsmMessage bsm).SteeringWheelAngle 127 = some bsm.angle ↔ bsm.angle = 0 ∨ bsm.angle = 127 := by
  simp only [ToDecodedBsmMessage, decoded_angle h, Quantity.field]
  by_cases hunavailable : bsm.angle = 127
  · simp [hunavailable]
  · simp only [hunavailable, ne_eq, not_false_eq_true, decide_true, if_true, or_false, encode_angle]
    split_ifs with hsmall
    · rw [Option.some.injEq]
      omega
    · refine iff_of_false nofun ?_
      omega

end

/-- What is written, field by field. -/
theorem written_iff {decoded : DecodedBsmMessage} {bsm : BSMcoreData} :
    (∃ bsm', ToBasicSafetyMessage decoded = some bsm' ∧ bsm'.SameFields bsm) ↔
      ((Quantity.latitude.field decoded.IsLocationValid decoded.Latitude 900000001 = some bsm.lat ∧
        Quantity.longitude.field decoded.IsLocationValid decoded.Longitude 1800000001 = some bsm.Long) ∧
      Quantity.elevation.field decoded.IsElevationValid decoded.Elevation_m (-4095) = some bsm.elev ∧
      Quantity.speed.field decoded.IsSpeedValid decoded.Speed_mps 8191 = some bsm.speed ∧
      Quantity.heading.field decoded.IsHeadingValid decoded.Heading 28800 = some bsm.heading ∧
      Quantity.steeringWheelAngle.field decoded.IsSteeringWheelAngleValid decoded.SteeringWheelAngle 127 =
        some bsm.angle) ∧
      bsm.accelSet = ⟨0, 0, 0, 0⟩ ∧ bsm.brakes = ⟨0, 0, 0, 0, 0, 0⟩ ∧ bsm.size = ⟨0, 0⟩ := by
  simp only [ToBasicSafetyMessage, Option.bind_eq_bind, Option.bind_eq_some_iff, Option.pure_def, Option.some.injEq]
  constructor
  · rintro ⟨bsm', ⟨lat, hlat, Long, hLong, elev, helev, speed, hspeed, heading, hheading, angle, hangle, rfl⟩, hsame⟩
    obtain ⟨rfl, rfl, rfl, rfl, rfl, rfl, haccel, hbrakes, hsize⟩ := hsame
    exact ⟨⟨⟨hlat, hLong⟩, helev, hspeed, hheading, hangle⟩, haccel.symm, hbrakes.symm, hsize.symm⟩
  · rintro ⟨⟨⟨hlat, hLong⟩, helev, hspeed, hheading, hangle⟩, haccel, hbrakes, hsize⟩
    exact ⟨_, ⟨_, hlat, _, hLong, _, helev, _, hspeed, _, hheading, _, hangle, rfl⟩,
      ⟨rfl, rfl, rfl, rfl, rfl, rfl, haccel.symm, hbrakes.symm, hsize.symm⟩⟩

theorem core_round_trip {bsm : BSMcoreData} (h : bsm.InRange) : RoundTrips bsm ↔ bsm.Kept := by
  rw [RoundTrips, written_iff, field_location h, field_elevation h, field_angle h]
  simp only [field_speed h, field_heading h, true_and]
  exact ⟨fun ⟨⟨h1, h2, h3⟩, h4, h5, h6⟩ => ⟨h1, h2, h3, h4, h5, h6⟩,
    fun ⟨h1, h2, h3, h4, h5, h6⟩ => ⟨⟨h1, h2, h3⟩, h4, h5, h6⟩⟩

/-! ### Out of range -/

theorem trunc_eq_of_lt {L : Int} {y : ℚ} (hL : L ≤ 0) (hy : y < L) : trunc y = L ↔ (L : ℚ) - 1 < y := by
  have hneg : y < 0 := lt_of_lt_of_le hy (by exact_mod_cast hL)
  rw [trunc, if_pos hneg, Int.ceil_eq_iff]
  exact and_iff_left hy.le

theorem trunc_eq_of_gt {L : Int} {y : ℚ} (hL : 0 ≤ L) (hy : L < y) : trunc y = L ↔ y < (L : ℚ) + 1 := by
  have hpos : (0 : ℚ) ≤ y := le_trans (by exact_mod_cast hL) hy.le
  rw [trunc, if_neg (not_lt.2 hpos), Int.floor_eq_iff]
  exact and_iff_right hy.le

theorem toInteger_eq_some {lo hi n : Int} {y : ℚ} : toInteger lo hi y = some n ↔ trunc y = n ∧ lo ≤ n ∧ n ≤ hi := by
  rw [toInteger]
  split_ifs with h
  · rw [Option.some.injEq]
    exact ⟨fun heq => ⟨heq, heq ▸ h⟩, And.left⟩
  · refine iff_of_false nofun ?_
    rintro ⟨rfl, hn⟩
    exact h hn

namespace Quantity

/-- The steering angle is scaled by another factor than its limits. -/
theorem encode_eq {q : Quantity} (hq : q ≠ steeringWheelAngle) {x : ℚ} {n : Int} (hn : q.least ≤ n ∧ n ≤ q.greatest) :
    q.encode x = some n ↔ trunc (x * q.scale) = n ∧ (n ≤ 32767 ∨ q ≠ elevation) := by
  cases q with
  | steeringWheelAngle => exact absurd rfl hq
  | elevation =>
    have hn : -4095 ≤ n ∧ n ≤ 61439 := hn
    rw [encode, toInt16, toInteger_eq_some]
    refine and_congr_right fun _ => ?_
    simp only [ne_eq, not_true_eq_false, or_false]
    omega
  | latitude | longitude | speed | heading =>
    simp only [least, greatest] at hn
    simp only [encode, toInt16, toInt32, toUInt16, toInteger_eq_some]
    refine and_congr_right fun _ => iff_of_true ⟨by omega, by omega⟩ (Or.inr (by decide))

theorem encode_steeringWheelAngle_below {x : ℚ} (h : steeringWheelAngle.Below x) :
    steeringWheelAngle.encode x ≠ some steeringWheelAngle.least := by
  intro heq
  obtain ⟨htrunc, -⟩ := toInteger_eq_some.1 heq
  have hx : x * (2 / 3) < ((-126 : Int) : ℚ) := h
  push_cast at hx
  have hneg : x * 80 < 0 := by linarith
  rw [trunc, if_pos hneg, Int.ceil_eq_iff] at htrunc
  have hlower : ((-126 : Int) : ℚ) - 1 < x * 80 := htrunc.1
  push_cast at hlower
  linarith

theorem encode_steeringWheelAngle_above {x : ℚ} (h : steeringWheelAngle.Above x) :
    steeringWheelAngle.encode x ≠ some steeringWheelAngle.greatest := by
  intro heq
  obtain ⟨htrunc, -⟩ := toInteger_eq_some.1 heq
  have hx : ((126 : Int) : ℚ) < x * (2 / 3) := h
  push_cast at hx
  have hpos : ¬x * 80 < 0 := by linarith
  rw [trunc, if_neg hpos, Int.floor_eq_iff] at htrunc
  have hupper : x * 80 < ((126 : Int) : ℚ) + 1 := htrunc.2
  push_cast at hupper
  linarith

theorem saturates_below (q : Quantity) {x : ℚ} (h : q.Below x) :
    q.encode x = some q.least ↔ (q.least : ℚ) - 1 < x * q.scale ∧ q ≠ steeringWheelAngle := by
  by_cases hq : q = steeringWheelAngle
  · subst hq
    exact iff_of_false (encode_steeringWheelAngle_below h) fun h => h.2 rfl
  · rw [encode_eq hq ⟨le_refl _, by cases q <;> decide⟩, trunc_eq_of_lt (by cases q <;> decide) h]
    exact and_congr_right fun _ => iff_of_true (Or.inl (by cases q <;> decide)) hq

theorem saturates_above (q : Quantity) {x : ℚ} (h : q.Above x) :
    q.encode x = some q.greatest ↔
      x * q.scale < (q.greatest : ℚ) + 1 ∧ q ≠ steeringWheelAngle ∧ q ≠ elevation := by
  by_cases hq : q = steeringWheelAngle
  · subst hq
    exact iff_of_false (encode_steeringWheelAngle_above h) fun h => h.2.1 rfl
  · rw [encode_eq hq ⟨by cases q <;> decide, le_refl _⟩, trunc_eq_of_gt (by cases q <;> decide) h]
    refine and_congr_right fun _ => ?_
    cases q <;> simp [greatest] at hq ⊢

theorem saturates_iff (q : Quantity) (x : ℚ) : q.Saturates x ↔ q.Near x :=
  ⟨fun hs => ⟨fun h => (q.saturates_below h).1 (hs.below h), fun h => (q.saturates_above h).1 (hs.above h)⟩,
    fun hn => ⟨fun h => (q.saturates_below h).2 (hn.below h), fun h => (q.saturates_above h).2 (hn.above h)⟩⟩

end Quantity

/-- The codec, over every core data and every physical value. -/
theorem codec (bsm : BSMcoreData) (hrange : bsm.InRange) (q : Quantity) (x : ℚ) :
    (RoundTrips bsm ↔ bsm.Kept) ∧ (q.Saturates x ↔ q.Near x) :=
  ⟨core_round_trip hrange, q.saturates_iff x⟩

/-- A message with an elevation of `elev` decimetres and zeros. -/
def atElevation (elev : Int) : BSMcoreData :=
  ⟨0, 0, 0, 0, 0, elev, ⟨0, 0, 0⟩, 7, 0, 0, 0, ⟨0, 0, 0, 0⟩, ⟨0, 0, 0, 0, 0, 0⟩, ⟨0, 0⟩⟩

theorem codec_plain : RoundTrips (atElevation 100) ∧ Quantity.heading.Saturates (-1 / 100) := by
  have hrange : (atElevation 100).InRange := by constructor <;> decide
  have hcodec := codec (atElevation 100) hrange .heading (-1 / 100)
  refine ⟨hcodec.1.2 (by constructor <;> decide), hcodec.2.2 ⟨fun _ => ⟨?_, by decide⟩, fun habove => ?_⟩⟩
  · norm_num [Quantity.least, Quantity.scale]
  · norm_num [Quantity.Above, Quantity.greatest, Quantity.scale] at habove

/-- An elevation of 4000 m wraps, a heading of 360 degrees becomes the code for 'unavailable'. -/
theorem codec_wraps :
    ((atElevation 40000).InRange ∧ ¬RoundTrips (atElevation 40000)) ∧
      Quantity.heading.encode 360 = some 28800 ∧ ¬Quantity.heading.Saturates 360 := by
  have hencode : Quantity.heading.encode 360 = some 28800 := by
    have hscaled : (360 : ℚ) * 80 = ((28800 : Int) : ℚ) := by norm_num
    rw [Quantity.encode, toUInt16, hscaled, toInteger_intCast]
    rfl
  refine ⟨⟨by constructor <;> decide, fun hround => ?_⟩, hencode, fun hsaturates => ?_⟩
  · have hrange : (atElevation 40000).InRange := by constructor <;> decide
    exact absurd ((field_elevation hrange).1 (written_iff.1 hround).1.2.1) (by decide)
  · have habove : Quantity.heading.Above 360 := by norm_num [Quantity.Above, Quantity.greatest, Quantity.scale]
    exact absurd (hencode.symm.trans (hsaturates.above habove)) (by decide)

end V2xHub.BsmConverter
