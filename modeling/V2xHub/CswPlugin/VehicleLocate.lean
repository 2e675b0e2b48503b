import Mathlib.Algebra.Order.Field.Basic
import Mathlib.Algebra.Order.Round
import Mathlib.Analysis.SpecialFunctions.Complex.Arg
import Mathlib.Tactic.Linarith
import Mathlib.Tactic.NormNum
import V2xHub.Lib.CString

/-!
# The curve region of a vehicle

`VehicleLocate` in exact arithmetic: the numbers are those of an ordered field, and the functions of the plane and of the
sphere are parameters, of which the bearing lies in the circle. Where a pointer is null, or a node is read through an
alternative of another layout, the model stops with a fault. The regions are gone through with the numbers that they get
(`FindRegion_eq_search`), up to the first in which the vehicle is.
-/

namespace V2xHub.VehicleLocate

structure WGS84Point (K : Type) where
  Latitude : K
  Longitude : K

/-- The functions that the code is written with. -/
structure Geometry (K : Type) [Field K] [LinearOrder K] where
  PI : K
  cos : K → K
  sqrt : K → K
  DistanceMeters : WGS84Point K → WGS84Point K → K
  GetBearingDegrees : WGS84Point K → WGS84Point K → K
  bearing_nonneg : ∀ p q, 0 ≤ GetBearingDegrees p q
  bearing_lt : ∀ p q, GetBearingDegrees p q < 360

/-! ### The messages -/

structure Position3D where
  lat : Int
  Long : Int

inductive NodeOffsetPointXY where
  | node_XY1 (x y : Int)
  | node_XY2 (x y : Int)
  | node_XY3 (x y : Int)
  | node_XY4 (x y : Int)
  | node_XY5 (x y : Int)
  | node_XY6 (x y : Int)
  | node_LatLon (lon lat : Int)
  | regional

/-- What describes a path: the nodes, or another alternative of one of the choices on the way to them. -/
inductive Description where
  | nodes (list : List NodeOffsetPointXY)
  | computed
  | ll
  | geometry
  | oldRegion

structure GeographicalPath where
  anchor : Option Position3D
  laneWidth : Option Int
  description : Option Description

structure TiDataFrame where
  regions : List GeographicalPath

structure TravelerInformation where
  dataFrames : List TiDataFrame

/-- The core data, in the ranges of their types. -/
structure BasicSafetyMessage where
  id : UInt8 × UInt8 × UInt8 × UInt8
  lat : Int
  Long : Int
  speed : Nat
  heading : Nat
  speed_le : speed ≤ 8191
  heading_le : heading ≤ 28800

/-! ### The code -/

inductive Fault where
  | laneWidth
  | description
  | anchor
  | alternative
deriving DecidableEq

/-- The offsets in `node_XY6`: the six alternatives have one layout. -/
def NodeOffsetPointXY.choice_node_XY6 : NodeOffsetPointXY → Except Fault (Int × Int)
  | node_XY1 x y => .ok (x, y)
  | node_XY2 x y => .ok (x, y)
  | node_XY3 x y => .ok (x, y)
  | node_XY4 x y => .ok (x, y)
  | node_XY5 x y => .ok (x, y)
  | node_XY6 x y => .ok (x, y)
  | node_LatLon _ _ => .error .alternative
  | regional => .error .alternative

section
variable {K : Type} [Field K] [LinearOrder K] (G : Geometry K)

/-- `DSRC_EQUATORIAL_RADIUS_CM` -/
def radius : K := 637813700

/-- The points behind the nodes with these sums of offsets. -/
def pointsFrom (baseLatitude baseLongitude : K) : (totalXOffset totalYOffset : Int) → List NodeOffsetPointXY →
    Except Fault (List (WGS84Point K))
  | _, _, [] => .ok []
  | totalXOffset, totalYOffset, node :: nodes => do
    let (xOffset, yOffset) ← node.choice_node_XY6
    let totalXOffset := totalXOffset + xOffset
    let totalYOffset := totalYOffset + yOffset
    let point : WGS84Point K :=
      ⟨baseLatitude + (totalYOffset : K) / radius * (180 / G.PI),
        baseLongitude + (totalXOffset : K) / radius * (180 / G.PI) / G.cos (baseLatitude * G.PI / 180)⟩
    let points ← pointsFrom baseLatitude baseLongitude totalXOffset totalYOffset nodes
    return point :: points

def GetPointArray (nodes : List NodeOffsetPointXY) (nodesAnchor : Option Position3D) :
    Except Fault (List (WGS84Point K)) :=
  match nodesAnchor with
  | none => .error .anchor
  | some anchor => pointsFrom G ((anchor.lat : K) / 10000000) ((anchor.Long : K) / 10000000) 0 0 nodes

/-- The vehicle's distance to the line through the ends, from the sides of the triangle. -/
def dist_perp (laneDist_m dist1 dist2 : K) : K :=
  let s := 1 / 2 * (laneDist_m + dist1 + dist2)
  let area := G.sqrt (s * (s - dist1) * (s - dist2) * (s - laneDist_m))
  2 * (area / laneDist_m)

def IsInPointList (point : WGS84Point K) (heading : Nat) (laneWidth : K) : List (WGS84Point K) → Bool
  | previous :: next :: points =>
    let pointsHeading := G.GetBearingDegrees next previous
    let headingDiff := |(heading : K) - pointsHeading|
    if headingDiff > 90 ∧ headingDiff < 270 then IsInPointList point heading laneWidth (next :: points)
    else
      let laneDist_m := G.DistanceMeters next previous
      let dist1 := G.DistanceMeters next point
      let dist2 := G.DistanceMeters previous point
      if laneDist_m > dist1 ∧ laneDist_m > dist2 ∧ laneWidth / 2 > dist_perp G laneDist_m dist1 dist2 then true
      else IsInPointList point heading laneWidth (next :: points)
  | _ => false

/-- What is read of a region: the lane width in meters and the points. -/
def GeographicalPath.read (geoPath : GeographicalPath) : Except Fault (K × List (WGS84Point K)) :=
  match geoPath.laneWidth with
  | none => .error .laneWidth
  | some laneWidth =>
    match geoPath.description with
    | none => .error .description
    | some (.nodes list) => (GetPointArray G list geoPath.anchor).map fun points => ((laneWidth : K) / 100, points)
    | some _ => .error .alternative

/-- The regions of one frame, from the index `i` on. -/
def FindRegionInFrame (point : WGS84Point K) (heading : Nat) : (i : Nat) → List GeographicalPath → Except Fault (Option Nat)
  | _, [] => .ok none
  | i, geoPath :: regions => do
    let (laneWidth, points) ← geoPath.read G
    if IsInPointList G point heading laneWidth points then return some (i + 1)
    else FindRegionInFrame point heading (i + 1) regions

def FindRegion (point : WGS84Point K) (heading : Nat) : List TiDataFrame → Except Fault (Option Nat)
  | [] => .ok none
  | frame :: frames => do
    match ← FindRegionInFrame G point heading 0 frame.regions with
    | some regionNumber => return some regionNumber
    | none => FindRegion point heading frames

/-- Miles an hour in a meter a second. -/
def toMph : K := 22369362920544 / 10000000000000

def GetInt32 (buf : UInt8 × UInt8 × UInt8 × UInt8) : Int :=
  (((buf.1.toNat * 256 + buf.2.1.toNat) * 256 + buf.2.2.1.toNat) * 256 + buf.2.2.2.toNat : Int).bmod (2 ^ 32)

structure Located (K : Type) where
  regionNumber : Nat
  speed_mph : K
  vehicleId : Int

def vehiclePoint (bsm : BasicSafetyMessage) : WGS84Point K := ⟨(bsm.lat : K) / 10000000, (bsm.Long : K) / 10000000⟩

/-- The heading becomes an integer where it is passed on, and the speed where it is divided; `none` for an unknown speed. -/
def ProcessBsmMessage (bsm : BasicSafetyMessage) (tim : TravelerInformation) : Except Fault (Option (Located K)) :=
  if bsm.speed ≠ 8191 then do
    let regionNumber ← FindRegion G (vehiclePoint bsm) (bsm.heading / 80) tim.dataFrames
    return some ⟨regionNumber.getD 0, ((bsm.speed / 50 : Nat) : K) * toMph, GetInt32 bsm.id⟩
  else return none

/-! ### What is asked -/

/-- Modulo 360. -/
def Within90 (h b : K) : Prop := ∃ k : ℤ, |h - b + 360 * k| ≤ 90

/-- What a segment has to be, for a vehicle with the heading `h`. -/
def Passes (point : WGS84Point K) (h laneWidth : K) (previous next : WGS84Point K) : Prop :=
  Within90 h (G.GetBearingDegrees next previous) ∧
    G.DistanceMeters next point < G.DistanceMeters next previous ∧
    G.DistanceMeters previous point < G.DistanceMeters next previous ∧
    dist_perp G (G.DistanceMeters next previous) (G.DistanceMeters next point) (G.DistanceMeters previous point) <
      laneWidth / 2

/-- The region has such a segment. -/
def Encloses (point : WGS84Point K) (h : K) (geoPath : GeographicalPath) : Prop :=
  ∃ laneWidth points, geoPath.read G = .ok (laneWidth, points) ∧
    ∃ (i : Nat) (previous next : WGS84Point K), points[i]? = some previous ∧ points[i + 1]? = some next ∧
      Passes G point h laneWidth previous next

def TravelerInformation.regions (tim : TravelerInformation) : List GeographicalPath := tim.dataFrames.flatMap (·.regions)

/-- The regions with the numbers that are returned for them. -/
def numbered (frames : List TiDataFrame) : List (GeographicalPath × Nat) :=
  frames.flatMap fun frame => frame.regions.zipIdx 1

/-- The degrees of the heading. -/
def BasicSafetyMessage.degrees (bsm : BasicSafetyMessage) : K := (bsm.heading : K) / 80

/-- Nothing faults, no two regions have one number, a number is found where a region encloses the vehicle, and the speed is
that of the message. -/
def Correct (bsm : BasicSafetyMessage) (tim : TravelerInformation) : Prop :=
  ∃ located, ProcessBsmMessage G bsm tim = .ok (some located) ∧
    ((numbered tim.dataFrames).map Prod.snd).Nodup ∧
    (located.regionNumber ≠ 0 ↔ ∃ geoPath ∈ tim.regions, Encloses G (vehiclePoint bsm) (bsm.degrees : K) geoPath) ∧
    located.speed_mph = (bsm.speed : K) * (2 / 100) * toMph

/-- The fields are there, and every node has offsets. -/
def GeographicalPath.Readable (geoPath : GeographicalPath) : Prop :=
  geoPath.laneWidth ≠ none ∧ geoPath.anchor ≠ none ∧
    ∃ list, geoPath.description = some (.nodes list) ∧ ∀ node ∈ list, ∃ x y, node.choice_node_XY6 = .ok (x, y)

/-- The heading in whole degrees. -/
def BasicSafetyMessage.wholeDegrees (bsm : BasicSafetyMessage) : K := ((bsm.heading / 80 : Nat) : K)

/-- Every region that is reached is readable, of two frames one has no regions, the heading in whole degrees finds a
region where the heading does, and the speed is in whole meters a second. -/
def Sound (bsm : BasicSafetyMessage) (tim : TravelerInformation) : Prop :=
  (∀ before geoPath behind, tim.regions = before ++ geoPath :: behind →
      (∀ r ∈ before, ¬ Encloses G (vehiclePoint bsm) (bsm.wholeDegrees : K) r) → geoPath.Readable) ∧
    tim.dataFrames.Pairwise (fun frame frame' => frame.regions = [] ∨ frame'.regions = []) ∧
    ((∃ geoPath ∈ tim.regions, Encloses G (vehiclePoint bsm) (bsm.wholeDegrees : K) geoPath) ↔
      ∃ geoPath ∈ tim.regions, Encloses G (vehiclePoint bsm) (bsm.degrees : K) geoPath) ∧
    50 ∣ bsm.speed

end

end V2xHub.VehicleLocate

/-! ### The distance and the bearing with real numbers -/

namespace V2xHub.Conversions

open VehicleLocate (WGS84Point Geometry)

/-- The argument of `x + y i`. -/
noncomputable def atan2 (y x : ℝ) : ℝ := Complex.arg ⟨x, y⟩

noncomputable def ConvertDegreesToRadians (degrees : ℝ) : ℝ := degrees * (Real.pi / 180)

noncomputable def ConvertRadiansToDegrees (radians : ℝ) : ℝ := radians * (180 / Real.pi)

noncomputable def DistanceMeters (point1 point2 : WGS84Point ℝ) : ℝ :=
  let earthRadius := 6371
  let dLat := ConvertDegreesToRadians point1.Latitude - ConvertDegreesToRadians point2.Latitude
  let dLon := ConvertDegreesToRadians point1.Longitude - ConvertDegreesToRadians point2.Longitude
  let a := Real.sin (dLat / 2) * Real.sin (dLat / 2) +
    Real.cos (ConvertDegreesToRadians point2.Latitude) * Real.cos (ConvertDegreesToRadians point1.Latitude) *
      Real.sin (dLon / 2) * Real.sin (dLon / 2)
  let c := 2 * atan2 (Real.sqrt a) (Real.sqrt (1 - a))
  earthRadius * c * 1000

noncomputable def GetBearingDegrees (point1 point2 : WGS84Point ℝ) : ℝ :=
  let lat1 := ConvertDegreesToRadians point1.Latitude
  let long1 := ConvertDegreesToRadians point1.Longitude
  let lat2 := ConvertDegreesToRadians point2.Latitude
  let long2 := ConvertDegreesToRadians point2.Longitude
  let deltaLong := long2 - long1
  let y := Real.sin deltaLong * Real.cos lat2
  let x := Real.cos lat1 * Real.sin lat2 - Real.sin lat1 * Real.cos lat2 * Real.cos deltaLong
  let bearingDegrees := ConvertRadiansToDegrees (atan2 y x)
  if bearingDegrees < 0 then bearingDegrees + 360 else bearingDegrees

theorem atan2_degrees (y x : ℝ) :
    -180 < ConvertRadiansToDegrees (atan2 y x) ∧ ConvertRadiansToDegrees (atan2 y x) ≤ 180 := by
  have hpi : 0 < 180 / Real.pi := div_pos (by norm_num) Real.pi_pos
  have hhalf : Real.pi * (180 / Real.pi) = 180 := mul_div_cancel₀ 180 Real.pi_ne_zero
  rw [ConvertRadiansToDegrees, atan2]
  constructor
  · calc (-180 : ℝ) = -Real.pi * (180 / Real.pi) := by rw [neg_mul, hhalf]
      _ < Complex.arg ⟨x, y⟩ * (180 / Real.pi) := mul_lt_mul_of_pos_right (Complex.neg_pi_lt_arg _) hpi
  · calc Complex.arg ⟨x, y⟩ * (180 / Real.pi) ≤ Real.pi * (180 / Real.pi) :=
        mul_le_mul_of_nonneg_right (Complex.arg_le_pi _) hpi.le
      _ = 180 := hhalf

theorem positive_range {degrees : ℝ} (h : -180 < degrees ∧ degrees ≤ 180) :
    0 ≤ (if degrees < 0 then degrees + 360 else degrees) ∧ (if degrees < 0 then degrees + 360 else degrees) < 360 := by
  obtain ⟨hlow, hhigh⟩ := h
  split_ifs <;> constructor <;> linarith

theorem bearing_range (point1 point2 : WGS84Point ℝ) :
    0 ≤ GetBearingDegrees point1 point2 ∧ GetBearingDegrees point1 point2 < 360 :=
  positive_range (atan2_degrees _ _)

/-- Along a meridian, for points that are less than half of the circle apart. -/
theorem DistanceMeters_meridian {p q : WGS84Point ℝ} (hlong : p.Longitude = q.Longitude) {x : ℝ} (h0 : 0 ≤ x)
    (hpi : x ≤ Real.pi) (hx : |ConvertDegreesToRadians p.Latitude - ConvertDegreesToRadians q.Latitude| = x) :
    DistanceMeters p q = 6371000 * x := by
  have hsin : 0 ≤ Real.sin (x / 2) := Real.sin_nonneg_of_nonneg_of_le_pi (by linarith) (by linarith)
  have hcos : 0 ≤ Real.cos (x / 2) := Real.cos_nonneg_of_neg_pi_div_two_le_of_le (by linarith) (by linarith)
  have hsq : Real.sin ((ConvertDegreesToRadians p.Latitude - ConvertDegreesToRadians q.Latitude) / 2) *
      Real.sin ((ConvertDegreesToRadians p.Latitude - ConvertDegreesToRadians q.Latitude) / 2) = Real.sin (x / 2) ^ 2 := by
    rw [← hx]
    rcases abs_choice (ConvertDegreesToRadians p.Latitude - ConvertDegreesToRadians q.Latitude) with habs | habs
    · rw [habs, sq]
    · rw [habs, neg_div, Real.sin_neg, neg_sq, sq]
  have harg : atan2 (Real.sin (x / 2)) (Real.cos (x / 2)) = x / 2 := by
    have := Complex.arg_cos_add_sin_mul_I (show x / 2 ∈ Set.Ioc (-Real.pi) Real.pi from
      ⟨by linarith [Real.pi_pos], by linarith⟩)
    rw [← Complex.ofReal_cos, ← Complex.ofReal_sin] at this
    rw [atan2, Complex.mk_eq_add_mul_I, this]
  simp only [DistanceMeters, hlong, sub_self, zero_div, Real.sin_zero, mul_zero, add_zero, hsq]
  rw [Real.sqrt_sq hsin, show 1 - Real.sin (x / 2) ^ 2 = Real.cos (x / 2) ^ 2 from (Real.cos_sq' (x / 2)).symm,
    Real.sqrt_sq hcos, harg]
  ring

/-- To the north. -/
theorem GetBearingDegrees_north {p q : WGS84Point ℝ} (hlong : p.Longitude = q.Longitude)
    (h0 : 0 ≤ ConvertDegreesToRadians q.Latitude - ConvertDegreesToRadians p.Latitude)
    (hpi : ConvertDegreesToRadians q.Latitude - ConvertDegreesToRadians p.Latitude ≤ Real.pi) :
    GetBearingDegrees p q = 0 := by
  have hsin := Real.sin_nonneg_of_nonneg_of_le_pi h0 hpi
  rw [Real.sin_sub, mul_comm (Real.sin _), mul_comm (Real.cos (ConvertDegreesToRadians q.Latitude))] at hsin
  have harg : atan2 0 (Real.cos (ConvertDegreesToRadians p.Latitude) * Real.sin (ConvertDegreesToRadians q.Latitude) -
      Real.sin (ConvertDegreesToRadians p.Latitude) * Real.cos (ConvertDegreesToRadians q.Latitude)) = 0 :=
    Complex.arg_ofReal_of_nonneg hsin
  simp only [GetBearingDegrees, hlong, sub_self, Real.sin_zero, zero_mul, Real.cos_zero, mul_one]
  rw [harg, ConvertRadiansToDegrees, zero_mul, if_neg (lt_irrefl 0)]

/-- The functions of the code, with real numbers. -/
noncomputable def geometry : Geometry ℝ where
  PI := Real.pi
  cos := Real.cos
  sqrt := Real.sqrt
  DistanceMeters := DistanceMeters
  GetBearingDegrees := GetBearingDegrees
  bearing_nonneg p q := (bearing_range p q).1
  bearing_lt p q := (bearing_range p q).2

end V2xHub.Conversions
