import V2xHub.Lib.EvenOdd
import Mathlib.Data.Rat.Defs
import Mathlib.Algebra.Order.Ring.Rat
import Mathlib.Algebra.Field.Rat

/-!
# Points in polygons (`WGS84Polygon.cpp`)

`IsPointInsidePoly` with rational numbers in the place of the doubles. It goes over the edges, counts those that the ray to the
east crosses, and most of the time it finds that out from the ends of the edge alone. The count is that of the even-odd rule
(`edgeHit_iff`).
-/

namespace V2xHub.WGS84Polygon

structure WGS84Point where
  Latitude : ℚ
  Longitude : ℚ

section Hits

variable (x y : ℚ)

/-- The last test of an edge, `test1 < (test2 / (lasty - cury) * (lastx - curx))`. -/
def crossingTest (last cur : WGS84Point) (test1 test2 : ℚ) : Bool :=
  test1 < test2 / (last.Latitude - cur.Latitude) * (last.Longitude - cur.Longitude)

/-- What follows when the point is not on the right of both ends. -/
def latitudeTest (last cur : WGS84Point) (leftx : ℚ) : Bool :=
  if cur.Latitude < last.Latitude then
    if y < cur.Latitude ∨ y ≥ last.Latitude then false
    else if x < leftx then true
    else crossingTest last cur (x - cur.Longitude) (y - cur.Latitude)
  else
    if y < last.Latitude ∨ y ≥ cur.Latitude then false
    else if x < leftx then true
    else crossingTest last cur (x - last.Longitude) (y - last.Latitude)

/-- One round of the loop: whether it counts a hit. -/
def edgeHit (last cur : WGS84Point) : Bool :=
  if cur.Latitude = last.Latitude then false
  else if cur.Longitude < last.Longitude then
    if x ≥ last.Longitude then false else latitudeTest x y last cur cur.Longitude
  else
    if x ≥ cur.Longitude then false else latitudeTest x y last cur last.Longitude

/-- The walk over the vertices, with the one before. -/
def walk (hits : Nat) (last : WGS84Point) : List WGS84Point → Nat
  | [] => hits
  | cur :: polyPoints => walk (if edgeHit x y last cur then hits + 1 else hits) cur polyPoints

end Hits

def IsPointInsidePoly (pointToTest : WGS84Point) (polyPoints : List WGS84Point) : Bool :=
  if polyPoints.length ≤ 2 then false
  else
    match polyPoints.getLast? with
    | none => false
    | some last => walk pointToTest.Longitude pointToTest.Latitude 0 last polyPoints &&& 1 ≠ 0

def toPoint (p : WGS84Point) : EvenOdd.Point ℚ := ⟨p.Longitude, p.Latitude⟩

open EvenOdd

variable {p last cur : WGS84Point}

/-- Between its lower and its upper end an edge has its crossing between the two. -/
theorem crossing_bounds (x₀ x₁ : ℚ) {y₀ y₁ y : ℚ} (hlow : y₀ ≤ y) (hhigh : y < y₁) :
    min x₀ x₁ ≤ x₀ + (y - y₀) / (y₁ - y₀) * (x₁ - x₀) ∧ x₀ + (y - y₀) / (y₁ - y₀) * (x₁ - x₀) ≤ max x₀ x₁ := by
  have hpos : 0 < y₁ - y₀ := by linarith
  have hzero : 0 ≤ (y - y₀) / (y₁ - y₀) := div_nonneg (by linarith) hpos.le
  have hone : (y - y₀) / (y₁ - y₀) ≤ 1 := (div_le_one hpos).mpr (by linarith)
  rcases le_total x₀ x₁ with h | h
  · rw [min_eq_left h, max_eq_right h]
    constructor
    · nlinarith
    · nlinarith
  · rw [min_eq_right h, max_eq_left h]
    constructor
    · nlinarith
    · nlinarith

/-- The tests of an edge that goes up from `low` to `high`. -/
theorem tests_iff {low high : WGS84Point} {leftx : ℚ} {test : Bool} (hleft : leftx = min low.Longitude high.Longitude)
    (htest : test = true ↔ p.Longitude < low.Longitude +
      (p.Latitude - low.Latitude) / (high.Latitude - low.Latitude) * (high.Longitude - low.Longitude))
    (hup : low.Latitude < high.Latitude) :
    (if p.Latitude < low.Latitude ∨ p.Latitude ≥ high.Latitude then false else if p.Longitude < leftx then true else test) = true ↔
      Crosses (toPoint p) (toPoint low) (toPoint high) := by
  unfold Crosses toPoint
  dsimp only
  by_cases hy : p.Latitude < low.Latitude ∨ p.Latitude ≥ high.Latitude
  · rw [if_pos hy]
    refine iff_of_false Bool.false_ne_true ?_
    rintro ⟨⟨h1, h2⟩ | ⟨h1, h2⟩, -⟩
    · rcases hy with h | h
      · exact absurd h1 h.not_ge
      · exact absurd h2 h.not_gt
    · exact absurd (h1.trans_lt h2) hup.not_gt
  · rw [if_neg hy]
    obtain ⟨hlow, hhigh⟩ := not_or.mp hy
    obtain ⟨hmin, -⟩ := crossing_bounds low.Longitude high.Longitude (not_lt.mp hlow) (not_le.mp hhigh)
    rw [and_iff_right (Or.inl ⟨not_lt.mp hlow, not_le.mp hhigh⟩)]
    split_ifs with hx
    · exact iff_of_true rfl ((hleft ▸ hx).trans_le hmin)
    · exact htest

theorem latitudeTest_iff {leftx : ℚ} (hne : cur.Latitude ≠ last.Latitude) (hleft : leftx = min cur.Longitude last.Longitude) :
    latitudeTest p.Longitude p.Latitude last cur leftx = true ↔ Crosses (toPoint p) (toPoint last) (toPoint cur) := by
  unfold latitudeTest
  by_cases hup : cur.Latitude < last.Latitude
  · rw [if_pos hup, crosses_comm]
    refine tests_iff hleft ?_ hup
    rw [crossingTest, decide_eq_true_iff, sub_lt_iff_lt_add']
  · rw [if_neg hup]
    refine tests_iff (hleft.trans (min_comm _ _)) ?_ (lt_of_le_of_ne (not_lt.mp hup) hne.symm)
    have hflip : (p.Latitude - last.Latitude) / (last.Latitude - cur.Latitude) * (last.Longitude - cur.Longitude) =
        (p.Latitude - last.Latitude) / (cur.Latitude - last.Latitude) * (cur.Longitude - last.Longitude) := by
      rw [← neg_sub cur.Latitude, ← neg_sub cur.Longitude, div_neg, neg_mul_neg]
    rw [crossingTest, decide_eq_true_iff, sub_lt_iff_lt_add', hflip]

/-- A point on the right of both ends is on the right of the crossing. -/
theorem not_crosses_of_le (h : max last.Longitude cur.Longitude ≤ p.Longitude) :
    ¬ Crosses (toPoint p) (toPoint last) (toPoint cur) := by
  have hup : ∀ low high : WGS84Point, max low.Longitude high.Longitude ≤ p.Longitude →
      low.Latitude ≤ p.Latitude → p.Latitude < high.Latitude → ¬ Crosses (toPoint p) (toPoint low) (toPoint high) := by
    rintro low high hmax hlow hhigh ⟨-, hx⟩
    obtain ⟨-, hbound⟩ := crossing_bounds low.Longitude high.Longitude hlow hhigh
    exact absurd (hx.trans_le hbound) hmax.not_gt
  intro hcrosses
  rcases hcrosses.1 with ⟨hlow, hhigh⟩ | ⟨hlow, hhigh⟩
  · exact hup last cur h hlow hhigh hcrosses
  · exact hup cur last (max_comm last.Longitude _ ▸ h) hlow hhigh hcrosses.symm

theorem edgeHit_iff : edgeHit p.Longitude p.Latitude last cur = true ↔ Crosses (toPoint p) (toPoint last) (toPoint cur) := by
  unfold edgeHit
  split_ifs with hlevel hleft hright hright
  · refine iff_of_false id ?_
    rintro ⟨⟨h1, h2⟩ | ⟨h1, h2⟩, -⟩
    · exact absurd (h1.trans_lt h2) hlevel.le.not_gt
    · exact absurd (h1.trans_lt h2) hlevel.ge.not_gt
  · refine iff_of_false id (not_crosses_of_le ?_)
    rw [max_eq_left hleft.le]
    exact hright
  · exact latitudeTest_iff hlevel (min_eq_left hleft.le).symm
  · refine iff_of_false id (not_crosses_of_le ?_)
    rw [max_eq_right (not_lt.mp hleft)]
    exact hright
  · exact latitudeTest_iff hlevel (min_eq_right (not_lt.mp hleft)).symm

/-- The walk counts the edges that the ray crosses. -/
theorem walk_eq (hits : Nat) (last : WGS84Point) (polyPoints : List WGS84Point) :
    walk p.Longitude p.Latitude hits last polyPoints =
      hits + ((path (toPoint last) (polyPoints.map toPoint)).countP fun e => Crosses (toPoint p) e.1 e.2) := by
  induction polyPoints generalizing hits last with
  | nil => rfl
  | cons cur polyPoints ih =>
    rw [walk, ih, List.map_cons, path, List.countP_cons]
    have hiff : edgeHit p.Longitude p.Latitude last cur = true ↔ Crosses (toPoint p) (toPoint last) (toPoint cur) := edgeHit_iff
    by_cases hcrosses : Crosses (toPoint p) (toPoint last) (toPoint cur)
    · rw [if_pos (hiff.mpr hcrosses), if_pos (decide_eq_true hcrosses)]
      omega
    · rw [if_neg fun h => hcrosses (hiff.mp h), if_neg fun h => hcrosses (of_decide_eq_true h)]
      omega

/-- With two vertices an edge is counted in both directions. -/
theorem not_inside_of_length_le {polyPoints : List WGS84Point} (h : polyPoints.length ≤ 2) :
    ¬ Inside (toPoint p) (polyPoints.map toPoint) := by
  have hself (a : EvenOdd.Point ℚ) : ¬ Crosses (toPoint p) a a := by
    rintro ⟨⟨h1, h2⟩ | ⟨h1, h2⟩, -⟩
    · exact absurd (h1.trans_lt h2) (lt_irrefl _)
    · exact absurd (h1.trans_lt h2) (lt_irrefl _)
  match polyPoints, h with
  | [], _ => exact Nat.not_odd_zero
  | [a], _ =>
    show ¬ Odd (([(toPoint a, toPoint a)] : List _).countP fun e => decide (Crosses (toPoint p) e.1 e.2))
    rw [List.countP_singleton, if_neg fun h => hself _ (of_decide_eq_true h)]
    exact Nat.not_odd_zero
  | [a, b], _ =>
    show ¬ Odd (([(toPoint b, toPoint a), (toPoint a, toPoint b)] : List _).countP fun e => decide (Crosses (toPoint p) e.1 e.2))
    rw [List.countP_cons, List.countP_singleton]
    simp only [crosses_comm (toPoint p) (toPoint a) (toPoint b), Nat.odd_iff]
    split_ifs
    · decide
    · decide

theorem isPointInsidePoly_iff (polyPoints : List WGS84Point) :
    IsPointInsidePoly p polyPoints = true ↔ Inside (toPoint p) (polyPoints.map toPoint) := by
  unfold IsPointInsidePoly
  split_ifs with hlength
  · exact iff_of_false id (not_inside_of_length_le hlength)
  · obtain ⟨l, last, rfl⟩ : ∃ l last, polyPoints = l ++ [last] := by
      refine ⟨polyPoints.dropLast, polyPoints.getLast fun h => hlength (h ▸ Nat.zero_le _), (List.dropLast_append_getLast _).symm⟩
    have hedges : edges ((l ++ [last]).map toPoint) = path (toPoint last) ((l ++ [last]).map toPoint) := by
      rw [edges, List.map_append, List.map_singleton, List.getLast?_concat]
    rw [List.getLast?_concat, Inside, hedges, Nat.odd_iff]
    dsimp only
    rw [walk_eq, Nat.zero_add, Nat.and_one_is_mod, decide_eq_true_iff]
    omega

/-- The test is the even-odd rule with a ray to the east; it is the same for another first vertex and for the other direction,
and of a polygon that is cut along a chord a point is in exactly one part if it is in the polygon, and in both or none
otherwise. -/
theorem isPointInsidePoly_evenOdd (pointToTest : WGS84Point) (polyPoints : List WGS84Point) :
    (IsPointInsidePoly pointToTest polyPoints = true ↔ Inside (toPoint pointToTest) (polyPoints.map toPoint)) ∧
      (∀ n, IsPointInsidePoly pointToTest (polyPoints.rotate n) = IsPointInsidePoly pointToTest polyPoints) ∧
      IsPointInsidePoly pointToTest polyPoints.reverse = IsPointInsidePoly pointToTest polyPoints ∧
      ∀ l m r : List WGS84Point, ∀ a b : WGS84Point,
        IsPointInsidePoly pointToTest (l ++ a :: (m ++ b :: r)) =
          (IsPointInsidePoly pointToTest (a :: (m ++ [b])) ^^ IsPointInsidePoly pointToTest (l ++ a :: b :: r)) := by
  refine ⟨isPointInsidePoly_iff polyPoints, fun n => ?_, ?_, fun l m r a b => ?_⟩
  · rw [Bool.eq_iff_iff, isPointInsidePoly_iff, isPointInsidePoly_iff, List.rotate_eq_drop_append_take_mod, List.map_append,
      inside_rotate, ← List.map_append, List.take_append_drop]
  · rw [Bool.eq_iff_iff, isPointInsidePoly_iff, isPointInsidePoly_iff, List.map_reverse, inside_reverse]
  · have hwhole := isPointInsidePoly_iff (p := pointToTest) (l ++ a :: (m ++ b :: r))
    have hfirst := isPointInsidePoly_iff (p := pointToTest) (a :: (m ++ [b]))
    have hsecond := isPointInsidePoly_iff (p := pointToTest) (l ++ a :: b :: r)
    simp only [List.map_append, List.map_cons, List.map_nil] at hwhole hfirst hsecond
    rw [Bool.eq_iff_iff, hwhole, inside_chord, ← hfirst, ← hsecond]
    cases IsPointInsidePoly pointToTest (a :: (m ++ [b])) <;> cases IsPointInsidePoly pointToTest (l ++ a :: b :: r) <;> decide

end V2xHub.WGS84Polygon
