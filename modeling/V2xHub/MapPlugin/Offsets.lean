import V2xHub.MapPlugin.Convert

/-!
# The alternatives of a node offset

J2735 has six alternatives for the offset of a node, with more and more bits for each of its two coordinates. The code
takes the first one that holds the coordinate with the greater magnitude, and of two with the same magnitude the
second. A range holds one number more below zero than above it, so this goes wrong where the two are opposite and the
second is the least number of a range (`nodeOffset_iff`).
-/

namespace V2xHub.MapPlugin

/-- The alternatives hold the numbers from `-bound` up to, but not including, `bound`. -/
def bounds : List Int := [512, 1024, 2048, 4096, 8192, 32768]

def NodeOffsetPoint.bound : NodeOffsetPoint → Int
  | .nothing => 0
  | .node_XY1 _ _ => 512
  | .node_XY2 _ _ => 1024
  | .node_XY3 _ _ => 2048
  | .node_XY4 _ _ => 4096
  | .node_XY5 _ _ => 8192
  | .node_XY6 _ _ => 32768

def InRange (bound v : Int) : Prop := -bound ≤ v ∧ v < bound

/-- The alternative has both coordinates, in its range, and no smaller one has. -/
structure Smallest (x y : Int) (point : NodeOffsetPoint) : Prop where
  xy : point.xy = some (x, y)
  first : InRange point.bound x
  second : InRange point.bound y
  smaller : ∀ bound ∈ bounds, bound < point.bound → ¬ (InRange bound x ∧ InRange bound y)

def largestOffset (modX modY : Int) : Int := if modX.natAbs > modY.natAbs then modX else modY

/-- A least number of a range, and its opposite before it. -/
def Opposite (x y : Int) : Prop := x = -y ∧ x ∈ bounds

variable {bound x y : Int}

/-- The range holds the coordinate that the code looks at where it holds both, or where they are opposite and the second is
its least number. -/
theorem inRange_largestOffset (hbound : 0 < bound) :
    InRange bound (largestOffset x y) ↔ InRange bound x ∧ InRange bound y ∨ x = bound ∧ y = -bound := by
  unfold largestOffset InRange
  split_ifs with hgreater
  · omega
  · omega

/-- The alternative is the first whose range holds that coordinate. -/
theorem bound_nodeOffset (hx : InRange 32768 x) (hy : InRange 32768 y) :
    (nodeOffset x y).xy = some (x, y) ∧ (nodeOffset x y).bound ∈ bounds ∧
      InRange (nodeOffset x y).bound (largestOffset x y) ∧
      ∀ bound ∈ bounds, bound < (nodeOffset x y).bound → ¬ InRange bound (largestOffset x y) := by
  have hlargest : InRange 32768 (largestOffset x y) := (inRange_largestOffset (by decide)).2 (Or.inl ⟨hx, hy⟩)
  have hoffset : nodeOffset x y =
      if -512 ≤ largestOffset x y ∧ largestOffset x y ≤ 511 then .node_XY1 x y
      else if -1024 ≤ largestOffset x y ∧ largestOffset x y ≤ 1023 then .node_XY2 x y
      else if -2048 ≤ largestOffset x y ∧ largestOffset x y ≤ 2047 then .node_XY3 x y
      else if -4096 ≤ largestOffset x y ∧ largestOffset x y ≤ 4095 then .node_XY4 x y
      else if -8192 ≤ largestOffset x y ∧ largestOffset x y ≤ 8191 then .node_XY5 x y
      else if -32768 ≤ largestOffset x y ∧ largestOffset x y ≤ 32767 then .node_XY6 x y
      else .nothing := rfl
  rw [hoffset]
  generalize largestOffset x y = largest at hlargest ⊢
  unfold InRange at hlargest
  split_ifs
  all_goals simp only [NodeOffsetPoint.xy, NodeOffsetPoint.bound, bounds, InRange, List.forall_mem_cons, List.not_mem_nil,
    IsEmpty.forall_iff, implies_true, and_true, true_and]
  all_goals first
    | exact ⟨by decide, by omega⟩
    | omega

theorem smallest_nodeOffset_iff (hx : InRange 32768 x) (hy : InRange 32768 y) :
    Smallest x y (nodeOffset x y) ↔ ¬ Opposite x y := by
  obtain ⟨hxy, hmem, hin, hsmaller⟩ := bound_nodeOffset hx hy
  have hpos : ∀ b ∈ bounds, 0 < b := by decide
  constructor
  · rintro h ⟨hopposite, hbound⟩
    have hlargest : InRange x (largestOffset x y) := (inRange_largestOffset (hpos x hbound)).2 (Or.inr ⟨rfl, by omega⟩)
    have hle : (nodeOffset x y).bound ≤ x := Int.not_lt.1 fun hlt => hsmaller x hbound hlt hlargest
    have hlt := h.first.2
    omega
  · intro hopposite
    have hboth : ∀ b ∈ bounds, InRange b (largestOffset x y) → InRange b x ∧ InRange b y := fun b hb h =>
      ((inRange_largestOffset (hpos b hb)).1 h).resolve_right fun heq => hopposite ⟨by omega, heq.1 ▸ hb⟩
    obtain ⟨hxin, hyin⟩ := hboth _ hmem hin
    exact ⟨hxy, hxin, hyin, fun b hb hlt h => hsmaller b hb hlt ((inRange_largestOffset (hpos b hb)).2 (Or.inl h))⟩

/-- The alternative is the right one except where the first coordinate is one over the greatest number of a range and the second
is its opposite. -/
theorem nodeOffset_iff (eastern northern : Int16) :
    Smallest eastern.toInt northern.toInt (nodeOffset eastern.toInt northern.toInt) ↔
      ¬ (eastern.toInt = -northern.toInt ∧ eastern.toInt ∈ [512, 1024, 2048, 4096, 8192]) := by
  have heastern : InRange 32768 eastern.toInt := ⟨eastern.le_toInt, eastern.toInt_lt⟩
  have hnorthern : InRange 32768 northern.toInt := ⟨northern.le_toInt, northern.toInt_lt⟩
  rw [smallest_nodeOffset_iff heastern hnorthern, Opposite]
  have hmem : eastern.toInt ∈ bounds ↔ eastern.toInt ∈ [512, 1024, 2048, 4096, 8192] := by
    have hlt := eastern.toInt_lt
    simp only [bounds, List.mem_cons, List.not_mem_nil, or_false]
    omega
  rw [hmem]

/-- 512 is not in the range of the alternative that is selected for -512. -/
theorem nodeOffset_fails : nodeOffset (512 : Int16).toInt (-512 : Int16).toInt = .node_XY1 512 (-512) ∧
    ¬ Smallest (512 : Int16).toInt (-512 : Int16).toInt (nodeOffset (512 : Int16).toInt (-512 : Int16).toInt) := by
  refine ⟨by decide, fun h => ?_⟩
  exact absurd h.first.2 (by decide)

end V2xHub.MapPlugin
