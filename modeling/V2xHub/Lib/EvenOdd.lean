import Mathlib.Algebra.Order.Field.Basic
import Mathlib.Data.List.Rotate
import Mathlib.Data.Nat.Count
import Mathlib.Tactic.Ring
import Mathlib.Tactic.FieldSimp
import Mathlib.Tactic.Linarith

/-!
# The even-odd rule

A polygon is the list of its vertices, with an edge from each one to the next and from the last to the first (`edges`). A
horizontal ray to the right crosses an edge that has one end at its height or below and the other one above it, if it starts on
the left of the crossing (`Crosses`): an edge has its lower end and not its upper one, so that a vertex on the ray is counted
for one edge of two that go on in the same direction. A point is inside if its ray crosses an odd number of edges.

The number of crossings is a sum over the edges, and no matter in which direction an edge is taken. So it stays for another first
vertex or the other direction (`inside_rotate`, `inside_reverse`), and a chord is counted twice in the two parts (`inside_chord`).
-/

namespace EvenOdd

/-! ### Edges -/

section Edges

variable {α : Type*} {a b : α} {l m : List α} {q : α × α → Prop} [DecidablePred q]

/-- The edges of a path that starts with `a`. -/
def path : α → List α → List (α × α)
  | _, [] => []
  | a, b :: l => (a, b) :: path b l

theorem path_append (a b : α) (l m : List α) : path a (l ++ b :: m) = path a (l ++ [b]) ++ path b m := by
  induction l generalizing a with
  | nil => rfl
  | cons c l ih => exact congrArg ((a, c) :: ·) (ih c)

def edges (l : List α) : List (α × α) :=
  match l.getLast? with
  | none => []
  | some last => path last l

/-- The edges as those of a path that comes back. -/
theorem edges_perm (a : α) (l : List α) : (edges (a :: l)).Perm (path a (l ++ [a])) := by
  rcases List.eq_nil_or_concat l with rfl | ⟨m, b, rfl⟩
  · exact List.Perm.refl _
  · have hlast : (a :: (m ++ [b])).getLast? = some b := by
      rw [← List.cons_append, List.getLast?_concat]
    have hedges : edges (a :: (m ++ [b])) = (b, a) :: path a (m ++ [b]) := by
      rw [edges, hlast]
      rfl
    have hpath : path a (m ++ [b] ++ [a]) = path a (m ++ [b]) ++ [(b, a)] := by
      rw [List.append_assoc]
      exact path_append a b m [a]
    rw [List.concat_eq_append, hedges, hpath]
    exact (List.perm_append_singleton _ _).symm

theorem edges_rotate (l m : List α) : (edges (l ++ m)).Perm (edges (m ++ l)) := by
  cases l with
  | nil => rw [List.nil_append, List.append_nil]
  | cons a l =>
    cases m with
    | nil => rw [List.nil_append, List.append_nil]
    | cons b m =>
      have hleft : path a (l ++ b :: m ++ [a]) = path a (l ++ [b]) ++ path b (m ++ [a]) := by
        rw [List.append_assoc]
        exact path_append a b l (m ++ [a])
      have hright : path b (m ++ a :: l ++ [b]) = path b (m ++ [a]) ++ path a (l ++ [b]) := by
        rw [List.append_assoc]
        exact path_append b a m (l ++ [b])
      refine (edges_perm a (l ++ b :: m)).trans ?_
      refine List.Perm.trans ?_ (edges_perm b (m ++ a :: l)).symm
      rw [hleft, hright]
      exact List.perm_append_comm

/-- The path back. -/
theorem path_reverse (a b : α) (l : List α) : path b (l.reverse ++ [a]) = ((path a (l ++ [b])).map Prod.swap).reverse := by
  induction l generalizing a with
  | nil => rfl
  | cons c l ih =>
    rw [List.reverse_cons, List.append_assoc, List.singleton_append, path_append, ih c]
    show _ = (((c, a) :: (path c (l ++ [b])).map Prod.swap)).reverse
    rw [List.reverse_cons]
    rfl

theorem edges_reverse (l : List α) : (edges l.reverse).Perm ((edges l).map Prod.swap) := by
  cases l with
  | nil => exact List.Perm.refl _
  | cons a l =>
    have hfirst : (edges (a :: l).reverse).Perm (edges (a :: l.reverse)) := by
      rw [List.reverse_cons]
      exact edges_rotate l.reverse [a]
    refine (hfirst.trans (edges_perm a l.reverse)).trans ?_
    rw [path_reverse]
    exact (List.reverse_perm _).trans ((edges_perm a l).symm.map _)

/-- The edges of both parts are those of the whole, and the chord in both directions. -/
theorem edges_chord (l m r : List α) (a b : α) :
    (edges (a :: (m ++ [b])) ++ edges (l ++ a :: b :: r)).Perm ((b, a) :: (a, b) :: edges (l ++ a :: (m ++ b :: r))) := by
  have hfirst : (edges (a :: (m ++ [b]))).Perm (path a (m ++ [b]) ++ [(b, a)]) := by
    refine (edges_perm a (m ++ [b])).trans ?_
    rw [List.append_assoc, List.singleton_append, path_append]
    exact List.Perm.refl _
  have hsecond : (edges (l ++ a :: b :: r)).Perm ((a, b) :: path b (r ++ l ++ [a])) := by
    refine (edges_rotate l (a :: b :: r)).trans ?_
    exact edges_perm a (b :: r ++ l)
  have hwhole : (edges (l ++ a :: (m ++ b :: r))).Perm (path a (m ++ [b]) ++ path b (r ++ l ++ [a])) := by
    refine (edges_rotate l (a :: (m ++ b :: r))).trans ((edges_perm a (m ++ b :: r ++ l)).trans ?_)
    have hlist : m ++ b :: r ++ l ++ [a] = m ++ b :: (r ++ l ++ [a]) := by simp
    rw [hlist, path_append]
  refine (hfirst.append hsecond).trans ?_
  refine List.Perm.trans ?_ ((hwhole.symm.cons _).cons _)
  rw [List.append_assoc, List.singleton_append]
  refine List.perm_middle.trans (List.Perm.cons _ ?_)
  exact List.perm_middle

theorem countP_swap (hq : ∀ a b, q (b, a) ↔ q (a, b)) (l : List (α × α)) :
    (l.map Prod.swap).countP (q ·) = l.countP (q ·) := by
  rw [List.countP_map]
  refine List.countP_congr fun e _ => ?_
  rw [Function.comp_apply, decide_eq_true_iff, decide_eq_true_iff]
  exact hq e.1 e.2

end Edges

/-! ### Crossings -/

variable {K : Type*} [Field K] [LinearOrder K]

structure Point (K : Type*) where
  x : K
  y : K

/-- The ray to the right of `p` crosses the edge from `a` to `b`. -/
def Crosses (p a b : Point K) : Prop :=
  (a.y ≤ p.y ∧ p.y < b.y ∨ b.y ≤ p.y ∧ p.y < a.y) ∧ p.x < a.x + (p.y - a.y) / (b.y - a.y) * (b.x - a.x)

instance (p a b : Point K) : Decidable (Crosses p a b) := instDecidableAnd

def Inside (p : Point K) (polygon : List (Point K)) : Prop := Odd ((edges polygon).countP fun e => Crosses p e.1 e.2)

theorem Crosses.symm [IsStrictOrderedRing K] {p a b : Point K} (h : Crosses p a b) : Crosses p b a := by
  obtain ⟨hy, hx⟩ := h
  have hne : b.y - a.y ≠ 0 := by
    rcases hy with ⟨h1, h2⟩ | ⟨h1, h2⟩
    · exact sub_ne_zero.mpr (h1.trans_lt h2).ne'
    · exact sub_ne_zero.mpr (h1.trans_lt h2).ne
  have hne' : a.y - b.y ≠ 0 := sub_ne_zero.mpr (sub_ne_zero.mp hne).symm
  have hcrossing : b.x + (p.y - b.y) / (a.y - b.y) * (a.x - b.x) = a.x + (p.y - a.y) / (b.y - a.y) * (b.x - a.x) := by
    have hfraction : (p.y - b.y) / (a.y - b.y) = 1 - (p.y - a.y) / (b.y - a.y) := by
      rw [eq_sub_iff_add_eq, div_add_div _ _ hne' hne, div_eq_one_iff_eq (mul_ne_zero hne' hne)]
      ring
    rw [hfraction]
    ring
  exact ⟨hy.symm, hcrossing ▸ hx⟩

theorem crosses_comm [IsStrictOrderedRing K] (p a b : Point K) : Crosses p b a ↔ Crosses p a b := ⟨Crosses.symm, Crosses.symm⟩

theorem inside_rotate (p : Point K) (l m : List (Point K)) : Inside p (l ++ m) ↔ Inside p (m ++ l) := by
  rw [Inside, Inside, (edges_rotate l m).countP_eq]

theorem inside_reverse [IsStrictOrderedRing K] (p : Point K) (polygon : List (Point K)) :
    Inside p polygon.reverse ↔ Inside p polygon := by
  rw [Inside, Inside, (edges_reverse polygon).countP_eq]
  have hswap := countP_swap (q := fun e : Point K × Point K => Crosses p e.1 e.2) (crosses_comm p) (edges polygon)
  rw [hswap]

/-- A point is inside of a polygon that is cut along a chord if it is inside of exactly one of the parts. -/
theorem inside_chord [IsStrictOrderedRing K] (p : Point K) (l m r : List (Point K)) (a b : Point K) :
    Inside p (l ++ a :: (m ++ b :: r)) ↔ ¬ (Inside p (a :: (m ++ [b])) ↔ Inside p (l ++ a :: b :: r)) := by
  have hcount := (edges_chord l m r a b).countP_eq fun e => decide (Crosses p e.1 e.2)
  rw [List.countP_append, List.countP_cons, List.countP_cons] at hcount
  have hboth : decide (Crosses p b a) = decide (Crosses p a b) := decide_eq_decide.mpr (crosses_comm p a b)
  simp only [hboth] at hcount
  unfold Inside
  rw [Nat.odd_iff, Nat.odd_iff, Nat.odd_iff]
  split_ifs at hcount
  · omega
  · omega

end EvenOdd
