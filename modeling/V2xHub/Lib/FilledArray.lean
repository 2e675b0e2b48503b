import Mathlib.Data.List.FinRange
import Mathlib.Logic.Function.Basic

/-!
# Arrays that are filled from their start

An array of a fixed size has the entries that are used first, and behind them only empty ones (`FilledFrom`). Up to `k` it is known
(`upTo`); the first entry that is not used is then the next one (`find?_upTo`), and with it the array is known up to `k + 1`
(`update_upTo`).
-/

namespace FilledArray

variable {α : Type} {n : Nat} {used : α → Prop} {empty : α} {a : Fin n → α} {i j : Fin n}

/-- The entries that are used come first, and the others are empty. -/
def FilledFrom (used : α → Prop) (empty : α) (a : Fin n → α) : Prop := ∀ i, a i = empty ∨ ∀ j ≤ i, used (a j)

theorem FilledFrom.eq_empty (h : FilledFrom used empty a) (hi : ¬ used (a i)) : a i = empty :=
  (h i).resolve_right fun hall => hi (hall i le_rfl)

theorem FilledFrom.of_le (h : FilledFrom used empty a) (hempty : ¬ used empty) (hi : used (a i)) (hij : j ≤ i) : used (a j) := by
  rcases h i with hnot | hall
  · exact absurd (hnot ▸ hi) hempty
  · exact hall j hij

/-- Those for which `p` holds, which come first, and the others. -/
theorem exists_finRange_eq_append (p : Fin n → Bool) (hp : ∀ i j, j ≤ i → p i = true → p j = true) :
    ∃ others, List.finRange n = (List.finRange n).filter p ++ others := by
  suffices h : ∀ l : List (Fin n), l.Pairwise (· ≤ ·) → ∃ others, l = l.filter p ++ others from
    h _ (List.pairwise_le_finRange n)
  intro l
  induction l with
  | nil => exact fun _ => ⟨[], rfl⟩
  | cons i l ih =>
    intro hl
    obtain ⟨hi, hl⟩ := List.pairwise_cons.mp hl
    cases hpi : p i with
    | true =>
      obtain ⟨others, h⟩ := ih hl
      refine ⟨others, ?_⟩
      rw [List.filter_cons_of_pos hpi, List.cons_append, ← h]
    | false =>
      refine ⟨i :: l, ?_⟩
      have hnone : l.filter p = [] := List.filter_eq_nil_iff.mpr fun j hj hpj => by
        rw [hp j i (hi j hj) hpj] at hpi
        exact absurd hpi (by decide)
      rw [List.filter_cons_of_neg (by rw [hpi]; decide), hnone, List.nil_append]

/-- The first `k` entries. -/
def upTo (empty : α) (a : Fin n → α) (k : Nat) : Fin n → α := fun i => if i < k then a i else empty

@[simp] theorem upTo_zero : upTo empty a 0 = fun _ => empty := rfl

@[simp] theorem upTo_all : upTo empty a n = a := funext fun i => if_pos i.isLt

theorem upTo_of_lt {k : Nat} (h : i < k) : upTo empty a k i = a i := if_pos h

theorem upTo_of_le {k : Nat} (h : k ≤ i) : upTo empty a k i = empty := if_neg h.not_gt

theorem update_upTo (i : Fin n) : Function.update (upTo empty a i) i (a i) = upTo empty a (i + 1) := by
  funext j
  by_cases h : j = i
  · rw [h, Function.update_self, upTo_of_lt (Nat.lt_succ_self _)]
  · rw [Function.update_of_ne h]
    have hne : (j : Nat) ≠ i := fun hval => h (Fin.ext hval)
    unfold upTo
    congr 1
    exact propext ⟨fun hlt => by omega, fun hlt => by omega⟩

theorem upTo_succ_of_empty (h : a i = empty) : upTo empty a (i + 1) = upTo empty a i := by
  rw [← update_upTo, h]
  exact Function.update_eq_self_iff.mpr (upTo_of_le le_rfl).symm

theorem filledFrom_upTo {k : Nat} (h : ∀ i : Fin n, i < k → used (a i)) : FilledFrom used empty (upTo empty a k) := by
  intro i
  rcases lt_or_ge (i : Nat) k with hlt | hge
  · refine Or.inr fun j hj => ?_
    have hjk : (j : Nat) < k := (Fin.le_def.mp hj).trans_lt hlt
    rw [upTo_of_lt hjk]
    exact h j hjk
  · exact Or.inl (upTo_of_le hge)

theorem find?_finRange {p : Fin n → Bool} (hi : p i = true) (hlt : ∀ j < i, p j = false) : (List.finRange n).find? p = some i := by
  rw [List.find?_eq_some_iff_getElem]
  refine ⟨hi, i, by rw [List.length_finRange]; exact i.isLt, List.getElem_finRange .., fun j hj => ?_⟩
  rw [List.getElem_finRange]
  exact (Bool.not_eq_true' _).mpr (hlt _ hj)

/-- The first entry that is not used. -/
theorem find?_upTo [DecidablePred used] (h : FilledFrom used empty a) (hempty : ¬ used empty) (hi : used (a i)) :
    (List.finRange n).find? (fun j => ¬ used (upTo empty a i j)) = some i := by
  refine find?_finRange ?_ fun j hj => ?_
  · rw [upTo_of_le le_rfl]
    exact decide_eq_true hempty
  · rw [upTo_of_lt hj]
    exact decide_eq_false (not_not.mpr (h.of_le hempty hi hj.le))

end FilledArray
