import Mathlib.Data.List.Basic
import Mathlib.Data.List.Infix
import Mathlib.Data.Nat.Find

/-!
# The first occurrence of a text

`find` goes through a text for the first place where another one stands.
-/

namespace Occurrence

variable {α : Type*} [DecidableEq α]

def find (s : List α) : List α → Option Nat
  | [] => if s = [] then some 0 else none
  | c :: text => if s <+: c :: text then some 0 else (find s text).map (· + 1)

/-- `s` stands at `i`, and at no place before it. -/
def FirstAt (s text : List α) (i : Nat) : Prop := s <+: text.drop i ∧ ∀ j < i, ¬ s <+: text.drop j

variable {s text : List α} {i : Nat}

omit [DecidableEq α] in
theorem not_prefix_drop_nil (hs : s ≠ []) (i : Nat) : ¬ s <+: ([] : List α).drop i := by
  rw [List.drop_nil, List.prefix_nil]
  exact hs

omit [DecidableEq α] in
theorem firstAt_cons_succ {c : α} : FirstAt s (c :: text) (i + 1) ↔ ¬ s <+: c :: text ∧ FirstAt s text i := by
  constructor
  · rintro ⟨hat, hbefore⟩
    exact ⟨hbefore 0 (Nat.succ_pos i), hat, fun j hj => hbefore (j + 1) (Nat.succ_lt_succ hj)⟩
  · rintro ⟨hhead, hat, hbefore⟩
    refine ⟨hat, fun j hj => ?_⟩
    cases j with
    | zero => exact hhead
    | succ j => exact hbefore j (Nat.lt_of_succ_lt_succ hj)

theorem find_eq_some_iff (hs : s ≠ []) : find s text = some i ↔ FirstAt s text i := by
  induction text generalizing i with
  | nil =>
    rw [find, if_neg hs]
    exact iff_of_false (fun h => Option.some_ne_none i h.symm) fun h => not_prefix_drop_nil hs i h.1
  | cons c text ih =>
    rw [find]
    split_ifs with hhead
    · cases i with
      | zero => exact iff_of_true rfl ⟨hhead, fun j hj => absurd hj (Nat.not_lt_zero j)⟩
      | succ i => exact iff_of_false (by simp) fun h => h.2 0 (Nat.succ_pos i) hhead
    · cases i with
      | zero => exact iff_of_false (by simp) fun h => hhead h.1
      | succ i => rw [firstAt_cons_succ, ← ih, and_iff_right hhead]; simp

theorem find_eq_none_iff (hs : s ≠ []) : find s text = none ↔ ∀ i, ¬ s <+: text.drop i := by
  constructor
  · intro hnone i hat
    -- the least place is the first one
    have hexists : ∃ i, s <+: text.drop i := ⟨i, hat⟩
    have hfirst : FirstAt s text (Nat.find hexists) := ⟨Nat.find_spec hexists, fun j hj => Nat.find_min hexists hj⟩
    rw [← find_eq_some_iff hs] at hfirst
    rw [hnone] at hfirst
    exact Option.some_ne_none _ hfirst.symm
  · intro hall
    cases hfind : find s text with
    | none => rfl
    | some i => exact absurd ((find_eq_some_iff hs).mp hfind).1 (hall i)

end Occurrence
