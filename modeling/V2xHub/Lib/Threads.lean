import Mathlib.Data.Finset.Card

/-!
# Locks and counters of threads

The control states of a family of threads are a function `pc`. `Owned` says that a lock is held by the
one thread whose control state is in a critical section, `Counted` that a counter is the number of
threads whose control state is in a region. A step changes the control state of one thread; the lemmas
say what becomes of the two then.
-/

namespace Threads
variable {τ π : Type*} {pc : τ → π} {p : π → Bool} {t u : τ} {x : π} {lock : Option τ} {n : Int}

/-- The holder of the lock is the thread inside the critical section `p`. -/
def Owned (lock : Option τ) (p : π → Bool) (pc : τ → π) : Prop := ∀ t, lock = some t ↔ p (pc t) = true

/-- `n` threads are inside the region `p`. -/
def Counted (n : Int) (p : π → Bool) (pc : τ → π) : Prop :=
  ∃ inside : Finset τ, (∀ t, t ∈ inside ↔ p (pc t) = true) ∧ n = inside.card

theorem Owned.unique (h : Owned lock p pc) (ht : p (pc t) = true) (hu : p (pc u) = true) : t = u :=
  Option.some.inj (((h t).2 ht).symm.trans ((h u).2 hu))

theorem Owned.none (h : ∀ t, p (pc t) = false) : Owned Option.none p pc := fun t => by simp [h t]

theorem Counted.zero (h : ∀ t, p (pc t) = false) : Counted 0 p pc := ⟨∅, fun t => by simp [h t], rfl⟩

/-- A counter that is not positive counts nobody. -/
theorem Counted.eq_false (h : Counted n p pc) (hn : ¬ 0 < n) (t : τ) : p (pc t) = false := by
  obtain ⟨inside, hmem, hcard⟩ := h
  have hempty : inside = ∅ := Finset.card_eq_zero.1 (by omega)
  rw [← Bool.not_eq_true, ← hmem, hempty]
  exact Finset.notMem_empty t

theorem Counted.nonneg (h : Counted n p pc) : 0 ≤ n := by
  obtain ⟨inside, -, rfl⟩ := h
  exact Int.natCast_nonneg _

section Update
variable [DecidableEq τ]

theorem forall_update {P : π → Prop} (h : ∀ u, P (pc u)) (hx : P x) (u : τ) : P (Function.update pc t x u) := by
  rcases eq_or_ne u t with rfl | hu
  · rwa [Function.update_self]
  · rw [Function.update_of_ne hu]
    exact h u

theorem Owned.stay (h : Owned lock p pc) (hx : p x = p (pc t)) : Owned lock p (Function.update pc t x) := by
  intro u
  rw [h u]
  rcases eq_or_ne u t with rfl | hu
  · rw [Function.update_self, hx]
  · rw [Function.update_of_ne hu]

theorem Owned.acquire (h : Owned Option.none p pc) (hx : p x = true) :
    Owned (some t) p (Function.update pc t x) := by
  intro u
  rcases eq_or_ne u t with rfl | hu
  · simp [hx]
  · rw [Function.update_of_ne hu, ← h u]
    simp [hu.symm]

theorem Owned.release (h : Owned lock p pc) (ht : p (pc t) = true) (hx : p x = false) :
    Owned Option.none p (Function.update pc t x) := by
  intro u
  rcases eq_or_ne u t with rfl | hu
  · simp [hx]
  · rw [Function.update_of_ne hu]
    simpa using fun hpu => hu (h.unique hpu ht)

theorem Counted.stay (h : Counted n p pc) (hx : p x = p (pc t)) : Counted n p (Function.update pc t x) := by
  obtain ⟨inside, hmem, hcard⟩ := h
  refine ⟨inside, fun u => ?_, hcard⟩
  rw [hmem]
  rcases eq_or_ne u t with rfl | hu
  · rw [Function.update_self, hx]
  · rw [Function.update_of_ne hu]

theorem Counted.enter (h : Counted n p pc) (ht : p (pc t) = false) (hx : p x = true) :
    Counted (n + 1) p (Function.update pc t x) := by
  obtain ⟨inside, hmem, rfl⟩ := h
  have hnot : t ∉ inside := by rw [hmem, ht]; exact Bool.false_ne_true
  refine ⟨insert t inside, fun u => ?_, by rw [Finset.card_insert_of_notMem hnot]; push_cast; rfl⟩
  rw [Finset.mem_insert, hmem]
  rcases eq_or_ne u t with rfl | hu
  · simp [hx]
  · simp [hu]

theorem Counted.leave (h : Counted n p pc) (ht : p (pc t) = true) (hx : p x = false) :
    Counted (n - 1) p (Function.update pc t x) := by
  obtain ⟨inside, hmem, rfl⟩ := h
  have hin : t ∈ inside := (hmem t).2 ht
  refine ⟨inside.erase t, fun u => ?_, ?_⟩
  · rw [Finset.mem_erase, hmem]
    rcases eq_or_ne u t with rfl | hu
    · simp [hx]
    · simp [hu]
  · have hpos : 0 < inside.card := Finset.card_pos.2 ⟨t, hin⟩
    rw [Finset.card_erase_of_mem hin]
    omega

end Update

end Threads
