import Mathlib.Data.List.Nodup
import Mathlib.Logic.Function.Basic

/-!
# Heaps

Cells by their address, each live or not. To free or to read a cell that is not live is a fault, and a heap with a fault keeps it.
-/

structure Heap (α β : Type*) where
  cell : α → Option β
  fault : Bool

namespace Heap
variable {α β : Type*} {h : Heap α β} {a b : α} {x : β} {l : List α}

def empty : Heap α β := ⟨fun _ => none, false⟩

def Live (h : Heap α β) (a : α) : Prop := (h.cell a).isSome

instance (h : Heap α β) (a : α) : Decidable (h.Live a) := inferInstanceAs (Decidable (_ = true))

/-- The cell is read. -/
def touch (h : Heap α β) (a : α) : Heap α β := { h with fault := h.fault || (h.cell a).isNone }

theorem live_of_eq_some (hx : h.cell a = some x) : h.Live a := Option.isSome_iff_exists.2 ⟨x, hx⟩

theorem Live.touch (hlive : h.Live a) : h.touch a = h := by
  obtain ⟨x, hx⟩ := Option.isSome_iff_exists.1 hlive
  simp [Heap.touch, hx]

variable [DecidableEq α]

/-- A new cell, or a live one written. -/
def set (h : Heap α β) (a : α) (x : β) : Heap α β := { h with cell := Function.update h.cell a (some x) }

def free (h : Heap α β) (a : α) : Heap α β := ⟨Function.update h.cell a none, h.fault || (h.cell a).isNone⟩

def freeAll (h : Heap α β) (l : List α) : Heap α β := l.foldl free h

@[simp] theorem set_self : (h.set a x).cell a = some x := by
  simp only [set, Function.update_self]

theorem set_of_ne (hne : b ≠ a) : (h.set a x).cell b = h.cell b := by
  simp only [set, Function.update_of_ne hne]

@[simp] theorem free_self : (h.free a).cell a = none := by
  simp only [free, Function.update_self]

theorem free_of_ne (hne : b ≠ a) : (h.free a).cell b = h.cell b := by
  simp only [free, Function.update_of_ne hne]

theorem Live.free_fault (hlive : h.Live a) : (h.free a).fault = h.fault := by
  obtain ⟨x, hx⟩ := Option.isSome_iff_exists.1 hlive
  simp [free, hx]

/-- To free distinct live cells is no fault, and the others stay. -/
theorem freeAll_spec (hnodup : l.Nodup) (hlive : ∀ a ∈ l, h.Live a) :
    (h.freeAll l).fault = h.fault ∧ (∀ a ∈ l, (h.freeAll l).cell a = none) ∧ ∀ a, a ∉ l → (h.freeAll l).cell a = h.cell a := by
  induction l generalizing h with
  | nil => exact ⟨rfl, fun _ h => absurd h List.not_mem_nil, fun _ _ => rfl⟩
  | cons a l ih =>
    obtain ⟨ha, hl⟩ := List.nodup_cons.1 hnodup
    obtain ⟨hlivea, hlivel⟩ := List.forall_mem_cons.1 hlive
    have hlive' : ∀ b ∈ l, (h.free a).Live b := by
      intro b hb
      have hne : b ≠ a := fun heq => ha (heq ▸ hb)
      rw [Live, free_of_ne hne]
      exact hlivel b hb
    obtain ⟨hfault, hfreed, hkept⟩ := ih hl hlive'
    refine ⟨hfault.trans hlivea.free_fault, List.forall_mem_cons.2 ⟨?_, hfreed⟩, fun b hb => ?_⟩
    · rw [freeAll, List.foldl_cons]
      exact (hkept a ha).trans free_self
    · rw [List.mem_cons, not_or] at hb
      obtain ⟨hne, hbl⟩ := hb
      rw [freeAll, List.foldl_cons]
      exact (hkept b hbl).trans (free_of_ne hne)

end Heap
