import Mathlib.Data.List.Basic
import Mathlib.Logic.Function.Basic

/-!
# Records linked by key

`look` finds the record a key names and `next` reads the key of the following record. `Linked.Path look next a l b`
says that the links lead from the key `a` through the records `l` to the key `b`; a whole chain is a path to a key
that names no record, and a cycle has paths of every length.

Where the records are linked both ways, `Linked.Row next prev p l n` says that the records `l` follow each other between `p`
and `n`; the links at its ends can be led elsewhere.
-/

namespace Linked
variable {κ ρ : Type*}

/-- From the key `a` through the records `l` to the key `b`. -/
inductive Path (look : κ → Option ρ) (next : ρ → κ) : κ → List ρ → κ → Prop
  | nil (a : κ) : Path look next a [] a
  | cons {a b : κ} {r : ρ} {l : List ρ} : look a = some r → Path look next (next r) l b → Path look next a (r :: l) b

namespace Path
variable {look look' : κ → Option ρ} {next : ρ → κ} {a b c : κ} {r : ρ} {l m : List ρ}

theorem append (h : Path look next a l b) (h' : Path look next b m c) : Path look next a (l ++ m) c := by
  induction h with
  | nil a => exact h'
  | cons hlook _ ih => exact .cons hlook (ih h')

theorem concat (h : Path look next a l b) (hlook : look b = some r) : Path look next a (l ++ [r]) (next r) :=
  h.append (.cons hlook (.nil _))

/-- A path through the record that a key names passes the key. -/
theorem reaches (h : Path look next a l b) (hr : r ∈ l) : ∃ m k, look k = some r ∧ Path look next a m k := by
  induction h with
  | nil a => cases hr
  | @cons a b r' l hlook h ih =>
    rcases List.mem_cons.1 hr with rfl | hr
    · exact ⟨[], a, hlook, .nil a⟩
    · obtain ⟨m, k, hk, hm⟩ := ih hr
      exact ⟨r' :: m, k, hk, .cons hlook hm⟩

/-- A path ends at its start or behind one of its records. -/
theorem ends (h : Path look next a l b) : b = a ∨ ∃ k, ∃ r ∈ l, look k = some r ∧ b = next r := by
  induction h with
  | nil a => exact .inl rfl
  | @cons a b r l hlook _ ih =>
    right
    rcases ih with rfl | ⟨k, r', hr', hk, rfl⟩
    · exact ⟨a, r, List.mem_cons_self .., hlook, rfl⟩
    · exact ⟨k, r', List.mem_cons_of_mem _ hr', hk, rfl⟩

/-- A path stays where the keys of its records still name them. -/
theorem frame (h : Path look next a l b) (hl : ∀ k, ∀ r ∈ l, look k = some r → look' k = some r) :
    Path look' next a l b := by
  induction h with
  | nil a => exact .nil a
  | cons hlook _ ih =>
    exact .cons (hl _ _ (List.mem_cons_self ..) hlook) (ih fun k r hr => hl k r (List.mem_cons_of_mem _ hr))

theorem split (h : Path look next a (l ++ m) c) : ∃ b, Path look next a l b ∧ Path look next b m c := by
  induction l generalizing a with
  | nil => exact ⟨a, .nil a, h⟩
  | cons r l ih =>
    obtain _ | ⟨hlook, h⟩ := h
    obtain ⟨b, hl, hm⟩ := ih h
    exact ⟨b, .cons hlook hl, hm⟩

/-- Two paths from a key to their ends are the same. -/
theorem eq_of_end (h : Path look next a l b) (h' : Path look next a m c) (hb : look b = none) (hc : look c = none) :
    l = m := by
  induction h generalizing m with
  | nil a =>
    cases h' with
    | nil => rfl
    | cons hlook => rw [hb] at hlook; cases hlook
  | @cons a b r l hlook _ ih =>
    cases h' with
    | nil => rw [hc] at hlook; cases hlook
    | cons hlook' h' =>
      obtain rfl := Option.some.inj (hlook.symm.trans hlook')
      rw [ih h' hb]

/-- A path that ends comes by a record once. -/
theorem nodup (h : Path look next a l b) (hb : look b = none) : l.Nodup := by
  induction h with
  | nil => exact List.nodup_nil
  | @cons a b r l hlook h ih =>
    refine List.nodup_cons.2 ⟨fun hr => ?_, ih hb⟩
    obtain ⟨s, t, rfl⟩ := List.append_of_mem hr
    obtain ⟨k, -, hk⟩ := h.split
    obtain _ | ⟨-, ht⟩ := hk
    have heq := congrArg List.length (h.eq_of_end ht hb hb)
    simp only [List.length_append, List.length_cons] at heq
    omega

section Splice
variable [DecidableEq ρ] {old new mid : ρ}

/-- The records of a path where `old` became `new` with `mid` behind it. -/
def splice (old new mid : ρ) (l : List ρ) : List ρ :=
  l.flatMap fun r => if r = old then [new, mid] else [r]

@[simp] theorem splice_nil : splice old new mid [] = [] := rfl

theorem splice_cons_self : splice old new mid (old :: l) = new :: mid :: splice old new mid l := by
  simp [splice]

theorem splice_cons_of_ne (h : r ≠ old) : splice old new mid (r :: l) = r :: splice old new mid l := by
  simp [splice, h]

theorem splice_of_not_mem (h : old ∉ l) : splice old new mid l = l := by
  induction l with
  | nil => rfl
  | cons r l ih =>
    rw [List.mem_cons, not_or] at h
    rw [splice_cons_of_ne (Ne.symm h.1), ih h.2]

theorem splice_append : splice old new mid (l ++ m) = splice old new mid l ++ splice old new mid m :=
  List.flatMap_append

/-- Every path through `old` runs through `new` and `mid` once `new` links to `mid` and `mid` to where `old` led. -/
theorem spliced (hold : ∀ k, look k = some old → look' k = some new) (hmid : look' (next new) = some mid)
    (hkeep : ∀ k r, look k = some r → r ≠ old → look' k = some r)
    (hnext : next mid = next old ∨ look (next old) = none ∧ look' (next mid) = none)
    (h : Path look next a l b) :
    ∃ b', Path look' next a (splice old new mid l) b' ∧ (b' = b ∨ look b = none ∧ look' b' = none) := by
  induction h with
  | nil a => exact ⟨a, .nil a, .inl rfl⟩
  | @cons a b r l hlook h ih =>
    by_cases hr : r = old
    · subst hr
      rw [splice_cons_self]
      rcases hnext with hnext | ⟨hend, hend'⟩
      · obtain ⟨b', hpath, hb⟩ := ih
        refine ⟨b', .cons (hold _ hlook) (.cons hmid ?_), hb⟩
        rwa [hnext]
      · -- `old` was the last record
        cases h with
        | nil => exact ⟨next mid, .cons (hold _ hlook) (.cons hmid (.nil _)), .inr ⟨hend, hend'⟩⟩
        | cons hlook' => rw [hend] at hlook'; cases hlook'
    · obtain ⟨b', hpath, hb⟩ := ih
      rw [splice_cons_of_ne hr]
      exact ⟨b', .cons (hkeep _ _ hlook hr) hpath, hb⟩

end Splice
end Path

section

/-! ### Links both ways -/

variable {α : Type*} {next prev next' prev' : α → Option α} {p n p' n' : Option α} {a : α} {l m : List α}

/-- The records `l` in a row between `p` and `n`, each linked to the one before it and to the one behind. -/
def Row (next prev : α → Option α) : Option α → List α → Option α → Prop
  | _, [], _ => True
  | p, a :: l, n => prev a = p ∧ next a = l.head?.or n ∧ Row next prev (some a) l n

namespace Row

theorem append_iff : Row next prev p (l ++ m) n ↔ Row next prev p l (m.head?.or n) ∧ Row next prev (l.getLast?.or p) m n := by
  induction l generalizing p with
  | nil => simp [Row]
  | cons a l ih =>
    have hhead : (l ++ m).head?.or n = l.head?.or (m.head?.or n) := by cases l <;> rfl
    have hlast : (a :: l).getLast?.or p = l.getLast?.or (some a) := by
      rw [List.getLast?_cons]
      cases l.getLast? <;> rfl
    rw [List.cons_append, Row, Row, ih, hhead, hlast, and_assoc, and_assoc]

/-- A row stays where its records keep their links. -/
theorem frame (h : Row next prev p l n) (hl : ∀ a ∈ l, next' a = next a ∧ prev' a = prev a) : Row next' prev' p l n := by
  induction l generalizing p with
  | nil => trivial
  | cons a l ih =>
    obtain ⟨hprev, hnext, htail⟩ := h
    obtain ⟨ha, hl⟩ := List.forall_mem_cons.1 hl
    exact ⟨ha.2.trans hprev, ha.1.trans hnext, ih htail hl⟩

variable [DecidableEq α]

/-- The link of a record, where there is one. -/
def relink (links : α → Option α) (a v : Option α) : α → Option α :=
  match a with
  | some a => Function.update links a v
  | none => links

theorem relink_of_ne {links : α → Option α} {b v : Option α} (h : b ≠ some a) : relink links b v a = links a := by
  cases b with
  | none => rfl
  | some b => exact Function.update_of_ne (fun hab => h (congrArg some hab.symm)) _ _

/-- The row leads elsewhere. -/
theorem relink_last (h : Row next prev p l n) (hl : l.Nodup) (n' : Option α) :
    Row (relink next l.getLast? n') prev p l n' := by
  induction l generalizing p with
  | nil => trivial
  | cons a l ih =>
    obtain ⟨hprev, hnext, htail⟩ := h
    obtain ⟨ha, hl⟩ := List.nodup_cons.1 hl
    rw [List.getLast?_cons]
    cases l with
    | nil => exact ⟨hprev, Function.update_self .., trivial⟩
    | cons b l =>
      have hlast : (b :: l).getLast?.getD a = (b :: l).getLast (List.cons_ne_nil b l) := by
        rw [List.getLast?_eq_some_getLast (List.cons_ne_nil b l), Option.getD_some]
      have hne : some ((b :: l).getLast (List.cons_ne_nil b l)) ≠ some a := by
        rintro heq
        exact ha (Option.some.inj heq ▸ List.getLast_mem _)
      have htail := ih htail hl
      rw [List.getLast?_eq_some_getLast (List.cons_ne_nil b l)] at htail
      rw [hlast]
      exact ⟨hprev, (relink_of_ne hne).trans hnext, htail⟩

/-- The row comes from elsewhere. -/
theorem relink_first (h : Row next prev p l n) (hl : l.Nodup) (p' : Option α) :
    Row next (relink prev l.head? p') p' l n := by
  cases l with
  | nil => trivial
  | cons a l =>
    obtain ⟨hprev, hnext, htail⟩ := h
    obtain ⟨ha, hl⟩ := List.nodup_cons.1 hl
    refine ⟨Function.update_self .., hnext, htail.frame fun b hb => ⟨rfl, ?_⟩⟩
    exact Function.update_of_ne (fun hba : b = a => ha (hba ▸ hb)) _ _

end Row

end
end Linked
