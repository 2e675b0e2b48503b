import Mathlib.Data.List.Forall2

/-!
# Computations that do not fail

`Succeeds x` says that the computation `x` has a result, whatever it is, and goes through the operations of
`Except` (`succeeds_bind`, `succeeds_map`, `succeeds_mapM`). A pass over a list with an `Option` is a relation between the
list and the results (`mapM_eq_some`).
-/

def Succeeds {ε α : Type*} (x : Except ε α) : Prop := ∃ a, x = .ok a

section
variable {ε : Type*} {α β : Type*} {a : α} {e : ε} {x : Except ε α} {l : List α}

@[simp] theorem succeeds_ok : Succeeds (.ok a : Except ε α) := ⟨a, rfl⟩

@[simp] theorem succeeds_pure : Succeeds (pure a : Except ε α) := ⟨a, rfl⟩

@[simp] theorem not_succeeds_error : ¬ Succeeds (.error e : Except ε α) := fun ⟨_, h⟩ => nomatch h

@[simp] theorem not_succeeds_throw : ¬ Succeeds (throw e : Except ε α) := fun ⟨_, h⟩ => nomatch h

instance : Decidable (Succeeds x) :=
  match x with
  | .ok a => isTrue ⟨a, rfl⟩
  | .error _ => isFalse not_succeeds_error

theorem map_eq_ok {f : α → β} {b : β} : x.map f = .ok b ↔ ∃ a, x = .ok a ∧ f a = b := by
  cases x with
  | ok a =>
    constructor
    · rintro ⟨⟩
      exact ⟨a, rfl, rfl⟩
    · rintro ⟨_, ⟨⟩, rfl⟩
      rfl
  | error e =>
    refine iff_of_false (fun h => nomatch h) ?_
    rintro ⟨_, h, -⟩
    nomatch h

@[simp] theorem succeeds_map {f : α → β} : Succeeds (x.map f) ↔ Succeeds x := by
  cases x with
  | ok a => exact iff_of_true ⟨f a, rfl⟩ ⟨a, rfl⟩
  | error e => exact iff_of_false not_succeeds_error not_succeeds_error

end

section
variable {ε α β : Type} {x : Except ε α} {f : α → Except ε β} {l : List α}

theorem bind_eq_ok {b : β} : x >>= f = .ok b ↔ ∃ a, x = .ok a ∧ f a = .ok b := by
  cases x with
  | ok a =>
    constructor
    · exact fun h => ⟨a, rfl, h⟩
    · rintro ⟨_, ⟨⟩, h⟩
      exact h
  | error e =>
    refine iff_of_false (fun h => nomatch h) ?_
    rintro ⟨_, h, -⟩
    nomatch h

theorem succeeds_bind : Succeeds (x >>= f) ↔ ∃ a, x = .ok a ∧ Succeeds (f a) := by
  simp only [Succeeds, bind_eq_ok]
  constructor
  · rintro ⟨b, a, hx, hf⟩
    exact ⟨a, hx, b, hf⟩
  · rintro ⟨a, hx, b, hf⟩
    exact ⟨b, a, hx, hf⟩

theorem succeeds_mapM (h : ∀ a ∈ l, Succeeds (f a)) : Succeeds (l.mapM f) := by
  induction l with
  | nil => exact ⟨[], rfl⟩
  | cons a l ih =>
    obtain ⟨b, hb⟩ := h a (List.mem_cons_self ..)
    obtain ⟨bs, hbs⟩ := ih fun a' ha' => h a' (List.mem_cons_of_mem a ha')
    rw [List.mapM_cons, hb, hbs]
    exact ⟨b :: bs, rfl⟩

end

/-! ### Passes over a list -/

section
variable {α β : Type*} {f : α → Option β} {l : List α} {r : List β}

theorem mapM_eq_some : l.mapM f = some r ↔ List.Forall₂ (fun a b => f a = some b) l r := by
  induction l generalizing r with
  | nil =>
    rw [List.mapM_nil, List.forall₂_nil_left_iff]
    exact ⟨fun h => (Option.some.inj h).symm, fun h => by rw [h]; rfl⟩
  | cons a l ih =>
    rw [List.mapM_cons, List.forall₂_cons_left_iff]
    constructor
    · intro h
      obtain ⟨b, hb, h⟩ := Option.bind_eq_some_iff.1 h
      obtain ⟨r', hr', h⟩ := Option.bind_eq_some_iff.1 h
      exact ⟨b, r', hb, ih.1 hr', (Option.some.inj h).symm⟩
    · rintro ⟨b, r', hb, hr', rfl⟩
      rw [hb, ih.2 hr']
      rfl

/-- A pass succeeds with results in a relation exactly if each element does. -/
theorem mapM_forall₂ {R : α → β → Prop} (l : List α) :
    (∃ r, l.mapM f = some r ∧ List.Forall₂ R l r) ↔ ∀ a ∈ l, ∃ b, f a = some b ∧ R a b := by
  induction l with
  | nil => simp
  | cons a l ih =>
    rw [List.forall_mem_cons, ← ih]
    constructor
    · rintro ⟨r, hr, hR⟩
      obtain ⟨b, r', hb, hr', rfl⟩ := List.forall₂_cons_left_iff.1 (mapM_eq_some.1 hr)
      obtain ⟨h, hR⟩ := List.forall₂_cons.1 hR
      exact ⟨⟨b, hb, h⟩, r', mapM_eq_some.2 hr', hR⟩
    · rintro ⟨⟨b, hb, h⟩, r, hr, hR⟩
      exact ⟨b :: r, mapM_eq_some.2 (.cons hb (mapM_eq_some.1 hr)), .cons h hR⟩

/-- What is equivalent to a condition on the argument at each place, is so for the whole. -/
theorem forall₂_iff_forall {R P : α → β → Prop} {Q : α → Prop} (h : List.Forall₂ R l r)
    (hP : ∀ a b, R a b → (P a b ↔ Q a)) : List.Forall₂ P l r ↔ ∀ a ∈ l, Q a := by
  induction h with
  | nil => simp
  | cons hab _ ih => rw [List.forall₂_cons, List.forall_mem_cons, hP _ _ hab, ih]

end
