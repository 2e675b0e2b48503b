import Mathlib.Algebra.Group.Int.Defs
import Mathlib.Algebra.Group.Nat.Defs
import Mathlib.Algebra.GroupWithZero.Nat
import Mathlib.Data.List.Induction

/-!
# Machines

A machine has one initial state and a partial step function; the events carry every choice of the
environment, so a run is a list of events. `Machine.exec` runs it, `Machine.Meets` says that every
step of the run meets a condition on the state before it and its event. The induction over runs is
done here once: an invariant of a machine is a predicate that holds initially and that every step
keeps (`Machine.invariant`), in its three forms (plain, for runs that meet a condition, and with the
list of events done so far).
-/

/-! The sizes of the bounded integers of the machines. -/

instance neZero_byte : NeZero (2 ^ 8) := ⟨by decide⟩

instance neZero_word : NeZero (2 ^ 32) := ⟨by decide⟩

/-- A machine: an initial state and the state after an event, if the event is enabled. -/
structure Machine (σ ε : Type*) where
  init : σ
  step : σ → ε → Option σ

namespace Machine
variable {σ ε : Type*} {M : Machine σ ε} {s t u : σ} {e : ε} {es fs : List ε}

/-- The state after the events `es`, if every one of them is enabled where it occurs. -/
def exec (M : Machine σ ε) : σ → List ε → Option σ
  | s, [] => some s
  | s, e :: es => (M.step s e).bind fun t => M.exec t es

/-- Every step of the run meets `G`, a condition on the state before it and its event. -/
def Meets (M : Machine σ ε) (G : σ → ε → Prop) : σ → List ε → Prop
  | _, [] => True
  | s, e :: es => G s e ∧ ∀ t, M.step s e = some t → M.Meets G t es

@[simp] theorem exec_nil : M.exec s [] = some s := rfl

theorem exec_cons : M.exec s (e :: es) = some u ↔ ∃ t, M.step s e = some t ∧ M.exec t es = some u := by
  simp only [exec, Option.bind_eq_some_iff]

theorem exec_append :
    M.exec s (es ++ fs) = some u ↔ ∃ t, M.exec s es = some t ∧ M.exec t fs = some u := by
  induction es generalizing s with
  | nil => simp
  | cons e es ih =>
    simp only [List.cons_append, exec_cons, ih]
    constructor
    · rintro ⟨t, h1, t', h2, h3⟩
      exact ⟨t', ⟨t, h1, h2⟩, h3⟩
    · rintro ⟨t', ⟨t, h1, h2⟩, h3⟩
      exact ⟨t, h1, t', h2, h3⟩

theorem exec_concat :
    M.exec s (es ++ [e]) = some u ↔ ∃ t, M.exec s es = some t ∧ M.step t e = some u := by
  simp only [exec_append, exec_cons, exec_nil, Option.some.injEq, exists_eq_right]

@[simp] theorem meets_nil {G : σ → ε → Prop} : M.Meets G s [] := trivial

theorem meets_cons {G : σ → ε → Prop} :
    M.Meets G s (e :: es) ↔ G s e ∧ ∀ t, M.step s e = some t → M.Meets G t es := Iff.rfl

theorem meets_cons_of_step {G : σ → ε → Prop} (h : M.step s e = some t) :
    M.Meets G s (e :: es) ↔ G s e ∧ M.Meets G t es := by
  rw [meets_cons, h]
  simp only [Option.some.injEq, forall_eq']

theorem meets_cons_of_not_enabled {G : σ → ε → Prop} (h : M.step s e = none) :
    M.Meets G s (e :: es) ↔ G s e := by
  rw [meets_cons, h]
  simp only [reduceCtorEq, false_imp_iff, implies_true, and_true]

/-- A condition that can be evaluated can be evaluated along a run. -/
instance decidableMeets {G : σ → ε → Prop} [∀ s e, Decidable (G s e)] :
    ∀ (s : σ) (es : List ε), Decidable (M.Meets G s es)
  | _, [] => isTrue trivial
  | s, e :: es =>
    match h : M.step s e with
    | none => decidable_of_iff' (G s e) (meets_cons_of_not_enabled h)
    | some t =>
      have : Decidable (M.Meets G t es) := decidableMeets t es
      decidable_of_iff' (G s e ∧ M.Meets G t es) (meets_cons_of_step h)

theorem Meets.append {G : σ → ε → Prop} (h : M.Meets G s (es ++ fs)) (ht : M.exec s es = some t) :
    M.Meets G t fs := by
  induction es generalizing s with
  | nil =>
    obtain rfl := Option.some.inj ht
    exact h
  | cons e es ih =>
    obtain ⟨s', hs, ht⟩ := exec_cons.1 ht
    exact ih (h.2 s' hs) ht

theorem Meets.prefix {G : σ → ε → Prop} (h : M.Meets G s (es ++ fs)) : M.Meets G s es := by
  induction es generalizing s with
  | nil => trivial
  | cons e es ih => exact ⟨h.1, fun t ht => ih (h.2 t ht)⟩

/-- What a run keeps, from the state it starts in. -/
theorem invariant_from {I : σ → Prop} (hI : I s) (hstep : ∀ s e t, I s → M.step s e = some t → I t)
    (h : M.exec s es = some t) : I t := by
  induction es generalizing s with
  | nil =>
    obtain rfl := Option.some.inj h
    exact hI
  | cons e es ih =>
    obtain ⟨s', hs, ht⟩ := exec_cons.1 h
    exact ih (hstep _ _ _ hI hs) ht

theorem invariant {I : σ → Prop} (h0 : I M.init) (hstep : ∀ s e t, I s → M.step s e = some t → I t)
    (h : M.exec M.init es = some s) : I s :=
  invariant_from h0 hstep h

/-- What a run keeps whose steps all meet `G`. -/
theorem invariant_meets {I : σ → Prop} {G : σ → ε → Prop} (hI : I s)
    (hstep : ∀ s e t, I s → G s e → M.step s e = some t → I t) (hG : M.Meets G s es)
    (h : M.exec s es = some t) : I t := by
  induction es generalizing s with
  | nil =>
    obtain rfl := Option.some.inj h
    exact hI
  | cons e es ih =>
    obtain ⟨s', hs, ht⟩ := exec_cons.1 h
    exact ih (hstep _ _ _ hI hG.1 hs) (hG.2 _ hs) ht

/-- A condition that follows from `G` in the states with `I`, on a run whose steps all meet `G`. -/
theorem Meets.of_invariant {I : σ → Prop} {F G : σ → ε → Prop} (hG : M.Meets G s es) (hI : I s)
    (hstep : ∀ s e t, I s → G s e → M.step s e = some t → I t) (hF : ∀ s e, I s → G s e → F s e) :
    M.Meets F s es := by
  induction es generalizing s with
  | nil => trivial
  | cons e es ih => exact ⟨hF s e hI hG.1, fun t ht => ih (hG.2 t ht) (hstep s e t hI hG.1 ht)⟩

/-- Two conditions that agree on every step from a state with `I`, of which one keeps `I`, agree on
every run. -/
theorem meets_iff {I : σ → Prop} {F G : σ → ε → Prop} (hI : I s)
    (hstep : ∀ s e t, I s → G s e → M.step s e = some t → I t)
    (hiff : ∀ s e t, I s → M.step s e = some t → (F s e ↔ G s e)) (h : M.exec s es = some t) :
    M.Meets F s es ↔ M.Meets G s es := by
  induction es generalizing s with
  | nil => exact Iff.rfl
  | cons e es ih =>
    obtain ⟨s', hs, ht⟩ := exec_cons.1 h
    rw [meets_cons, meets_cons, hiff s e s' hI hs]
    refine and_congr_right fun hG => forall₂_congr fun u hu => ?_
    obtain rfl := Option.some.inj (hs.symm.trans hu)
    exact ih (hstep _ _ _ hI hG hs) ht

/-- Where `P` is lost for good by the first step that does not meet `G`, it holds behind the run if and only if all
steps meet `G`. -/
theorem iff_meets {P : σ → Prop} {G : σ → ε → Prop} (hP : P s) (hstep : ∀ s e t, M.step s e = some t → (P t ↔ G s e))
    (hback : ∀ s e t, M.step s e = some t → P s) (h : M.exec s es = some t) : P t ↔ M.Meets G s es := by
  induction es generalizing s with
  | nil =>
    obtain rfl := Option.some.inj h
    exact iff_of_true hP trivial
  | cons e es ih =>
    obtain ⟨s', hs, ht⟩ := exec_cons.1 h
    rw [meets_cons_of_step hs, ← hstep s e s' hs]
    by_cases hP' : P s'
    · rw [ih hP' ht]
      exact (and_iff_right hP').symm
    · refine iff_of_false (fun hPt => hP' ?_) fun h => hP' h.1
      cases es with
      | nil =>
        obtain rfl := Option.some.inj ht
        exact hPt
      | cons e' es =>
        obtain ⟨s'', hs', -⟩ := exec_cons.1 ht
        exact hback _ _ _ hs'

/-- An invariant of the state and of the events that led to it. -/
theorem invariant_trace {I : List ε → σ → Prop} (h0 : I [] M.init)
    (hstep : ∀ tr s e t, I tr s → M.step s e = some t → I (tr ++ [e]) t)
    (h : M.exec M.init es = some s) : I es s := by
  induction es using List.reverseRecOn generalizing s with
  | nil =>
    obtain rfl := Option.some.inj h
    exact h0
  | append_singleton es e ih =>
    obtain ⟨t, ht, hs⟩ := exec_concat.1 h
    exact hstep _ _ _ _ (ih ht) hs

theorem Meets.concat {G : σ → ε → Prop} (h : M.Meets G s es) (he : ∀ t, M.exec s es = some t → G t e) :
    M.Meets G s (es ++ [e]) := by
  induction es generalizing s with
  | nil => exact ⟨he s rfl, fun _ _ => trivial⟩
  | cons d es ih => exact ⟨h.1, fun t ht => ih (h.2 t ht) fun u hu => he u (exec_cons.2 ⟨t, ht, hu⟩)⟩

/-- An invariant of the state and of the events that led to it, on a run whose steps all meet `G`. -/
theorem invariant_trace_meets {I : List ε → σ → Prop} {G : σ → ε → Prop} (h0 : I [] M.init)
    (hstep : ∀ tr s e t, I tr s → G s e → M.step s e = some t → I (tr ++ [e]) t) (hG : M.Meets G M.init es)
    (h : M.exec M.init es = some s) : I es s := by
  induction es using List.reverseRecOn generalizing s with
  | nil =>
    obtain rfl := Option.some.inj h
    exact h0
  | append_singleton es e ih =>
    obtain ⟨t, ht, hs⟩ := exec_concat.1 h
    exact hstep _ _ _ _ (ih hG.prefix ht) (hG.append ht).1 hs

/-- Where the invariant `I` of the runs that meet `G` gives `P`, and a first step that does not meet `G` breaks `P`, all
states of a run have `P` if and only if all its steps meet `G`. -/
theorem always_iff_meets {I P : List ε → σ → Prop} {G : σ → ε → Prop} (h0 : I [] M.init)
    (hstep : ∀ tr s e t, I tr s → G s e → M.step s e = some t → I (tr ++ [e]) t) (hP : ∀ tr s, I tr s → P tr s)
    (hback : ∀ tr s e t, I tr s → M.step s e = some t → P (tr ++ [e]) t → G s e) (h : M.exec M.init es = some s) :
    (∀ tr t, tr <+: es → M.exec M.init tr = some t → P tr t) ↔ M.Meets G M.init es := by
  constructor
  · intro hall
    induction es using List.reverseRecOn generalizing s with
    | nil => trivial
    | append_singleton es e ih =>
      obtain ⟨t, ht, hs⟩ := exec_concat.1 h
      have hes := ih ht fun tr u htr hu => hall tr u (htr.trans (List.prefix_append es [e])) hu
      refine hes.concat fun u hu => ?_
      obtain rfl := Option.some.inj (ht.symm.trans hu)
      exact hback es t e s (invariant_trace_meets h0 hstep hes ht) hs (hall _ s (List.prefix_refl _) h)
  · rintro hG tr t ⟨fs, rfl⟩ ht
    exact hP tr t (invariant_trace_meets h0 hstep hG.prefix ht)

theorem meets_and {E : ε → Prop} {G : σ → ε → Prop} (hE : ∀ e ∈ es, E e) :
    M.Meets (fun s e => E e ∧ G s e) s es ↔ M.Meets G s es := by
  induction es generalizing s with
  | nil => exact Iff.rfl
  | cons e es ih =>
    obtain ⟨he, hes⟩ := List.forall_mem_cons.1 hE
    simp only [meets_cons, he, true_and, ih hes]

/-- `always_iff_meets`, for the runs over the events with `E`. -/
theorem always_iff_meets_of {I P : List ε → σ → Prop} {G : σ → ε → Prop} {E : ε → Prop} (h0 : I [] M.init)
    (hstep : ∀ tr s e t, E e → I tr s → G s e → M.step s e = some t → I (tr ++ [e]) t) (hP : ∀ tr s, I tr s → P tr s)
    (hback : ∀ tr s e t, E e → I tr s → M.step s e = some t → P (tr ++ [e]) t → G s e) (hE : ∀ e ∈ es, E e)
    (h : M.exec M.init es = some s) :
    (∀ tr t, tr <+: es → M.exec M.init tr = some t → P tr t) ↔ M.Meets G M.init es := by
  have hall : ∀ tr, tr <+: es → ∀ e ∈ tr, E e := fun tr htr e he => hE e (htr.subset he)
  rw [← meets_and hE, ← always_iff_meets (I := fun tr s => (∀ e ∈ tr, E e) ∧ I tr s)
    (P := fun tr s => (∀ e ∈ tr, E e) ∧ P tr s) ⟨fun _ he => absurd he List.not_mem_nil, h0⟩ ?_ ?_ ?_ h]
  · exact ⟨fun hP tr t htr ht => ⟨hall tr htr, hP tr t htr ht⟩, fun hP tr t htr ht => (hP tr t htr ht).2⟩
  · rintro tr s e t ⟨htr, hI⟩ ⟨he, hG⟩ ht
    exact ⟨List.forall_mem_append.2 ⟨htr, List.forall_mem_singleton.2 he⟩, hstep tr s e t he hI hG ht⟩
  · exact fun tr s hI => ⟨hI.1, hP tr s hI.2⟩
  · rintro tr s e t ⟨-, hI⟩ ht ⟨htr, hPt⟩
    have he : E e := htr e (List.mem_append_right _ (List.mem_singleton_self e))
    exact ⟨he, hback tr s e t he hI ht hPt⟩

/-- The machine with a history of its runs. -/
def withGhost {γ : Type*} (M : Machine σ ε) (g : γ) (after : γ → σ → ε → σ → γ) : Machine (σ × γ) ε :=
  ⟨(M.init, g), fun s e => (M.step s.1 e).map fun t => (t, after s.2 s.1 e t)⟩

theorem step_withGhost {γ : Type*} {g : γ} {after : γ → σ → ε → σ → γ} {a b : σ × γ} :
    (M.withGhost g after).step a e = some b ↔ M.step a.1 e = some b.1 ∧ b.2 = after a.2 a.1 e b.1 := by
  obtain ⟨t, k⟩ := b
  simp only [withGhost, Option.map_eq_some_iff, Prod.mk.injEq]
  constructor
  · rintro ⟨t', ht, rfl, rfl⟩
    exact ⟨ht, rfl⟩
  · rintro ⟨ht, rfl⟩
    exact ⟨t, ht, rfl, rfl⟩

end Machine
