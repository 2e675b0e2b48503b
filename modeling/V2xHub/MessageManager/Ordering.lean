import V2xHub.MessageManager.Basic
import V2xHub.Lib.Threads

/-!
# Ordering per source

The items of a source stay together, and its count right, as long as no call of `assign` reads the thread id while it is
being released, none stores its choice over another one, the pushes come in the order of the calls and no item is lost on
its way (`per_source_ordering`). `Places` says where the items are and holds in every run; `Inv` is about one source, and
the steps about other sources keep it (`Step.same`).
-/

namespace V2xHub.MessageManager
variable {ι ω : Type} [DecidableEq ι] [DecidableEq ω] {src : ι → Source} {limits : Limits}

namespace State
variable {σ τ : State ι ω} {i : ι} {w : ω} {x : Stage ω} {s : Source}

/-- What a step can do. -/
inductive Step (src : ι → Source) (limits : Limits) (σ : State ι ω) : Event ι ω → State ι ω → Prop
  | call (i : ι) (hi : σ.stage i = .fresh) : Step src limits σ (.call i) { σ.move i .counted with
        count := Function.update σ.count (src i) (σ.count (src i) + 1)
        called := σ.called ++ [i] }
  | readNone (i : ι) (hi : σ.stage i = .counted) (hnone : src i = (0, 0) ∨ σ.threadId (src i) = none) :
      Step src limits σ (.read i) (σ.move i .choosing)
  | readSome (i : ι) (w : ω) (hi : σ.stage i = .counted) (hsrc : src i ≠ (0, 0))
      (hsome : σ.threadId (src i) = some w) : Step src limits σ (.read i) (σ.move i (.pushing w))
  | choose (i : ι) (w : ω) (hi : σ.stage i = .choosing) : Step src limits σ (.choose i w) (σ.move i (.storing w))
  | store (i : ι) (w : ω) (hi : σ.stage i = .storing w) : Step src limits σ (.store i)
      { σ.move i (.pushing w) with threadId := Function.update σ.threadId (src i) (some w) }
  | push (i : ι) (w : ω) (hi : σ.stage i = .pushing w) (hroom : (σ.inQ w).length < limits.capacity) :
      Step src limits σ (.push i) { σ.move i (.queued w) with
        inQ := Function.update σ.inQ w (σ.inQ w ++ [i])
        pushed := σ.pushed ++ [i] }
  | full (i : ι) (w : ω) (hi : σ.stage i = .pushing w) (hfull : ¬ (σ.inQ w).length < limits.capacity) :
      Step src limits σ (.push i) (σ.move i .lost)
  | take (w : ω) (i : ι) (q : List ι) (hw : σ.working w = none) (hq : σ.inQ w = i :: q) :
      Step src limits σ (.take w) { σ.move i (.working w) with
        inQ := Function.update σ.inQ w q
        working := Function.update σ.working w (some i)
        taken := σ.taken ++ [i] }
  | drop (w : ω) (i : ι) (hw : σ.working w = some i) (hi : σ.stage i = .working w) (hover : σ.overflows limits w) :
      Step src limits σ (.check w) { σ.move i .lost with working := Function.update σ.working w none }
  | check (w : ω) (i : ι) (hw : σ.working w = some i) (hi : σ.stage i = .working w) (hover : ¬ σ.overflows limits w) :
      Step src limits σ (.check w) (σ.move i (.handling w))
  | finish (w : ω) (i : ι) (hw : σ.working w = some i) (hi : σ.stage i = .handling w)
      (hroom : (σ.outQ w).length < limits.capacity) : Step src limits σ (.finish w)
      { σ.move i (.outgoing w) with
        working := Function.update σ.working w none
        outQ := Function.update σ.outQ w (σ.outQ w ++ [some i]) }
  | outFull (w : ω) (i : ι) (hw : σ.working w = some i) (hi : σ.stage i = .handling w)
      (hfull : ¬ (σ.outQ w).length < limits.capacity) : Step src limits σ (.finish w)
      { σ.move i .lost with working := Function.update σ.working w none }
  | send (w : ω) : Step src limits σ (.send w) (σ.send limits w)
  | popMessage (w : ω) (q : List (Option ι)) (hidle : σ.output = .idle) (hq : σ.outQ w = none :: q) :
      Step src limits σ (.pop w) { σ with outQ := Function.update σ.outQ w q, output := .cleanup none }
  | pop (w : ω) (i : ι) (q : List (Option ι)) (hidle : σ.output = .idle) (hq : σ.outQ w = some i :: q) :
      Step src limits σ (.pop w)
        { σ.move i .cleaning with outQ := Function.update σ.outQ w q, output := .cleanup (some i) }
  | unassignMessage (hout : σ.output = .cleanup none) : Step src limits σ .unassign (σ.unassign (0, 0))
  | unassign (i : ι) (hout : σ.output = .cleanup (some i)) :
      Step src limits σ .unassign ((σ.move i .done).unassign (src i))
  | release (s : Source) (hout : σ.output = .releasing s) : Step src limits σ .release
      { σ with threadId := Function.update σ.threadId s none, output := .idle }

theorem step_cases {e : Event ι ω} (h : σ.step src limits e = some τ) : Step src limits σ e τ := by
  unfold step at h
  cases e with
  | call i =>
    obtain ⟨hi, h⟩ := Option.ite_none_right_eq_some.1 h
    cases h
    exact .call i hi
  | read i =>
    obtain ⟨hi, h⟩ := Option.ite_none_right_eq_some.1 h
    cases Option.some.inj h
    unfold State.read
    cases hid : σ.threadId (src i) with
    | none => exact .readNone i hi (.inr hid)
    | some w =>
      dsimp only
      by_cases hsrc : src i = (0, 0)
      · rw [if_pos hsrc]
        exact .readNone i hi (.inl hsrc)
      · rw [if_neg hsrc]
        exact .readSome i w hi hsrc hid
  | choose i w =>
    obtain ⟨hi, h⟩ := Option.ite_none_right_eq_some.1 h
    cases h
    exact .choose i w hi
  | store i =>
    cases hi : σ.stage i with
    | storing w =>
      simp only [hi, Option.some.injEq] at h
      exact h ▸ .store i w hi
    | _ => simp only [hi, reduceCtorEq] at h
  | push i =>
    cases hi : σ.stage i with
    | pushing w =>
      simp only [hi, Option.some.injEq] at h
      subst h
      unfold State.push
      split
      · rename_i hroom
        exact .push i w hi hroom
      · rename_i hfull
        exact .full i w hi hfull
    | _ => simp only [hi, reduceCtorEq] at h
  | take w =>
    cases hw : σ.working w with
    | some i => simp only [hw, reduceCtorEq] at h
    | none =>
      cases hq : σ.inQ w with
      | nil => simp only [hw, hq, reduceCtorEq] at h
      | cons i q =>
        simp only [hw, hq, Option.some.injEq] at h
        exact h ▸ .take w i q hw hq
  | check w =>
    cases hw : σ.working w with
    | none => simp only [hw, reduceCtorEq] at h
    | some i =>
      simp only [hw] at h
      obtain ⟨hi, h⟩ := Option.ite_none_right_eq_some.1 h
      cases Option.some.inj h
      unfold State.check
      split
      · rename_i hover
        exact .drop w i hw hi hover
      · rename_i hover
        exact .check w i hw hi hover
  | finish w =>
    cases hw : σ.working w with
    | none => simp only [hw, reduceCtorEq] at h
    | some i =>
      simp only [hw] at h
      obtain ⟨hi, h⟩ := Option.ite_none_right_eq_some.1 h
      cases Option.some.inj h
      unfold State.finish
      dsimp only
      split
      · rename_i hroom
        exact .finish w i hw hi hroom
      · rename_i hfull
        exact .outFull w i hw hi hfull
  | send w =>
    cases h
    exact .send w
  | pop w =>
    cases hout : σ.output with
    | idle =>
      cases hq : σ.outQ w with
      | nil => simp only [hout, hq, reduceCtorEq] at h
      | cons item q =>
        cases item with
        | none =>
          simp only [hout, hq, Option.some.injEq] at h
          exact h ▸ .popMessage w q hout hq
        | some i =>
          simp only [hout, hq, Option.some.injEq] at h
          exact h ▸ .pop w i q hout hq
    | cleanup item => simp only [hout, reduceCtorEq] at h
    | releasing s => simp only [hout, reduceCtorEq] at h
  | unassign =>
    cases hout : σ.output with
    | idle => simp only [hout, reduceCtorEq] at h
    | releasing s => simp only [hout, reduceCtorEq] at h
    | cleanup item =>
      cases item with
      | none =>
        simp only [hout, Option.some.injEq] at h
        exact h ▸ .unassignMessage hout
      | some i =>
        simp only [hout, Option.some.injEq] at h
        exact h ▸ .unassign i hout
  | release =>
    cases hout : σ.output with
    | releasing s =>
      simp only [hout, Option.some.injEq] at h
      exact h ▸ .release s hout
    | idle => simp only [hout, reduceCtorEq] at h
    | cleanup item => simp only [hout, reduceCtorEq] at h

/-- What is in a queue or with the output thread is there once, and its stage says so. -/
structure Places (σ : State ι ω) : Prop where
  inQ : ∀ w i, (σ.inQ w).count i ≤ if σ.stage i = .queued w then 1 else 0
  outQ : ∀ w i, (σ.outQ w).count (some i) ≤ if σ.stage i = .outgoing w then 1 else 0
  cleanup : ∀ i, σ.output = .cleanup (some i) → σ.stage i = .cleaning

theorem Places.queued (h : Places σ) (hi : i ∈ σ.inQ w) : σ.stage i = .queued w := by
  by_contra hne
  have hcount := h.inQ w i
  rw [if_neg hne] at hcount
  exact absurd (List.count_pos_iff.2 hi) (by omega)

theorem Places.outgoing (h : Places σ) (hi : some i ∈ σ.outQ w) : σ.stage i = .outgoing w := by
  by_contra hne
  have hcount := h.outQ w i
  rw [if_neg hne] at hcount
  exact absurd (List.count_pos_iff.2 hi) (by omega)

theorem Places.inQ_move (h : Places σ) (hi : ∀ w, σ.stage i ≠ .queued w) (v : ω) (j : ι) :
    (σ.inQ v).count j ≤ if Function.update σ.stage i x j = .queued v then 1 else 0 := by
  have hcount := h.inQ v j
  rcases eq_or_ne j i with rfl | hj
  · rw [if_neg (hi v)] at hcount
    exact hcount.trans (Nat.zero_le _)
  · rwa [Function.update_of_ne hj]

theorem Places.outQ_move (h : Places σ) (hi : ∀ w, σ.stage i ≠ .outgoing w) (v : ω) (j : ι) :
    (σ.outQ v).count (some j) ≤ if Function.update σ.stage i x j = .outgoing v then 1 else 0 := by
  have hcount := h.outQ v j
  rcases eq_or_ne j i with rfl | hj
  · rw [if_neg (hi v)] at hcount
    exact hcount.trans (Nat.zero_le _)
  · rwa [Function.update_of_ne hj]

theorem Places.cleanup_move (h : Places σ) (hi : σ.stage i ≠ .cleaning) {j : ι} (hj : σ.output = .cleanup (some j)) :
    Function.update σ.stage i x j = .cleaning := by
  have hj' := h.cleanup j hj
  rw [Function.update_of_ne, hj']
  rintro rfl
  exact hi hj'

/-- An item that no queue has goes on. -/
theorem Places.pass (h : Places σ) (hin : ∀ w, σ.stage i ≠ .queued w) (hout : ∀ w, σ.stage i ≠ .outgoing w)
    (hclean : σ.stage i ≠ .cleaning) (hstage : τ.stage = Function.update σ.stage i x) (hinQ : τ.inQ = σ.inQ)
    (houtQ : τ.outQ = σ.outQ) (houtput : τ.output = σ.output) : Places τ := by
  refine ⟨?_, ?_, ?_⟩ <;> simp only [hstage, hinQ, houtQ, houtput]
  · exact h.inQ_move hin
  · exact h.outQ_move hout
  · exact fun j hj => h.cleanup_move hclean hj

section
variable {α : Type} [BEq α] [LawfulBEq α] [DecidableEq α] {q : ω → List α} {a : α} {l : List α}

theorem count_push (v : ω) (b : α) : (Function.update q w (q w ++ [a]) v).count b =
    (q v).count b + if v = w ∧ b = a then 1 else 0 := by
  by_cases hv : v = w
  · subst hv
    by_cases hb : b = a
    · simp [hb]
    · simp [hb, Ne.symm hb]
  · simp [hv]

theorem count_pop (hq : q w = a :: l) (v : ω) (b : α) : (q v).count b =
    (Function.update q w l v).count b + if v = w ∧ b = a then 1 else 0 := by
  by_cases hv : v = w
  · subst hv
    by_cases hb : b = a
    · simp [hb, hq]
    · simp [hb, Ne.symm hb, hq]
  · simp [hv]

end

theorem Places.push (h : Places σ) (hi : σ.stage i = .pushing w) (l : List ι) : Places { σ.move i (.queued w) with
    inQ := Function.update σ.inQ w (σ.inQ w ++ [i])
    pushed := l } := by
  refine ⟨fun v j => ?_, h.outQ_move (by simp [hi]), fun j hj => h.cleanup_move (by simp [hi]) hj⟩
  change (Function.update σ.inQ w _ v).count j ≤ if Function.update σ.stage i (.queued w) j = .queued v then 1 else 0
  have hcount := h.inQ v j
  rw [count_push]
  rcases eq_or_ne j i with rfl | hj
  · rw [hi, if_neg (by simp)] at hcount
    simp [Nat.le_zero.1 hcount, eq_comm]
  · simpa [hj] using hcount

theorem Places.take (h : Places σ) {q : List ι} (hq : σ.inQ w = i :: q) (b : ω → Option ι) (l : List ι) :
    Places { σ.move i (.working w) with inQ := Function.update σ.inQ w q, working := b, taken := l } := by
  have hi : σ.stage i = .queued w := h.queued (hq ▸ List.mem_cons_self)
  refine ⟨fun v j => ?_, h.outQ_move (by simp [hi]), fun j hj => h.cleanup_move (by simp [hi]) hj⟩
  change (Function.update σ.inQ w q v).count j ≤ if Function.update σ.stage i (.working w) j = .queued v then 1 else 0
  have hcount := h.inQ v j
  rw [count_pop hq] at hcount
  rcases eq_or_ne j i with rfl | hj
  · by_cases hv : v = w
    · subst hv
      simpa [hi] using hcount
    · simpa [hi, hv, Ne.symm hv] using hcount
  · simpa [hj] using hcount

theorem Places.finish (h : Places σ) (hi : σ.stage i = .handling w) (b : ω → Option ι) :
    Places { σ.move i (.outgoing w) with
      working := b
      outQ := Function.update σ.outQ w (σ.outQ w ++ [some i]) } := by
  refine ⟨h.inQ_move (by simp [hi]), fun v j => ?_, fun j hj => h.cleanup_move (by simp [hi]) hj⟩
  change (Function.update σ.outQ w _ v).count (some j) ≤
    if Function.update σ.stage i (.outgoing w) j = .outgoing v then 1 else 0
  have hcount := h.outQ v j
  rw [count_push]
  rcases eq_or_ne j i with rfl | hj
  · rw [hi, if_neg (by simp)] at hcount
    simp [Nat.le_zero.1 hcount, eq_comm]
  · simpa [hj] using hcount

theorem Places.pop (h : Places σ) {q : List (Option ι)} (hq : σ.outQ w = some i :: q) :
    Places { σ.move i .cleaning with outQ := Function.update σ.outQ w q, output := .cleanup (some i) } := by
  have hi : σ.stage i = .outgoing w := h.outgoing (hq ▸ List.mem_cons_self)
  refine ⟨h.inQ_move (by simp [hi]), fun v j => ?_, fun j hj => ?_⟩
  · change (Function.update σ.outQ w q v).count (some j) ≤
      if Function.update σ.stage i .cleaning j = .outgoing v then 1 else 0
    have hcount := h.outQ v j
    rw [count_pop hq] at hcount
    rcases eq_or_ne j i with rfl | hj
    · by_cases hv : v = w
      · subst hv
        simpa [hi] using hcount
      · simpa [hi, hv, Ne.symm hv] using hcount
    · simpa [hj] using hcount
  · obtain rfl : i = j := Option.some.inj (Output.cleanup.inj hj)
    exact Function.update_self ..

theorem Places.unassign (h : Places σ) (hout : σ.output = .cleanup (some i)) (s : Source) :
    Places ((σ.move i .done).unassign s) := by
  have hi : σ.stage i = .cleaning := h.cleanup i hout
  refine ⟨h.inQ_move (by simp [hi]), h.outQ_move (by simp [hi]), fun j hj => ?_⟩
  change (if σ.count s - 1 = 0 then Output.releasing s else .idle) = .cleanup (some j) at hj
  split at hj <;> cases hj

theorem Places.step {e : Event ι ω} (h : Places σ) (hs : Step src limits σ e τ) : Places τ := by
  cases hs with
  | call i hi => exact h.pass (by simp [hi]) (by simp [hi]) (by simp [hi]) rfl rfl rfl rfl
  | readNone i hi _ => exact h.pass (by simp [hi]) (by simp [hi]) (by simp [hi]) rfl rfl rfl rfl
  | readSome i w hi _ _ => exact h.pass (by simp [hi]) (by simp [hi]) (by simp [hi]) rfl rfl rfl rfl
  | choose i w hi => exact h.pass (by simp [hi]) (by simp [hi]) (by simp [hi]) rfl rfl rfl rfl
  | store i w hi => exact h.pass (by simp [hi]) (by simp [hi]) (by simp [hi]) rfl rfl rfl rfl
  | push i w hi _ => exact h.push hi _
  | full i w hi _ => exact h.pass (by simp [hi]) (by simp [hi]) (by simp [hi]) rfl rfl rfl rfl
  | take w i q _ hq => exact h.take hq _ _
  | drop w i _ hi _ => exact h.pass (by simp [hi]) (by simp [hi]) (by simp [hi]) rfl rfl rfl rfl
  | check w i _ hi _ => exact h.pass (by simp [hi]) (by simp [hi]) (by simp [hi]) rfl rfl rfl rfl
  | finish w i _ hi _ => exact h.finish hi _
  | outFull w i _ hi _ => exact h.pass (by simp [hi]) (by simp [hi]) (by simp [hi]) rfl rfl rfl rfl
  | send w =>
    unfold State.send
    split
    · refine ⟨h.inQ, fun v j => ?_, h.cleanup⟩
      change (Function.update σ.outQ w _ v).count (some j) ≤ if σ.stage j = .outgoing v then 1 else 0
      simpa [count_push] using h.outQ v j
    · exact h
  | popMessage w q _ hq =>
    refine ⟨h.inQ, fun v j => ?_, fun j hj => by cases hj⟩
    change (Function.update σ.outQ w q v).count (some j) ≤ if σ.stage j = .outgoing v then 1 else 0
    have hcount := h.outQ v j
    rw [count_pop hq] at hcount
    simpa using hcount
  | pop w i q _ hq => exact h.pop hq
  | unassignMessage _ =>
    refine ⟨h.inQ, h.outQ, fun j hj => ?_⟩
    change (if σ.count (0, 0) - 1 = 0 then Output.releasing (0, 0) else .idle) = .cleanup (some j) at hj
    split at hj <;> cases hj
  | unassign i hout => exact h.unassign hout _
  | release s _ => exact ⟨h.inQ, h.outQ, fun j hj => by cases hj⟩

theorem Places.init : Places (State.init : State ι ω) :=
  ⟨by simp [State.init], by simp [State.init], by simp [State.init]⟩

/-- The items of a source. -/
def ofSource (src : ι → Source) (s : Source) (l : List ι) : List ι := l.filter fun i => src i = s

omit [DecidableEq ι] in
theorem ofSource_append (l m : List ι) : ofSource src s (l ++ m) = ofSource src s l ++ ofSource src s m :=
  List.filter_append ..

omit [DecidableEq ι] in
theorem ofSource_cons (hi : src i = s) (l : List ι) : ofSource src s (i :: l) = i :: ofSource src s l :=
  List.filter_cons_of_pos (by simpa using hi)

omit [DecidableEq ι] in
theorem ofSource_cons_of_ne (hi : src i ≠ s) (l : List ι) : ofSource src s (i :: l) = ofSource src s l :=
  List.filter_cons_of_neg (by simpa using hi)

/-- The items of a source in the in-queue of its thread. -/
def backlog (src : ι → Source) (s : Source) (inQ : ω → List ι) : Option ω → List ι
  | some w => ofSource src s (inQ w)
  | none => []

def pending (src : ι → Source) (s : Source) (σ : State ι ω) (i : ι) : Bool := src i = s && (σ.stage i).live

/-- The items of a source are with one worker, in the order of the calls, and its count is right. -/
structure InOrder (src : ι → Source) (s : Source) (σ : State ι ω) : Prop where
  /-- Every item of the source that has a worker has the one the source is assigned to. -/
  worker : ∀ i w, src i = s → (σ.stage i).worker = some w → σ.threadId s = some w
  /-- What the worker has not taken is in its queue, in the order of the pushes, -/
  order : ofSource src s σ.pushed = ofSource src s σ.taken ++ backlog src s σ.inQ (σ.threadId s)
  /-- which is the order of the calls. -/
  called : ofSource src s σ.pushed <+: ofSource src s σ.called
  counted : Threads.Counted (σ.count s) id (pending src s σ)
  /-- The assignment goes with the last item. -/
  released : σ.threadId s = none ∨ 0 < σ.count s ∨ σ.output = .releasing s

/-- While the output thread is about to store -1, no call has read the thread id. -/
structure Inv (src : ι → Source) (s : Source) (σ : State ι ω) : Prop extends InOrder src s σ where
  releasing : σ.output = .releasing s → ∀ i, src i = s → (σ.stage i).worker = none ∧ (σ.stage i).undecided = false

/-- The source whose item a step is about. -/
def sourceOf (src : ι → Source) (σ : State ι ω) : Event ι ω → Option Source
  | .call i | .read i | .choose i _ | .store i | .push i => some (src i)
  | .take w => (σ.inQ w).head?.map src
  | .check w | .finish w => (σ.working w).map src
  | .send _ => none
  | .pop w =>
    match σ.outQ w with
    | some i :: _ => some (src i)
    | _ => none
  | .unassign =>
    match σ.output with
    | .cleanup (some i) => some (src i)
    | .cleanup none => some (0, 0)
    | _ => none
  | .release =>
    match σ.output with
    | .releasing s => some s
    | _ => none

/-- Nothing of the source changes. -/
structure Same (src : ι → Source) (s : Source) (σ τ : State ι ω) : Prop where
  count : τ.count s = σ.count s
  threadId : τ.threadId s = σ.threadId s
  stage : ∀ i, src i = s → τ.stage i = σ.stage i
  inQ : ∀ w, ofSource src s (τ.inQ w) = ofSource src s (σ.inQ w)
  called : ofSource src s τ.called = ofSource src s σ.called
  pushed : ofSource src s τ.pushed = ofSource src s σ.pushed
  taken : ofSource src s τ.taken = ofSource src s σ.taken
  output : τ.output = .releasing s ↔ σ.output = .releasing s

omit [DecidableEq ι] [DecidableEq ω] in
theorem Same.pending (h : Same src s σ τ) : pending src s τ = pending src s σ := by
  funext i
  unfold State.pending
  by_cases hi : src i = s
  · rw [h.stage i hi]
  · simp [hi]

omit [DecidableEq ι] [DecidableEq ω] in
theorem Same.backlog (h : Same src s σ τ) :
    backlog src s τ.inQ (τ.threadId s) = backlog src s σ.inQ (σ.threadId s) := by
  rw [h.threadId]
  cases σ.threadId s with
  | none => rfl
  | some w => exact h.inQ w

omit [DecidableEq ι] [DecidableEq ω] in
theorem Inv.same (hσ : Inv src s σ) (h : Same src s σ τ) : Inv src s τ where
  worker i w hi hw := by
    rw [h.stage i hi] at hw
    rw [h.threadId]
    exact hσ.worker i w hi hw
  order := by rw [h.pushed, h.taken, h.backlog, hσ.order]
  called := by
    rw [h.pushed, h.called]
    exact hσ.called
  counted := by
    rw [h.count, h.pending]
    exact hσ.counted
  released := by
    rw [h.threadId, h.count, h.output]
    exact hσ.released
  releasing hout i hi := by
    rw [h.stage i hi]
    exact hσ.releasing (h.output.1 hout) i hi

omit [DecidableEq ω] in
theorem stage_of_ne (hi : src i ≠ s) (x : Stage ω) (j : ι) (hj : src j = s) :
    Function.update σ.stage i x j = σ.stage j :=
  Function.update_of_ne (fun h : j = i => hi (h ▸ hj)) ..

omit [DecidableEq ι] in
theorem ofSource_push (hi : src i ≠ s) (v : ω) :
    ofSource src s (Function.update σ.inQ w (σ.inQ w ++ [i]) v) = ofSource src s (σ.inQ v) := by
  rcases eq_or_ne v w with rfl | hv
  · rw [Function.update_self, ofSource_append, ofSource_cons_of_ne hi]
    exact List.append_nil _
  · rw [Function.update_of_ne hv]

omit [DecidableEq ι] in
theorem ofSource_take (hi : src i ≠ s) {q : List ι} (hq : σ.inQ w = i :: q) (v : ω) :
    ofSource src s (Function.update σ.inQ w q v) = ofSource src s (σ.inQ v) := by
  rcases eq_or_ne v w with rfl | hv
  · rw [Function.update_self, hq, ofSource_cons_of_ne hi]
  · rw [Function.update_of_ne hv]

omit [DecidableEq ι] in
theorem ofSource_concat_of_ne (hi : src i ≠ s) (l : List ι) : ofSource src s (l ++ [i]) = ofSource src s l := by
  rw [ofSource_append, ofSource_cons_of_ne hi]
  exact List.append_nil _

omit [DecidableEq ι] [DecidableEq ω] in
theorem output_unassign (t : Source) : (σ.unassign t).output = .releasing s ↔ t = s ∧ σ.count s = 1 := by
  unfold unassign
  by_cases h : σ.count t - 1 = 0
  · simp only [h, if_true, Output.releasing.injEq]
    constructor
    · rintro rfl
      exact ⟨rfl, by omega⟩
    · exact And.left
  · simp only [h, if_false, reduceCtorEq, false_iff]
    rintro ⟨rfl, h'⟩
    omega

/-- A step leaves the other sources alone. -/
theorem Step.same {e : Event ι ω} (hs : Step src limits σ e τ) (he : σ.sourceOf src e ≠ some s) : Same src s σ τ := by
  cases hs with
  | call i hi =>
    have hne : src i ≠ s := fun h => he (congrArg some h)
    exact ⟨Function.update_of_ne hne.symm .., rfl, stage_of_ne hne _, fun _ => rfl, ofSource_concat_of_ne hne _, rfl, rfl,
      Iff.rfl⟩
  | readNone i hi _ =>
    exact ⟨rfl, rfl, stage_of_ne (fun h => he (congrArg some h)) _, fun _ => rfl, rfl, rfl, rfl, Iff.rfl⟩
  | readSome i w hi _ _ =>
    exact ⟨rfl, rfl, stage_of_ne (fun h => he (congrArg some h)) _, fun _ => rfl, rfl, rfl, rfl, Iff.rfl⟩
  | choose i w hi =>
    exact ⟨rfl, rfl, stage_of_ne (fun h => he (congrArg some h)) _, fun _ => rfl, rfl, rfl, rfl, Iff.rfl⟩
  | store i w hi =>
    have hne : src i ≠ s := fun h => he (congrArg some h)
    exact ⟨rfl, Function.update_of_ne hne.symm .., stage_of_ne hne _, fun _ => rfl, rfl, rfl, rfl, Iff.rfl⟩
  | push i w hi _ =>
    have hne : src i ≠ s := fun h => he (congrArg some h)
    exact ⟨rfl, rfl, stage_of_ne hne _, ofSource_push hne, rfl, ofSource_concat_of_ne hne _, rfl, Iff.rfl⟩
  | full i w hi _ =>
    exact ⟨rfl, rfl, stage_of_ne (fun h => he (congrArg some h)) _, fun _ => rfl, rfl, rfl, rfl, Iff.rfl⟩
  | take w i q _ hq =>
    have hne : src i ≠ s := fun h => he (by simp [sourceOf, hq, h])
    exact ⟨rfl, rfl, stage_of_ne hne _, ofSource_take hne hq, rfl, rfl, ofSource_concat_of_ne hne _, Iff.rfl⟩
  | drop w i hw _ _ =>
    have hne : src i ≠ s := fun h => he (by simp [sourceOf, hw, h])
    exact ⟨rfl, rfl, stage_of_ne hne _, fun _ => rfl, rfl, rfl, rfl, Iff.rfl⟩
  | check w i hw _ _ =>
    have hne : src i ≠ s := fun h => he (by simp [sourceOf, hw, h])
    exact ⟨rfl, rfl, stage_of_ne hne _, fun _ => rfl, rfl, rfl, rfl, Iff.rfl⟩
  | finish w i hw _ _ =>
    have hne : src i ≠ s := fun h => he (by simp [sourceOf, hw, h])
    exact ⟨rfl, rfl, stage_of_ne hne _, fun _ => rfl, rfl, rfl, rfl, Iff.rfl⟩
  | outFull w i hw _ _ =>
    have hne : src i ≠ s := fun h => he (by simp [sourceOf, hw, h])
    exact ⟨rfl, rfl, stage_of_ne hne _, fun _ => rfl, rfl, rfl, rfl, Iff.rfl⟩
  | send w =>
    unfold State.send
    split
    · exact ⟨rfl, rfl, fun _ _ => rfl, fun _ => rfl, rfl, rfl, rfl, Iff.rfl⟩
    · exact ⟨rfl, rfl, fun _ _ => rfl, fun _ => rfl, rfl, rfl, rfl, Iff.rfl⟩
  | popMessage w q hidle _ =>
    exact ⟨rfl, rfl, fun _ _ => rfl, fun _ => rfl, rfl, rfl, rfl, by simp [hidle]⟩
  | pop w i q hidle hq =>
    have hne : src i ≠ s := fun h => he (by simp [sourceOf, hq, h])
    exact ⟨rfl, rfl, stage_of_ne hne _, fun _ => rfl, rfl, rfl, rfl, by simp [hidle]⟩
  | unassignMessage hout =>
    have hne : (0, 0) ≠ s := fun h => he (by simp [sourceOf, hout, ← h])
    exact ⟨Function.update_of_ne hne.symm .., rfl, fun _ _ => rfl, fun _ => rfl, rfl, rfl, rfl, by
      simp [output_unassign, hne, hout]⟩
  | unassign i hout =>
    have hne : src i ≠ s := fun h => he (by simp [sourceOf, hout, h])
    exact ⟨Function.update_of_ne hne.symm .., rfl, stage_of_ne hne _, fun _ => rfl, rfl, rfl, rfl, by
      simp [output_unassign, hne, hout]⟩
  | release t hout =>
    have hne : t ≠ s := fun h => he (by simp [sourceOf, hout, h])
    exact ⟨rfl, Function.update_of_ne hne.symm .., fun _ _ => rfl, fun _ => rfl, rfl, rfl, rfl, by simp [hout, hne]⟩

omit [DecidableEq ω] in
theorem forall_move {P : ι → Stage ω → Prop} (h : ∀ j, src j = s → P j (σ.stage j)) (hx : P i x) (j : ι) (hj : src j = s) :
    P j (Function.update σ.stage i x j) := by
  rcases eq_or_ne j i with rfl | hne
  · rwa [Function.update_self]
  · rw [Function.update_of_ne hne]
    exact h j hj

omit [DecidableEq ω] in
theorem pending_move (hi : src i = s) (hstage : τ.stage = Function.update σ.stage i x) :
    pending src s τ = Function.update (pending src s σ) i x.live := by
  funext j
  unfold pending
  rw [hstage]
  rcases eq_or_ne j i with rfl | hne
  · simp [hi]
  · simp [hne]

omit [DecidableEq ι] [DecidableEq ω] in
/-- While an item is pending the assignment stays. -/
theorem InOrder.count_pos (h : InOrder src s σ) (hi : src i = s) (hlive : (σ.stage i).live = true) : 0 < σ.count s := by
  by_contra hpos
  have hfalse : pending src s σ i = false := h.counted.eq_false hpos i
  simp [pending, hi, hlive] at hfalse

/-- A queue has no item of a source of which no item has this worker. -/
theorem Places.ofSource_eq_nil (h : Places σ) (hw : ∀ i, src i = s → (σ.stage i).worker ≠ some w) :
    ofSource src s (σ.inQ w) = [] := by
  refine List.filter_eq_nil_iff.2 fun i hi hsrc => ?_
  refine hw i (by simpa using hsrc) ?_
  rw [h.queued hi]
  rfl

omit [DecidableEq ω] in
/-- An item of the source goes on, pending as before. -/
theorem Inv.move (h : Inv src s σ) (hi : src i = s) (hstage : τ.stage = Function.update σ.stage i x)
    (hid : τ.threadId = σ.threadId) (hcount : τ.count = σ.count)
    (houtput : τ.output = .releasing s ↔ σ.output = .releasing s) (hlive : x.live = (σ.stage i).live)
    (hworker : ∀ w, x.worker = some w → σ.threadId s = some w)
    (hreleasing : σ.output = .releasing s → x.worker = none ∧ x.undecided = false)
    (horder : ofSource src s τ.pushed = ofSource src s τ.taken ++ backlog src s τ.inQ (τ.threadId s))
    (hcalled : ofSource src s τ.pushed <+: ofSource src s τ.called) : Inv src s τ where
  worker j w hj := by
    rw [hstage, hid]
    exact forall_move (P := fun _ y => y.worker = some w → σ.threadId s = some w) (fun j hj => h.worker j w hj)
      (hworker w) j hj
  order := horder
  called := hcalled
  counted := by
    rw [hcount, pending_move hi hstage]
    refine h.counted.stay ?_
    simp [pending, hi, hlive]
  released := by
    rw [hid, hcount, houtput]
    exact h.released
  releasing hout := by
    rw [hstage]
    exact forall_move (P := fun _ y => y.worker = none ∧ y.undecided = false) (h.releasing (houtput.1 hout))
      (hreleasing (houtput.1 hout))

omit [DecidableEq ω] in
theorem Inv.call (h : Inv src s σ) (hi : src i = s) (hfresh : σ.stage i = .fresh) : Inv src s { σ.move i .counted with
    count := Function.update σ.count (src i) (σ.count (src i) + 1)
    called := σ.called ++ [i] } where
  worker j w hj :=
    forall_move (P := fun _ y => y.worker = some w → σ.threadId s = some w) (fun j hj => h.worker j w hj)
      (fun hw => by cases hw) j hj
  order := h.order
  called := by
    rw [ofSource_append]
    exact h.called.trans (List.prefix_append ..)
  counted := by
    rw [hi, pending_move hi rfl]
    change Threads.Counted (Function.update σ.count s _ s) id _
    rw [Function.update_self]
    exact h.counted.enter (by simp [pending, hi, hfresh, Stage.live]) rfl
  released := by
    refine .inr (.inl ?_)
    change 0 < Function.update σ.count (src i) (σ.count (src i) + 1) s
    rw [hi, Function.update_self]
    have hcount := h.counted.nonneg
    omega
  releasing hout := forall_move (P := fun _ y => y.worker = none ∧ y.undecided = false) (h.releasing hout) ⟨rfl, rfl⟩

theorem Inv.store (h : Inv src s σ) (hσ : Places σ) (hi : src i = s) (hstoring : σ.stage i = .storing w)
    (hid : σ.threadId s = none ∨ σ.threadId s = some w) : Inv src s { σ.move i (.pushing w) with
      threadId := Function.update σ.threadId (src i) (some w) } := by
  have hnot : σ.output ≠ .releasing s := fun hout => by simpa [hstoring, Stage.undecided] using (h.releasing hout i hi).2
  have hworker : ∀ j v, src j = s → (σ.stage j).worker = some v → some w = some v := by
    intro j v hj hv
    have hv' := h.worker j v hj hv
    rcases hid with hid | hid
    · simp [hid] at hv'
    · exact hid.symm.trans hv'
  have hself : Function.update σ.threadId (src i) (some w) s = some w := by rw [hi, Function.update_self]
  refine ⟨⟨fun j v hj => ?_, ?_, h.called, ?_, .inr (.inl (h.count_pos hi (by simp [hstoring, Stage.live])))⟩,
    fun hout => absurd hout hnot⟩
  · change _ → Function.update σ.threadId (src i) (some w) s = some v
    rw [hself]
    exact forall_move (P := fun _ y => y.worker = some v → some w = some v) (fun j hj => hworker j v hj) id j hj
  · refine h.order.trans (congrArg _ ?_)
    change _ = backlog src s σ.inQ (Function.update σ.threadId (src i) (some w) s)
    rw [hself]
    rcases hid with hid | hid
    · rw [hid]
      refine (hσ.ofSource_eq_nil fun j hj hw => ?_).symm
      simpa [hid] using h.worker j w hj hw
    · rw [hid]
  · rw [pending_move hi rfl]
    exact h.counted.stay (by simp [pending, hi, hstoring, Stage.live])

theorem Inv.push (h : Inv src s σ) (hi : src i = s) (hpushing : σ.stage i = .pushing w)
    (hcalled : ofSource src s (σ.pushed ++ [i]) <+: ofSource src s σ.called) : Inv src s { σ.move i (.queued w) with
      inQ := Function.update σ.inQ w (σ.inQ w ++ [i])
      pushed := σ.pushed ++ [i] } := by
  have hw : σ.threadId s = some w := h.worker i w hi (by rw [hpushing]; rfl)
  refine h.move hi rfl rfl rfl Iff.rfl (by rw [hpushing]; rfl) (fun v hv => hw.trans hv) (fun hout => ?_) ?_ hcalled
  · have hnone := (h.releasing hout i hi).1
    rw [hpushing] at hnone
    cases hnone
  · change ofSource src s (σ.pushed ++ [i]) =
      ofSource src s σ.taken ++ backlog src s (Function.update σ.inQ w (σ.inQ w ++ [i])) (σ.threadId s)
    have horder := h.order
    rw [hw] at horder ⊢
    simp only [backlog, Function.update_self, ofSource_append] at horder ⊢
    rw [horder, List.append_assoc]

theorem Inv.take (h : Inv src s σ) (hσ : Places σ) (hi : src i = s) {q : List ι} (hq : σ.inQ w = i :: q)
    (b : ω → Option ι) : Inv src s { σ.move i (.working w) with
      inQ := Function.update σ.inQ w q
      working := b
      taken := σ.taken ++ [i] } := by
  have hqueued : σ.stage i = .queued w := hσ.queued (hq ▸ List.mem_cons_self)
  have hw : σ.threadId s = some w := h.worker i w hi (by rw [hqueued]; rfl)
  refine h.move hi rfl rfl rfl Iff.rfl (by rw [hqueued]; rfl) (fun v hv => hw.trans hv) (fun hout => ?_) ?_ h.called
  · have hnone := (h.releasing hout i hi).1
    rw [hqueued] at hnone
    cases hnone
  · change ofSource src s σ.pushed =
      ofSource src s (σ.taken ++ [i]) ++ backlog src s (Function.update σ.inQ w q) (σ.threadId s)
    have horder := h.order
    rw [hw] at horder ⊢
    simp only [backlog, hq, ofSource_cons hi] at horder
    simp only [backlog, Function.update_self, ofSource_append, ofSource_cons hi, List.append_assoc, horder]
    rfl

theorem Inv.unassign (h : Inv src s σ) (hσ : Places σ) (hi : src i = s) (hout : σ.output = .cleanup (some i)) :
    Inv src s ((σ.move i .done).unassign s) := by
  have hcleaning : σ.stage i = .cleaning := hσ.cleanup i hout
  have hcounted : Threads.Counted (σ.count s - 1) id (pending src s ((σ.move i .done).unassign s)) := by
    rw [pending_move (σ := σ) hi rfl]
    exact h.counted.leave (by simp [pending, hi, hcleaning, Stage.live]) rfl
  have hself : ((σ.move i .done).unassign s).count s = σ.count s - 1 := Function.update_self ..
  refine ⟨⟨fun j w hj => ?_, h.order, h.called, hself ▸ hcounted, ?_⟩, fun hrel j hj => ?_⟩
  · exact forall_move (P := fun _ y => y.worker = some w → σ.threadId s = some w) (fun j hj => h.worker j w hj)
      (fun hw => by cases hw) j hj
  · rw [hself, output_unassign]
    change _ ∨ _ ∨ _ ∧ σ.count s = 1
    have hnonneg := hcounted.nonneg
    by_cases hone : σ.count s = 1
    · exact .inr (.inr ⟨rfl, hone⟩)
    · exact .inr (.inl (by omega))
  · -- nothing is pending any more
    have hone : σ.count s = 1 := ((output_unassign s).1 hrel).2
    have hfalse := hcounted.eq_false (by omega) j
    have hlive : (((σ.move i .done).unassign s).stage j).live = false := by simpa [pending, hj] using hfalse
    generalize ((σ.move i .done).unassign s).stage j = y at hlive
    cases y <;> first | exact ⟨rfl, rfl⟩ | cases hlive

theorem Inv.release (h : Inv src s σ) (hσ : Places σ) (hout : σ.output = .releasing s) :
    Inv src s { σ with threadId := Function.update σ.threadId s none, output := .idle } := by
  have hself : Function.update σ.threadId s none s = none := Function.update_self ..
  refine ⟨⟨fun j w hj hw => ?_, ?_, h.called, h.counted, .inl hself⟩, fun hidle => by cases hidle⟩
  · rw [(h.releasing hout j hj).1] at hw
    cases hw
  · refine h.order.trans (congrArg _ ?_)
    change _ = backlog src s σ.inQ (Function.update σ.threadId s none s)
    rw [hself]
    cases hid : σ.threadId s with
    | none => rfl
    | some w =>
      refine hσ.ofSource_eq_nil fun j hj => ?_
      rw [(h.releasing hout j hj).1]
      exact Option.some_ne_none w ∘ Eq.symm

/-- What keeps the items of a source together. A call reads the thread id while the output thread is not about to store
-1, it stores its thread where no other one is stored, the pushes come in the order of the calls, and the queues have
room. -/
def Undisturbed (src : ι → Source) (limits : Limits) (σ : State ι ω) : Event ι ω → Prop
  | .read i => σ.output ≠ .releasing (src i)
  | .store i => σ.threadId (src i) = none ∨ σ.threadId (src i) = (σ.stage i).chosen
  | .push i => (∀ w ∈ (σ.stage i).worker, (σ.inQ w).length < limits.capacity) ∧
      ofSource src (src i) (σ.pushed ++ [i]) <+: ofSource src (src i) σ.called
  | .check w => σ.overflows limits w = false
  | .finish w => (σ.outQ w).length < limits.capacity
  | _ => True

/-- The condition on a run, for one source. -/
def Keeps (src : ι → Source) (limits : Limits) (s : Source) (σ : State ι ω) (e : Event ι ω) : Prop :=
  σ.sourceOf src e = some s → σ.Undisturbed src limits e

theorem Inv.step {e : Event ι ω} (h : Inv src s σ) (hσ : Places σ) (hs : s ≠ (0, 0)) (hkeeps : Keeps src limits s σ e)
    (hstep : Step src limits σ e τ) : Inv src s τ := by
  by_cases he : σ.sourceOf src e = some s
  swap
  · exact h.same (hstep.same he)
  have hund := hkeeps he
  clear hkeeps
  cases hstep with
  | call i hi => exact h.call (Option.some.inj he) hi
  | readNone i hi _ =>
    have hsrc : src i = s := Option.some.inj he
    exact h.move hsrc rfl rfl rfl Iff.rfl (by rw [hi]; rfl) (fun w hw => by cases hw)
      (fun hout => absurd (hsrc ▸ hout) hund) h.order h.called
  | readSome i w hi _ hw =>
    have hsrc : src i = s := Option.some.inj he
    exact h.move hsrc rfl rfl rfl Iff.rfl (by rw [hi]; rfl) (fun v hv => hsrc ▸ hw.trans hv)
      (fun hout => absurd (hsrc ▸ hout) hund) h.order h.called
  | choose i w hi =>
    have hsrc : src i = s := Option.some.inj he
    refine h.move hsrc rfl rfl rfl Iff.rfl (by rw [hi]; rfl) (fun v hv => by cases hv) (fun hout => ?_) h.order h.called
    simpa [hi, Stage.undecided] using (h.releasing hout i hsrc).2
  | store i w hi =>
    have hsrc : src i = s := Option.some.inj he
    have hid : σ.threadId (src i) = none ∨ σ.threadId (src i) = (σ.stage i).chosen := hund
    rw [hi, hsrc] at hid
    exact h.store hσ hsrc hi hid
  | push i w hi hroom =>
    have hsrc : src i = s := Option.some.inj he
    exact h.push hsrc hi (hsrc ▸ hund.2)
  | full i w hi hfull =>
    exact absurd (hund.1 w (by rw [hi]; rfl)) hfull
  | take w i q _ hq =>
    have hsrc : src i = s := by simpa [sourceOf, hq] using he
    exact h.take hσ hsrc hq _
  | drop w i hw hi hover => exact absurd hover (Bool.eq_false_iff.1 hund)
  | check w i hw hi _ =>
    have hsrc : src i = s := by simpa [sourceOf, hw] using he
    have hid : σ.threadId s = some w := h.worker i w hsrc (by rw [hi]; rfl)
    refine h.move hsrc rfl rfl rfl Iff.rfl (by rw [hi]; rfl) (fun v hv => hid.trans hv) (fun hout => ?_) h.order h.called
    simpa [hi, Stage.worker] using (h.releasing hout i hsrc).1
  | finish w i hw hi _ =>
    have hsrc : src i = s := by simpa [sourceOf, hw] using he
    have hid : σ.threadId s = some w := h.worker i w hsrc (by rw [hi]; rfl)
    refine h.move hsrc rfl rfl rfl Iff.rfl (by rw [hi]; rfl) (fun v hv => hid.trans hv) (fun hout => ?_) h.order h.called
    simpa [hi, Stage.worker] using (h.releasing hout i hsrc).1
  | outFull w i hw hi hfull => exact absurd hund hfull
  | send w => cases he
  | popMessage w q _ hq => simp [sourceOf, hq] at he
  | pop w i q hidle hq =>
    have hsrc : src i = s := by simpa [sourceOf, hq] using he
    have hi : σ.stage i = .outgoing w := hσ.outgoing (hq ▸ List.mem_cons_self)
    exact h.move hsrc rfl rfl rfl (by simp [hidle]) (by rw [hi]; rfl) (fun v hv => by cases hv)
      (fun hout => by simp [hidle] at hout) h.order h.called
  | unassignMessage hout =>
    simp only [sourceOf, hout] at he
    exact absurd (Option.some.inj he).symm hs
  | unassign i hout =>
    have hsrc : src i = s := by simpa [sourceOf, hout] using he
    exact hsrc ▸ h.unassign hσ hsrc hout
  | release t hout =>
    obtain rfl : t = s := by simpa [sourceOf, hout] using he
    exact h.release hσ hout

omit [DecidableEq ι] [DecidableEq ω] in
theorem Inv.init : Inv src s (State.init : State ι ω) where
  worker _ _ _ hw := by cases hw
  order := rfl
  called := List.prefix_rfl
  counted := .zero fun i => by simp [pending, State.init, Stage.live]
  released := .inl rfl
  releasing hout := by cases hout

instance (e : Event ι ω) : Decidable (σ.Undisturbed src limits e) :=
  match e with
  | .read i => inferInstanceAs (Decidable (σ.output ≠ .releasing (src i)))
  | .store i => inferInstanceAs (Decidable (σ.threadId (src i) = none ∨ σ.threadId (src i) = (σ.stage i).chosen))
  | .push i => inferInstanceAs (Decidable ((∀ w ∈ (σ.stage i).worker, (σ.inQ w).length < limits.capacity) ∧
      ofSource src (src i) (σ.pushed ++ [i]) <+: ofSource src (src i) σ.called))
  | .check w => inferInstanceAs (Decidable (σ.overflows limits w = false))
  | .finish w => inferInstanceAs (Decidable ((σ.outQ w).length < limits.capacity))
  | .call _ | .choose _ _ | .take _ | .send _ | .pop _ | .unassign | .release => isTrue trivial

instance (e : Event ι ω) : Decidable (Keeps src limits s σ e) :=
  inferInstanceAs (Decidable (σ.sourceOf src e = some s → σ.Undisturbed src limits e))

end State
open State
variable {s : Source} {σ : State ι ω}

/-- Every source but (0, 0) whose steps are undisturbed keeps to one worker. -/
theorem per_source_ordering (hs : s ≠ (0, 0)) {es : List (Event ι ω)}
    (hmeets : (manager src limits).Meets (Keeps src limits s) (manager src limits).init es)
    (hrun : (manager src limits).exec (manager src limits).init es = some σ) : InOrder src s σ := by
  refine (Machine.invariant_meets (I := fun σ => Places σ ∧ Inv src s σ) ⟨Places.init, Inv.init⟩ ?_ hmeets hrun).2.toInOrder
  intro σ e τ ⟨hplaces, hinv⟩ hkeeps hstep
  exact ⟨hplaces.step (step_cases hstep), hinv.step hplaces hs hkeeps (step_cases hstep)⟩

def oneSource (_ : Fin 3) : Source := (1, 0)

/-- The queues of the worker threads; no overflow is configured. -/
def defaults : Limits := ⟨20480, 0⟩

def twoItems : List (Event (Fin 3) (Fin 2)) :=
  [.call 0, .read 0, .choose 0 1, .store 0, .push 0, .call 1, .read 1, .take 1, .check 1, .push 1, .finish 1, .pop 1,
    .unassign, .take 1]

theorem per_source_ordering_two_items : ∃ σ, (manager oneSource defaults).exec (manager oneSource defaults).init twoItems =
    some σ ∧ InOrder oneSource (1, 0) σ := by
  obtain ⟨σ, hσ⟩ : ∃ σ, (manager oneSource defaults).exec (manager oneSource defaults).init twoItems = some σ :=
    Option.isSome_iff_exists.1 (by decide +kernel)
  exact ⟨σ, hσ, per_source_ordering (by decide) (by decide +kernel) hσ⟩

/-- The second call reads the thread id before -1 is stored, the third one behind. -/
def released : List (Event (Fin 3) (Fin 2)) :=
  [.call 0, .read 0, .choose 0 0, .store 0, .push 0, .take 0, .check 0, .finish 0, .pop 0, .unassign, .call 1, .read 1,
    .release, .push 1, .call 2, .read 2, .choose 2 1, .store 2, .push 2]

theorem per_source_ordering_released : ¬ ∀ (src : Fin 3 → Source) (limits : Limits) (s : Source)
    (es : List (Event (Fin 3) (Fin 2))) (σ : State (Fin 3) (Fin 2)), s ≠ (0, 0) →
    (manager src limits).exec (manager src limits).init es = some σ → InOrder src s σ := by
  intro h
  obtain ⟨σ, hσ⟩ : ∃ σ, (manager oneSource defaults).exec (manager oneSource defaults).init released = some σ :=
    Option.isSome_iff_exists.1 (by decide +kernel)
  have hstage : ((manager oneSource defaults).exec (manager oneSource defaults).init released).map
      (fun σ => (σ.stage 1, σ.stage 2)) = some (.queued 0, .queued 1) := by decide +kernel
  rw [hσ] at hstage
  have horder := h oneSource defaults (1, 0) released σ (by decide) hσ
  obtain ⟨h1, h2⟩ := Prod.mk.inj (Option.some.inj hstage)
  have hw1 := horder.worker 1 0 rfl (by rw [h1]; rfl)
  have hw2 := horder.worker 2 1 rfl (by rw [h2]; rfl)
  exact absurd (hw1.symm.trans hw2) (by decide)

end V2xHub.MessageManager
