import V2xHub.RouteableMessage.Headers

/-!
# Who owns the structures and the texts

Each object owns one live structure, and each text of it is live and says what the header should; a text that an allocator
remembers is in the structure, or was freed with an earlier one. A second free needs a text that was set before a change of
contents and is set after it.
-/

namespace V2xHub.RouteableMessage

/-- Nothing is freed twice or used after it was freed, no two objects own one structure, the getters return what was set or
taken over last, and so does the structure say. -/
structure Sane (s : State) : Prop where
  fault : s.fault = false ∧ ∀ i r, s.objects i = some r → r.fault = false
  owner : ∀ i j r r', s.objects i = some r → s.objects j = some r' → (r.home, r.ivpMsg) = (r'.home, r'.ivpMsg) → i = j
  getters : ∀ i r, s.objects i = some r → (∀ f, (r.getText f).1 = some (r.header.text f)) ∧
    (∀ f, (r.getNumber f).1 = some (r.header.number f)) ∧ ∀ f, (r.getDsrc f).1 = some (r.header.dsrc f)
  message : ∀ i r, s.objects i = some r → ∃ m, r.get_message = some m ∧ m.header = r.header ∧ m.payload = r.payload

/-! ### The condition -/

/-- Where the new contents leave a field unset, the container has nothing else for it. -/
structure Taken (k : Container) (c : Contents) : Prop where
  text : ∀ f, c.text f = none → (k.text f).getD f.default_value = f.default_value
  number : ∀ f, c.number f = 0 → k.number f = none ∨ k.number f = some (some 0)
  metadata : ∀ d, c.dsrcMetadata = some d → ∀ f, d f = 0 → k.dsrc f = some (some 0)
  unbound : c.dsrcMetadata = none → ∀ f, k.dsrc f = none ∨ k.dsrc f = some (some (-1))

/-- And no text that is filled in at once was ever set, nor are the DSRC attributes bound if there are no metadata. -/
structure Replaces (r : Routeable) (c : Contents) : Prop where
  taken : Taken r.container c
  str : ∀ f, f ≠ .source → c.text f = none → r.str f = none
  bound : c.dsrcMetadata = none → r.dsrcBound = none

/-- The text that was set last is the one in the structure. -/
def Assignable (r : Routeable) (f : TextField) : Prop :=
  ∀ p c, r.struct = some (p, c) → r.str f = none ∨ r.str f = c.text f

def Sound (p : Parsers) (s : State) : Event → Prop
  | .construct _ msg now => Taken .empty (contentsOr now msg)
  | .constructText _ text now => ∀ k, p.load text = some k → Taken k (contentsOr now (IvpMessage.parse p.libc text))
  | .assign i j => i = j
  | .set_contents i msg now => ∀ r, s.objects i = some r → Replaces r (contentsOr now msg)
  | .set_contentsOf i j => i ≠ j ∧ ∀ r r' c, s.objects i = some r → s.objects j = some r' → r'.get_message = some c → Replaces r c
  | .set_text i text => ∀ r k m, s.objects i = some r → p.load text = some k → r.get_message = some m → Taken k m
  | .reinit i text now => ∀ r k, s.objects i = some r → reloaded p r text = some k →
      Replaces { r with container := k } (contentsOr now (IvpMessage.parse p.libc text))
  | .getText i f => ∀ r, s.objects i = some r → ∀ p c, r.struct = some (p, c) → c.text f = none → r.str f = none
  | .setText i f data => c_str data = data ∧ ∀ r, s.objects i = some r → Assignable r f
  | .set_payload i encoding _ => c_str encoding = encoding ∧ ∀ r, s.objects i = some r → Assignable r .encoding
  | .setDsrc i _ n => ∀ r, s.objects i = some r → n = -1 ∨ r.dsrcBound ≠ none
  | .addDsrcMetadata i d => ∀ r, s.objects i = some r → ∀ f, d f = 0 → r.container.dsrc f = some (some 0)
  | _ => True

/-! ### One object -/

/-- The object with its live structure. -/
structure Coherent (r : Routeable) (p : Nat) (c : Struct) : Prop where
  fault : r.fault = false
  ivpMsg : r.ivpMsg = some p
  message : r.messages.cell p = some c
  fresh : ∀ q, r.texts.Live q → q.1 < r.next
  text : ∀ f q, c.text f = some q → q.2 = f ∧ r.texts.cell q = some (r.header.text f)
  null : ∀ f, c.text f = none → r.header.text f = f.default_value ∧ (r.container.text f).getD f.default_value = f.default_value
  str : ∀ f q, r.str f = some q → q.1 < r.next ∧ q.2 = f ∧ (c.text f = some q ∨ ¬ r.texts.Live q)
  number : c.number = r.header.number
  zero : ∀ f, c.number f = 0 → r.container.number f = none ∨ r.container.number f = some (some 0)
  bound : r.dsrcBound = c.dsrcMetadata
  metadata : ∀ b, c.dsrcMetadata = some b → r.metadata.cell b = some r.header.dsrc
  blank : c.dsrcMetadata ≠ none → ∀ f, r.header.dsrc f = 0 → r.container.dsrc f = some (some 0)
  unbound : c.dsrcMetadata = none → r.header.dsrc = noMetadata ∧ ∀ f, r.container.dsrc f = none ∨ r.container.dsrc f = some (some (-1))
  internal : ∀ f, r.internal f = none ∨ r.internal f = some (-1)
  payload : c.payload = r.payload

/-- The object between two structures. -/
structure Vacant (r : Routeable) : Prop where
  fault : r.fault = false
  fresh : ∀ q, r.texts.Live q → q.1 < r.next
  str : ∀ f q, r.str f = some q → q.1 < r.next ∧ q.2 = f ∧ ¬ r.texts.Live q
  internal : ∀ f, r.internal f = none ∨ r.internal f = some (-1)

variable {r : Routeable} {p : Nat} {c : Struct} {m : Contents} {f : TextField} {s t : State} {prs : Parsers}

theorem fault_eq_false : r.fault = false ↔ r.texts.fault = false ∧ r.messages.fault = false ∧ r.metadata.fault = false := by
  simp [Routeable.fault, and_assoc]

theorem Coherent.struct (h : Coherent r p c) : r.struct = some (p, c) := by
  rw [Routeable.struct, h.ivpMsg, Option.bind_some, h.message, Option.map_some]

theorem c_str_default (f : TextField) : c_str f.default_value = f.default_value := by
  cases f <;> decide

/-- The text that was set last is freed, and no text of another field. -/
theorem Coherent.free_text (h : Coherent r p c) (hstr : r.str f = none ∨ r.str f = c.text f) {freed : Heap TextPtr Str}
    (hfreed : freed = (r.str f).elim r.texts r.texts.free) :
    freed.fault = false ∧ (∀ q, q.2 ≠ f → freed.cell q = r.texts.cell q) ∧ ∀ q, freed.Live q → r.texts.Live q := by
  have hfault := (fault_eq_false.1 h.fault).1
  rcases hold : r.str f with _ | q'
  · rw [hold, Option.elim_none] at hfreed
    subst hfreed
    exact ⟨hfault, fun q _ => rfl, fun q hlive => hlive⟩
  · have hq' : c.text f = some q' := by rw [← hstr.resolve_left (by rw [hold]; exact Option.some_ne_none q'), hold]
    rw [hold, Option.elim_some] at hfreed
    subst hfreed
    refine ⟨(Heap.live_of_eq_some (h.text f q' hq').2).free_fault.trans hfault, fun q hne => ?_, fun q hlive => ?_⟩
    · refine Heap.free_of_ne fun heq => hne ?_
      rw [heq]
      exact (h.str f q' hold).2.1
    · by_cases hq : q = q'
      · subst hq
        exact absurd hlive (by simp [Heap.Live])
      · rwa [Heap.Live, Heap.free_of_ne hq] at hlive

theorem Coherent.setText (h : Coherent r p c) {data : Str} (hdata : c_str data = data)
    (hstr : r.str f = none ∨ r.str f = c.text f) :
    Coherent (r.setText f data) p { c with text := Function.update c.text f (some (r.next, f)) } := by
  obtain ⟨-, hfm, hfd⟩ := fault_eq_false.1 h.fault
  set freed := (r.str f).elim r.texts r.texts.free with hfreed
  obtain ⟨hfreedFault, hkept, hgone⟩ := h.free_text hstr hfreed
  have hr : r.setText f data = { r with
      texts := freed.set (r.next, f) data
      str := Function.update r.str f (some (r.next, f))
      messages := r.messages.set p { c with text := Function.update c.text f (some (r.next, f)) }
      next := r.next + 1
      container := r.container.putText f data
      header := { r.header with text := Function.update r.header.text f data } } := by
    simp only [Routeable.setText, Routeable.assignText, h.struct, hdata, hfreed]
  rw [hr]
  refine ⟨fault_eq_false.2 ⟨hfreedFault, hfm, hfd⟩, h.ivpMsg, Heap.set_self, fun q hlive => ?_, fun g q hq => ?_, fun g hg => ?_,
    fun g q hq => ?_, h.number, h.zero, h.bound, h.metadata, h.blank, h.unbound, h.internal, h.payload⟩
  · by_cases hq : q = (r.next, f)
    · rw [hq]
      exact Nat.lt_succ_self _
    · rw [Heap.Live, Heap.set_of_ne hq] at hlive
      exact Nat.lt_succ_of_lt (h.fresh q (hgone q hlive))
  · by_cases hg : g = f
    · subst hg
      simp only [Function.update_self, Option.some.injEq] at hq ⊢
      subst hq
      exact ⟨rfl, Heap.set_self⟩
    · simp only [Function.update_of_ne hg] at hq ⊢
      obtain ⟨hq2, hcell⟩ := h.text g q hq
      have hqf : q.2 ≠ f := fun heq => hg (hq2.symm.trans heq)
      refine ⟨hq2, ?_⟩
      rw [Heap.set_of_ne fun heq => hqf (by rw [heq]), hkept q hqf, hcell]
  · by_cases hgf : g = f
    · subst hgf
      simp at hg
    · simp only [Function.update_of_ne hgf, Container.putText] at hg ⊢
      exact h.null g hg
  · by_cases hg : g = f
    · subst hg
      simp only [Function.update_self, Option.some.injEq] at hq ⊢
      subst hq
      exact ⟨Nat.lt_succ_self _, rfl, Or.inl rfl⟩
    · simp only [Function.update_of_ne hg] at hq ⊢
      obtain ⟨hlt, hq2, hold⟩ := h.str g q hq
      have hqf : q.2 ≠ f := fun heq => hg (hq2.symm.trans heq)
      refine ⟨Nat.lt_succ_of_lt hlt, hq2, hold.imp_right fun hdead hlive => hdead ?_⟩
      rw [Heap.Live, Heap.set_of_ne fun heq => hqf (by rw [heq])] at hlive
      exact hgone q hlive

theorem setText_header {data : Str} (h : r.header.text f = data) : r.setText f data = r.assignText f data := by
  rw [Routeable.setText, ← h, Function.update_eq_self]
  unfold Routeable.assignText
  split <;> rfl

/-- A get returns what the header says; where the field was null it is filled, and nothing else changes. -/
theorem Coherent.getText (h : Coherent r p c) (hstr : c.text f = none → r.str f = none) :
    (r.getText f).1 = some (r.header.text f) ∧ ∃ c', Coherent (r.getText f).2 p c' ∧ (r.getText f).2.header = r.header ∧
      (r.getText f).2.payload = r.payload ∧ (r.getText f).2.home = r.home ∧ c'.text f ≠ none ∧ c'.dsrcMetadata = c.dsrcMetadata ∧
      ∀ g, g ≠ f → c'.text g = c.text g ∧ (r.getText f).2.str g = r.str g := by
  rcases hnull : c.text f with _ | q
  · obtain ⟨hheader, hcontainer⟩ := h.null f hnull
    have hget : r.getText f = (some f.default_value, r.assignText f f.default_value) := by
      simp only [Routeable.getText, h.struct, hnull, hcontainer, c_str_default]
    rw [hget, ← setText_header hheader]
    refine ⟨by rw [hheader], _, h.setText (c_str_default f) (Or.inl (hstr hnull)), ?_, ?_, ?_, by simp, rfl, fun g hg => ⟨?_, ?_⟩⟩
    · rw [setText_header hheader, Routeable.assignText, h.struct]
    · rw [setText_header hheader, Routeable.assignText, h.struct]
    · rw [setText_header hheader, Routeable.assignText, h.struct]
    · exact Function.update_of_ne hg _ _
    · rw [setText_header hheader, Routeable.assignText, h.struct]
      exact Function.update_of_ne hg _ _
  · have hcell := (h.text f q hnull).2
    have hget : r.getText f = (some (r.header.text f), { r with container := r.container.putText f (r.header.text f) }) := by
      simp only [Routeable.getText, h.struct, hnull, hcell]
    rw [hget]
    refine ⟨rfl, c, ⟨h.fault, h.ivpMsg, h.message, h.fresh, h.text, fun g hg => ?_, h.str, h.number, h.zero, h.bound, h.metadata,
      h.blank, h.unbound, h.internal, h.payload⟩, rfl, rfl, rfl, by rw [hnull]; exact Option.some_ne_none q, rfl,
      fun g _ => ⟨rfl, rfl⟩⟩
    have hne : g ≠ f := by
      rintro rfl
      rw [hnull] at hg
      exact absurd hg (Option.some_ne_none q)
    simp only [Container.putText, Function.update_of_ne hne]
    exact h.null g hg

theorem Coherent.setNumber (h : Coherent r p c) (f : NumberField) (n : Int) :
    Coherent (r.setNumber f n) p { c with number := Function.update c.number f n } := by
  have hr : r.setNumber f n = { r with
      messages := r.messages.set p { c with number := Function.update c.number f n }
      container := r.container.putNumber f n
      header := { r.header with number := Function.update r.header.number f n } } := by
    simp only [Routeable.setNumber, Routeable.assignNumber, h.struct]
  rw [hr]
  refine ⟨h.fault, h.ivpMsg, Heap.set_self, h.fresh, h.text, h.null, h.str, by simp only [h.number], fun g hg => ?_, h.bound,
    h.metadata, h.blank, h.unbound, h.internal, h.payload⟩
  by_cases hgf : g = f
  · subst hgf
    simp only [Function.update_self] at hg
    simp only [Container.putNumber, Function.update_self, hg, or_true]
  · simp only [Function.update_of_ne hgf] at hg
    simp only [Container.putNumber, Function.update_of_ne hgf]
    exact h.zero g hg

theorem setNumber_header {f : NumberField} {n : Int} (h : r.header.number f = n) : r.setNumber f n = r.assignNumber f n := by
  rw [Routeable.setNumber, ← h, Function.update_eq_self]
  unfold Routeable.assignNumber
  split <;> rfl

theorem Coherent.getNumber (h : Coherent r p c) (f : NumberField) :
    (r.getNumber f).1 = some (r.header.number f) ∧ ∃ c', Coherent (r.getNumber f).2 p c' ∧ (r.getNumber f).2.header = r.header ∧
      (r.getNumber f).2.payload = r.payload ∧ (r.getNumber f).2.home = r.home ∧ c'.text = c.text ∧ c'.dsrcMetadata = c.dsrcMetadata ∧
      (r.getNumber f).2.str = r.str := by
  by_cases hzero : c.number f = 0
  · have hheader : r.header.number f = 0 := by rw [← h.number, hzero]
    have hget : r.getNumber f = (some 0, r.assignNumber f 0) := by
      rcases h.zero f hzero with hcontainer | hcontainer
      all_goals simp [Routeable.getNumber, h.struct, hzero, hcontainer]
    rw [hget, ← setNumber_header hheader]
    refine ⟨by rw [hheader], _, h.setNumber f 0, ?_, ?_, ?_, rfl, rfl, ?_⟩
    all_goals rw [setNumber_header hheader, Routeable.assignNumber, h.struct]
  · have hget : r.getNumber f = (some (c.number f), { r with container := r.container.putNumber f (c.number f) }) := by
      simp only [Routeable.getNumber, h.struct, ne_eq, hzero, not_false_eq_true, if_true]
    rw [hget]
    refine ⟨by rw [h.number], c, ⟨h.fault, h.ivpMsg, h.message, h.fresh, h.text, h.null, h.str, h.number, fun g hg => ?_, h.bound,
      h.metadata, h.blank, h.unbound, h.internal, h.payload⟩, rfl, rfl, rfl, rfl, rfl, rfl⟩
    have hne : g ≠ f := fun heq => hzero (heq ▸ hg)
    simp only [Container.putNumber, Function.update_of_ne hne]
    exact h.zero g hg

theorem Coherent.setDsrc (h : Coherent r p c) (f : DsrcField) {n : Int} (hn : n = -1 ∨ r.dsrcBound ≠ none) :
    Coherent (r.setDsrc f n) p c := by
  rcases hb : r.dsrcBound with _ | b
  · have hc : c.dsrcMetadata = none := h.bound.symm.trans hb
    obtain rfl := hn.resolve_right (not_not_intro hb)
    have hr : r.setDsrc f (-1) = { r with
        internal := Function.update r.internal f (some (-1)), container := r.container.putDsrc f (-1)
        header := { r.header with dsrc := Function.update r.header.dsrc f (-1) } } := by
      simp only [Routeable.setDsrc, Routeable.assignDsrc, hb]
    rw [hr]
    obtain ⟨hheader, hcontainer⟩ := h.unbound hc
    refine ⟨h.fault, h.ivpMsg, h.message, h.fresh, h.text, h.null, h.str, h.number, h.zero, h.bound,
      fun b hcb => absurd (hc.symm.trans hcb) (Option.some_ne_none b).symm, fun hne => absurd hc hne, fun _ => ⟨?_, fun g => ?_⟩,
      fun g => ?_, h.payload⟩
    · rw [hheader]
      exact Function.update_eq_self f noMetadata
    all_goals by_cases hg : g = f
    · subst hg
      simp [Container.putDsrc]
    · simp only [Container.putDsrc, Function.update_of_ne hg]
      exact hcontainer g
    · subst hg
      simp
    · simp only [Function.update_of_ne hg]
      exact h.internal g
  · have hc : c.dsrcMetadata = some b := h.bound.symm.trans hb
    have hcell := h.metadata b hc
    have hr : r.setDsrc f n = { r with
        metadata := r.metadata.set b (Function.update r.header.dsrc f n), container := r.container.putDsrc f n
        header := { r.header with dsrc := Function.update r.header.dsrc f n } } := by
      simp only [Routeable.setDsrc, Routeable.assignDsrc, hb, hcell]
    rw [hr]
    refine ⟨h.fault, h.ivpMsg, h.message, h.fresh, h.text, h.null, h.str, h.number, h.zero, h.bound, fun b' hb' => ?_,
      fun hne g hg => ?_, fun hnone => absurd (hc.symm.trans hnone) (Option.some_ne_none b), h.internal, h.payload⟩
    · obtain rfl := Option.some.inj (hc.symm.trans hb')
      exact Heap.set_self
    · by_cases hgf : g = f
      · subst hgf
        simp only [Function.update_self] at hg
        simp only [Container.putDsrc, Function.update_self, hg]
      · simp only [Function.update_of_ne hgf] at hg
        simp only [Container.putDsrc, Function.update_of_ne hgf]
        exact h.blank hne g hg

theorem setDsrc_header {f : DsrcField} {n : Int} (h : r.header.dsrc f = n) : r.setDsrc f n = r.assignDsrc f n := by
  rw [Routeable.setDsrc, ← h, Function.update_eq_self]
  unfold Routeable.assignDsrc
  split
  · split <;> rfl
  · rfl

/-- A get that flushes what the header says. -/
theorem Coherent.flushDsrc (h : Coherent r p c) {f : DsrcField} (hne : c.dsrcMetadata = none → r.header.dsrc f = -1)
    (hzero : c.dsrcMetadata ≠ none → r.header.dsrc f ≠ 0) :
    Coherent { r with container := r.container.putDsrc f (r.header.dsrc f) } p c := by
  refine ⟨h.fault, h.ivpMsg, h.message, h.fresh, h.text, h.null, h.str, h.number, h.zero, h.bound, h.metadata, fun hb g hg => ?_,
    fun hc => ⟨(h.unbound hc).1, fun g => ?_⟩, h.internal, h.payload⟩
  · have hgf : g ≠ f := fun heq => hzero hb (heq ▸ hg)
    simp only [Container.putDsrc, Function.update_of_ne hgf]
    exact h.blank hb g hg
  · by_cases hgf : g = f
    · subst hgf
      simp [Container.putDsrc, hne hc]
    · simp only [Container.putDsrc, Function.update_of_ne hgf]
      exact (h.unbound hc).2 g

theorem assignDsrc_same (f : DsrcField) (n : Int) : (r.assignDsrc f n).header = r.header ∧ (r.assignDsrc f n).payload = r.payload ∧
    (r.assignDsrc f n).home = r.home := by
  unfold Routeable.assignDsrc
  split
  · split <;> exact ⟨rfl, rfl, rfl⟩
  · exact ⟨rfl, rfl, rfl⟩

theorem Coherent.getDsrc (h : Coherent r p c) (f : DsrcField) :
    (r.getDsrc f).1 = some (r.header.dsrc f) ∧ Coherent (r.getDsrc f).2 p c ∧ (r.getDsrc f).2.header = r.header ∧
      (r.getDsrc f).2.payload = r.payload ∧ (r.getDsrc f).2.home = r.home := by
  rcases hb : r.dsrcBound with _ | b
  · have hc : c.dsrcMetadata = none := h.bound.symm.trans hb
    obtain ⟨hheader, hcontainer⟩ := h.unbound hc
    have hvalue : r.header.dsrc f = -1 := by rw [hheader]; rfl
    rcases h.internal f with hinternal | hinternal
    · have hget : r.getDsrc f = (some (-1), r.assignDsrc f (-1)) := by
        rcases hcontainer f with hcontainer | hcontainer
        all_goals simp [Routeable.getDsrc, Routeable.getDsrcOf, hb, hinternal, hcontainer]
      rw [hget]
      refine ⟨by rw [hvalue], ?_, assignDsrc_same f (-1)⟩
      rw [← setDsrc_header hvalue]
      exact h.setDsrc f (Or.inl rfl)
    · have hget : r.getDsrc f = (some (-1), { r with container := r.container.putDsrc f (-1) }) := by
        simp [Routeable.getDsrc, Routeable.getDsrcOf, hb, hinternal, Option.filter]
      rw [hget, ← hvalue]
      exact ⟨rfl, h.flushDsrc (fun _ => hvalue) fun hne => absurd hc hne, rfl, rfl, rfl⟩
  · have hc : c.dsrcMetadata = some b := h.bound.symm.trans hb
    have hne : c.dsrcMetadata ≠ none := by rw [hc]; exact Option.some_ne_none b
    have hcell := h.metadata b hc
    by_cases hzero : r.header.dsrc f = 0
    · have hget : r.getDsrc f = (some 0, r.assignDsrc f 0) := by
        simp [Routeable.getDsrc, Routeable.getDsrcOf, hb, hcell, Option.filter, hzero, h.blank hne f hzero]
      rw [hget]
      refine ⟨by rw [hzero], ?_, assignDsrc_same f 0⟩
      rw [← setDsrc_header hzero]
      exact h.setDsrc f (Or.inr (by rw [hb]; exact Option.some_ne_none b))
    · have hget : r.getDsrc f = (some (r.header.dsrc f), { r with container := r.container.putDsrc f (r.header.dsrc f) }) := by
        simp [Routeable.getDsrc, Routeable.getDsrcOf, hb, hcell, Option.filter, hzero]
      rw [hget]
      exact ⟨rfl, h.flushDsrc (fun hnone => absurd hnone hne) fun _ => hzero, rfl, rfl, rfl⟩

/-! ### A change of contents -/

theorem Coherent.destroy (h : Coherent r p c) : Vacant r.ivpMsg_destroy := by
  obtain ⟨hft, hfm, hfd⟩ := fault_eq_false.1 h.fault
  have hr : r.ivpMsg_destroy = { r with
      texts := r.texts.freeAll (TextField.all.filterMap c.text)
      metadata := c.dsrcMetadata.elim r.metadata r.metadata.free
      messages := r.messages.free p } := by
    cases hm : c.dsrcMetadata with
    | none => simp only [Routeable.ivpMsg_destroy, h.ivpMsg, h.message, hm, Option.elim_none]
    | some b => simp only [Routeable.ivpMsg_destroy, h.ivpMsg, h.message, hm, Option.elim_some]
  have hnodup : (TextField.all.filterMap c.text).Nodup := by
    refine List.Nodup.filterMap (fun f g q hf hg => ?_) (by decide)
    rw [← (h.text f q hf).1, (h.text g q hg).1]
  have hmem : ∀ f q, c.text f = some q → q ∈ TextField.all.filterMap c.text := fun f q hq =>
    List.mem_filterMap.2 ⟨f, by cases f <;> decide, hq⟩
  have hlive : ∀ q ∈ TextField.all.filterMap c.text, r.texts.Live q := by
    intro q hq
    obtain ⟨f, -, hf⟩ := List.mem_filterMap.1 hq
    exact Heap.live_of_eq_some (h.text f q hf).2
  obtain ⟨hfault, hfreed, hkept⟩ := Heap.freeAll_spec hnodup hlive
  have hgone : ∀ q, (r.texts.freeAll (TextField.all.filterMap c.text)).Live q → r.texts.Live q := by
    intro q hq
    by_cases hin : q ∈ TextField.all.filterMap c.text
    · exact hlive q hin
    · rwa [Heap.Live, hkept q hin] at hq
  rw [hr]
  refine ⟨fault_eq_false.2 ⟨hfault.trans hft, ?_, ?_⟩, fun q hq => h.fresh q (hgone q hq), fun f q hq => ?_, h.internal⟩
  · exact (Heap.live_of_eq_some h.message).free_fault.trans hfm
  · dsimp only
    cases hb : c.dsrcMetadata with
    | none => exact hfd
    | some b => exact (Heap.live_of_eq_some (h.metadata b hb)).free_fault.trans hfd
  · obtain ⟨hlt, hq2, hold⟩ := h.str f q hq
    refine ⟨hlt, hq2, fun hlive' => ?_⟩
    rcases hold with hold | hold
    · rw [Heap.Live, hfreed q (hmem f q hold)] at hlive'
      cases hlive'
    · exact hold (hgone q hlive')

theorem destroy_same (r : Routeable) : r.ivpMsg_destroy.container = r.container ∧ r.ivpMsg_destroy.str = r.str ∧
    r.ivpMsg_destroy.dsrcBound = r.dsrcBound ∧ r.ivpMsg_destroy.home = r.home := by
  unfold Routeable.ivpMsg_destroy
  split
  · exact ⟨rfl, rfl, rfl, rfl⟩
  · split <;> exact ⟨rfl, rfl, rfl, rfl⟩

theorem vacant_fresh (i : Nat) (k : Container) : Vacant (Routeable.fresh i k).ivpMsg_destroy :=
  ⟨rfl, fun _ h => absurd h Bool.false_ne_true, fun _ _ h => absurd h nofun, fun _ => Or.inl rfl⟩

/-- The copy of a structure. -/
theorem Vacant.replace (h : Vacant r.ivpMsg_destroy) (hm : Replaces r m) :
    ∃ p c, Coherent (r.replace m) p c ∧ (∀ f, c.text f = none ↔ m.text f = none) ∧ (c.dsrcMetadata = none ↔ m.dsrcMetadata = none) ∧
      (r.replace m).str = r.str ∧ (r.replace m).header = m.header ∧ (r.replace m).payload = m.payload ∧
      (r.replace m).home = r.home := by
  obtain ⟨hcontainer, hstr, hbound, hhome⟩ := destroy_same r
  have htaken := hm.taken
  have hmbound := hm.bound
  rw [← hcontainer] at htaken
  rw [← hbound] at hmbound
  rw [← hstr, ← hhome]
  generalize hd : r.ivpMsg_destroy = d at *
  obtain ⟨hft, hfm, hfd⟩ := fault_eq_false.1 h.fault
  have hreplace : r.replace m = { d with
      texts := { d.texts with cell := fun q => if q.1 = d.next then m.text q.2 else d.texts.cell q }
      metadata := m.dsrcMetadata.elim d.metadata (d.metadata.set d.next)
      messages := d.messages.set d.next
        ⟨fun f => (m.text f).map fun _ => (d.next, f), m.number, m.dsrcMetadata.map fun _ => d.next, m.payload⟩
      ivpMsg := some d.next
      next := d.next + 1
      dsrcBound := m.dsrcMetadata.map fun _ => d.next
      internal := if m.dsrcMetadata.isSome then fun _ => none else d.internal
      header := m.header
      payload := m.payload } := by
    rw [Routeable.replace, hd]
    rcases hmeta : m.dsrcMetadata with _ | b
    · simp [Routeable.ivpMsg_copy, hmeta, hmbound hmeta]
    · simp [Routeable.ivpMsg_copy, hmeta]
  rw [hreplace]
  refine ⟨d.next, _, ⟨fault_eq_false.2 ⟨hft, hfm, ?_⟩, rfl, Heap.set_self, fun q hlive => ?_, fun f q hq => ?_, fun f hf => ?_,
    fun f q hq => ?_, rfl, htaken.number, rfl, fun b hb => ?_, fun hne f hf => ?_, fun hnone => ⟨?_, ?_⟩, fun f => ?_, rfl⟩,
    fun f => ?_, ?_, rfl, rfl, rfl, rfl⟩
  · dsimp only
    cases m.dsrcMetadata with
    | none => exact hfd
    | some b => exact hfd
  · simp only [Heap.Live] at hlive
    split_ifs at hlive with hq
    · rw [hq]
      exact Nat.lt_succ_self _
    · exact Nat.lt_succ_of_lt (h.fresh q hlive)
  · obtain ⟨v, hv, rfl⟩ := Option.map_eq_some_iff.1 hq
    refine ⟨rfl, ?_⟩
    simp only [if_true, Fields.header, hv, Option.getD_some]
  · rw [Option.map_eq_none_iff] at hf
    refine ⟨?_, htaken.text f hf⟩
    simp only [Fields.header, hf, Option.getD_none]
  · obtain ⟨hlt, hq2, hdead⟩ := h.str f q hq
    refine ⟨Nat.lt_succ_of_lt hlt, hq2, Or.inr fun hlive => hdead ?_⟩
    simpa only [Heap.Live, if_neg hlt.ne] using hlive
  · obtain ⟨v, hv, rfl⟩ := Option.map_eq_some_iff.1 hb
    simp only [hv, Option.elim_some, Heap.set_self, Fields.header, Option.getD_some]
  · rcases hmeta : m.dsrcMetadata with _ | v
    · rw [hmeta] at hne
      exact absurd rfl hne
    · refine htaken.metadata v hmeta f ?_
      simpa [Fields.header, hmeta] using hf
  · rw [Option.map_eq_none_iff] at hnone
    simp only [Fields.header, hnone, Option.getD_none]
  · rw [Option.map_eq_none_iff] at hnone
    exact htaken.unbound hnone
  · dsimp only
    split_ifs
    · exact Or.inl rfl
    · exact h.internal f
  · exact Option.map_eq_none_iff
  · exact Option.map_eq_none_iff

/-- The texts that are filled in at once are there. -/
def Filled (c : Struct) : Prop := ∀ f, f ≠ .source → c.text f ≠ none

/-- A live object whose pointers lead to its own memory. -/
structure Owned (i : Nat) (r : Routeable) (p : Nat) (c : Struct) : Prop extends Coherent r p c where
  filled : Filled c
  home : r.home = i

theorem Coherent.init_attributes (h : Coherent r p c) (hstr : ∀ f, f ≠ .source → c.text f = none → r.str f = none) :
    r.init_attributes.1 = true ∧ ∃ c', Coherent r.init_attributes.2 p c' ∧ Filled c' ∧ r.init_attributes.2.header = r.header ∧
      r.init_attributes.2.payload = r.payload ∧ r.init_attributes.2.home = r.home ∧ c'.dsrcMetadata = c.dsrcMetadata ∧
      c'.text .source = c.text .source := by
  obtain ⟨-, c1, h1, hh1, hp1, ho1, hn1, hd1, hs1⟩ := h.getText (f := .type) (hstr _ nofun)
  have hstr1 : c1.text .subtype = none → (r.getText .type).2.str .subtype = none := by
    rw [(hs1 .subtype nofun).1, (hs1 .subtype nofun).2]
    exact hstr _ nofun
  obtain ⟨-, c2, h2, hh2, hp2, ho2, hn2, hd2, hs2⟩ := h1.getText hstr1
  have hstr2 : c2.text .encoding = none → ((r.getText .type).2.getText .subtype).2.str .encoding = none := by
    rw [(hs2 .encoding nofun).1, (hs2 .encoding nofun).2, (hs1 .encoding nofun).1, (hs1 .encoding nofun).2]
    exact hstr _ nofun
  obtain ⟨-, c3, h3, hh3, hp3, ho3, hn3, hd3, hs3⟩ := h2.getText hstr2
  obtain ⟨hv4, c4, h4, hh4, hp4, ho4, ht4, hd4, -⟩ := h3.getNumber .timestamp
  obtain ⟨hv5, c5, h5, hh5, hp5, ho5, ht5, hd5, -⟩ := h4.getNumber .flags
  generalize hr3 : (((r.getText .type).2.getText .subtype).2.getText .encoding).2 = r3 at *
  have hinit : r.init_attributes = (true, ((r3.getNumber .timestamp).2.getNumber .flags).2) := by
    rw [Routeable.init_attributes, hr3]
    rcases hn4 : r3.getNumber .timestamp with ⟨v4, r4⟩
    rw [hn4] at hv4 hv5
    obtain rfl := hv4
    rcases hn5 : r4.getNumber .flags with ⟨v5, r5⟩
    simp only [hn5] at hv5
    obtain rfl := hv5
    simp only [hn5]
  have htext : c5.text = c3.text := ht5.trans ht4
  rw [hinit]
  refine ⟨rfl, c5, h5, fun f hf => ?_, by rw [hh5, hh4, hh3, hh2, hh1], by rw [hp5, hp4, hp3, hp2, hp1],
    by rw [ho5, ho4, ho3, ho2, ho1], by rw [hd5, hd4, hd3, hd2, hd1], ?_⟩
  · rw [htext]
    cases f with
    | type => rwa [(hs3 .type nofun).1, (hs2 .type nofun).1]
    | subtype => rwa [(hs3 .subtype nofun).1]
    | source => exact absurd rfl hf
    | encoding => exact hn3
  · rw [htext, (hs3 .source nofun).1, (hs2 .source nofun).1, (hs1 .source nofun).1]

theorem Vacant.set_contents (h : Vacant r.ivpMsg_destroy) (hm : Replaces r m) :
    (r.set_contents m).1 = true ∧ ∃ p c, Owned r.home (r.set_contents m).2 p c ∧ (r.set_contents m).2.header = m.header ∧
      (r.set_contents m).2.payload = m.payload ∧ (c.dsrcMetadata = none ↔ m.dsrcMetadata = none) ∧
      (c.text .source = none ↔ m.text .source = none) := by
  obtain ⟨p, c, hcoherent, htext, hmeta, hstr, hheader, hpayload, hhome⟩ := h.replace hm
  obtain ⟨hok, c', hcoherent', hfilled, hh, hp, ho, hd, hs⟩ := hcoherent.init_attributes fun f hf hnull => by
    rw [hstr]
    exact hm.str f hf ((htext f).1 hnull)
  refine ⟨hok, p, c', ⟨hcoherent', hfilled, ho.trans hhome⟩, hh.trans hheader, hp.trans hpayload, ?_, ?_⟩
  · rw [hd]
    exact hmeta
  · rw [hs]
    exact htext _

/-- What `get_message` gives. -/
theorem Coherent.get_message (h : Coherent r p c) : ∃ m, r.get_message = some m ∧ m.header = r.header ∧ m.payload = r.payload ∧
    (∀ f, m.text f = none ↔ c.text f = none) ∧ m.number = c.number ∧ (∀ d, m.dsrcMetadata = some d → d = r.header.dsrc) ∧
    (m.dsrcMetadata = none ↔ c.dsrcMetadata = none) := by
  have hlive : (∀ f ∈ TextField.all, ∀ q ∈ c.text f, r.texts.Live q) ∧ ∀ b ∈ c.dsrcMetadata, r.metadata.Live b :=
    ⟨fun f _ q hq => Heap.live_of_eq_some (h.text f q hq).2, fun b hb => Heap.live_of_eq_some (h.metadata b hb)⟩
  have hget : r.get_message =
      some ⟨fun f => (c.text f).bind r.texts.cell, c.number, c.dsrcMetadata.bind r.metadata.cell, c.payload⟩ := by
    rw [Routeable.get_message, h.struct, Option.bind_some]
    exact if_pos hlive
  have htext : ∀ f, ((c.text f).bind r.texts.cell).getD f.default_value = r.header.text f ∧
      ((c.text f).bind r.texts.cell = none ↔ c.text f = none) := by
    intro f
    rcases hq : c.text f with _ | q
    · exact ⟨(h.null f hq).1.symm, by simp⟩
    · simp [(h.text f q hq).2]
  refine ⟨_, hget, ?_, h.payload, fun f => (htext f).2, rfl, fun d hd => ?_, ?_⟩
  · have hdsrc : (c.dsrcMetadata.bind r.metadata.cell).getD noMetadata = r.header.dsrc := by
      rcases hb : c.dsrcMetadata with _ | b
      · exact (h.unbound hb).1.symm
      · simp [h.metadata b hb]
    rw [Fields.header]
    refine (congr (congr (congrArg Headers.mk (funext fun f => (htext f).1)) h.number) hdsrc).trans ?_
    rfl
  · obtain ⟨b, hb, hcell⟩ := Option.bind_eq_some_iff.1 hd
    exact Option.some.inj (hcell.symm.trans (h.metadata b hb))
  · rcases hb : c.dsrcMetadata with _ | b
    · simp
    · simp [h.metadata b hb]

/-- The container of an object has nothing else for the fields that its structure leaves unset. -/
theorem Coherent.taken (h : Coherent r p c) (htext : ∀ f, m.text f = none → c.text f = none) (hnumber : m.number = c.number)
    (hdsrc : ∀ d, m.dsrcMetadata = some d → d = r.header.dsrc) (hnone : m.dsrcMetadata = none ↔ c.dsrcMetadata = none) :
    Taken r.container m := by
  refine ⟨fun f hf => (h.null f (htext f hf)).2, fun f hf => h.zero f (hnumber ▸ hf), fun d hd f hf => ?_,
    fun hm => (h.unbound (hnone.1 hm)).2⟩
  refine h.blank (fun hc => ?_) f (hdsrc d hd ▸ hf)
  rw [hnone.2 hc] at hd
  exact absurd hd nofun

theorem Coherent.load (h : Coherent r p c) {k : Container} (hm : r.get_message = some m) (hk : Taken k m) :
    Coherent { r with container := k } p c := by
  obtain ⟨m', hm', -, -, htext, hnumber, hdsrc, hnone⟩ := h.get_message
  obtain rfl := Option.some.inj (hm.symm.trans hm')
  refine ⟨h.fault, h.ivpMsg, h.message, h.fresh, h.text, fun f hf => ⟨(h.null f hf).1, hk.text f ((htext f).2 hf)⟩, h.str, h.number,
    fun f hf => hk.number f (hnumber ▸ hf), h.bound, h.metadata, fun hc f hf => ?_,
    fun hc => ⟨(h.unbound hc).1, hk.unbound (hnone.2 hc)⟩, h.internal, h.payload⟩
  obtain ⟨d, hd⟩ := Option.ne_none_iff_exists'.1 fun hnil => hc (hnone.1 hnil)
  exact hk.metadata d hd f (hdsrc d hd ▸ hf)

theorem getText_fst (h : Coherent r p c) (f : TextField) : (r.getText f).1 = some (r.header.text f) := by
  rcases hnull : c.text f with _ | q
  · obtain ⟨hheader, hcontainer⟩ := h.null f hnull
    simp only [Routeable.getText, h.struct, hnull, hcontainer, c_str_default, hheader]
  · simp only [Routeable.getText, h.struct, hnull, (h.text f q hnull).2]

/-! ### Runs -/

structure Inv (s : State) : Prop where
  fault : s.fault = false
  shared : s.shared = false
  objects : ∀ i r, s.objects i = some r → ∃ p c, Owned i r p c

theorem Inv.sane (h : Inv s) : Sane s := by
  refine ⟨⟨h.fault, fun i r hr => ?_⟩, fun i j r r' hr hr' heq => ?_, fun i r hr => ?_, fun i r hr => ?_⟩
  · obtain ⟨p, c, howned⟩ := h.objects i r hr
    exact howned.fault
  · obtain ⟨p, c, howned⟩ := h.objects i r hr
    obtain ⟨p', c', howned'⟩ := h.objects j r' hr'
    rw [← howned.home, ← howned'.home]
    exact (Prod.mk.inj heq).1
  · obtain ⟨p, c, howned⟩ := h.objects i r hr
    exact ⟨getText_fst howned.toCoherent, fun f => (howned.getNumber f).1, fun f => (howned.getDsrc f).1⟩
  · obtain ⟨p, c, howned⟩ := h.objects i r hr
    obtain ⟨m, hm, hheader, hpayload, -⟩ := howned.get_message
    exact ⟨m, hm, hheader, hpayload⟩

theorem Inv.store (h : Inv s) {i : Nat} (hr : Owned i r p c) : Inv (s.store i r) := by
  refine ⟨h.fault, h.shared, fun j r' hj => ?_⟩
  by_cases hji : j = i
  · subst hji
    simp only [State.store, Function.update_self] at hj
    obtain rfl := Option.some.inj hj
    exact ⟨p, c, hr⟩
  · simp only [State.store, Function.update_of_ne hji] at hj
    exact h.objects j r' hj

theorem Inv.built (h : Inv s) {i : Nat} {b : Bool × Routeable} (hb : b.1 = true) (hr : Owned i b.2 p c) : Inv (s.built i b) := by
  obtain ⟨ok, r⟩ := b
  obtain rfl := hb
  exact h.store hr

/-- An object whose contents are replaced. -/
theorem Owned.set_contents {i : Nat} (h : Owned i r p c) (hm : Replaces r m) : ∃ p c, Owned i (r.set_contents m).2 p c := by
  obtain ⟨-, p', c', howned, -⟩ := h.toCoherent.destroy.set_contents hm
  exact ⟨p', c', h.home ▸ howned⟩

theorem destroy_container (k : Container) :
    ({ r with container := k } : Routeable).ivpMsg_destroy = { r.ivpMsg_destroy with container := k } := by
  unfold Routeable.ivpMsg_destroy
  dsimp only
  split
  · rfl
  · split <;> rfl

theorem Owned.reinit {i : Nat} (h : Owned i r p c) {k : Container} (hm : Replaces { r with container := k } m) :
    ∃ p c, Owned i (({ r with container := k } : Routeable).set_contents m).2 p c := by
  have hvacant : Vacant ({ r with container := k } : Routeable).ivpMsg_destroy := by
    have hold := h.toCoherent.destroy
    rw [destroy_container]
    exact ⟨hold.fault, hold.fresh, hold.str, hold.internal⟩
  obtain ⟨-, p', c', howned, -⟩ := hvacant.set_contents hm
  exact ⟨p', c', h.home ▸ howned⟩

/-- The copy of an object: its contents are set twice. -/
theorem Owned.copy {i j : Nat} (h : Owned j r p c) (hm : r.get_message = some m) :
    ((Routeable.fresh i r.container).set_contents m).1 = true ∧
      (((Routeable.fresh i r.container).set_contents m).2.set_contents m).1 = true ∧
      ∃ p c, Owned i (((Routeable.fresh i r.container).set_contents m).2.set_contents m).2 p c := by
  obtain ⟨m', hm', -, -, htext, hnumber, hdsrc, hnone⟩ := h.toCoherent.get_message
  obtain rfl := Option.some.inj (hm.symm.trans hm')
  have hfilled : ∀ f, f ≠ .source → m.text f ≠ none := fun f hf hnull => h.filled f hf ((htext f).1 hnull)
  have htaken : Taken (Routeable.fresh i r.container).container m :=
    h.toCoherent.taken (fun f hf => (htext f).1 hf) hnumber hdsrc hnone
  obtain ⟨hok1, p1, c1, h1, hheader1, -, hmeta1, hsource1⟩ :=
    (vacant_fresh i r.container).set_contents ⟨htaken, fun _ _ _ => rfl, fun _ => rfl⟩
  have hreplaces : Replaces ((Routeable.fresh i r.container).set_contents m).2 m := by
    refine ⟨h1.toCoherent.taken (fun f hf => ?_) ?_ (fun d hd => ?_) hmeta1.symm, fun f hf hnull => absurd hnull (hfilled f hf),
      fun hnil => h1.bound.trans (hmeta1.2 hnil)⟩
    · by_cases hfs : f = .source
      · subst hfs
        exact hsource1.2 hf
      · exact absurd hf (hfilled f hfs)
    · rw [h1.number, hheader1]
      rfl
    · rw [hheader1, Fields.header, hd]
      rfl
  obtain ⟨hok2, p2, c2, h2, -⟩ := h1.toCoherent.destroy.set_contents hreplaces
  rw [h1.home] at h2
  exact ⟨hok1, hok2, p2, c2, h2⟩

theorem Owned.setText {i : Nat} (h : Owned i r p c) {data : Str} (hdata : c_str data = data) (hassign : Assignable r f) :
    ∃ c', Owned i (r.setText f data) p c' ∧ (r.setText f data).struct = some (p, c') := by
  have hcoherent := h.toCoherent.setText hdata (hassign p c h.struct)
  refine ⟨_, ⟨hcoherent, fun g hg => ?_, ?_⟩, hcoherent.struct⟩
  · by_cases hgf : g = f
    · subst hgf
      simp
    · simp only [Function.update_of_ne hgf]
      exact h.filled g hg
  · rw [← h.home]
    unfold Routeable.setText Routeable.assignText
    split <;> rfl

theorem Owned.set_payload {i : Nat} (h : Owned i r p c) {encoding : Str} (hdata : c_str encoding = encoding)
    (hassign : Assignable r .encoding) (payload : Option CJson) : ∃ c', Owned i (r.set_payload encoding payload) p c' := by
  obtain ⟨c', howned, hstruct⟩ := h.setText hdata hassign
  have hr : r.set_payload encoding payload = { r.setText .encoding encoding with
      messages := (r.setText .encoding encoding).messages.set p { c' with payload := payload }, payload := payload } := by
    simp only [Routeable.set_payload, hstruct]
  rw [hr]
  exact ⟨{ c' with payload := payload }, ⟨⟨howned.fault, howned.ivpMsg, Heap.set_self, howned.fresh, howned.text, howned.null,
    howned.str, howned.number, howned.zero, howned.bound, howned.metadata, howned.blank, howned.unbound, howned.internal, rfl⟩,
    howned.filled, howned.home⟩⟩

theorem Owned.addDsrcMetadata {i : Nat} (h : Owned i r p c) {d : Metadata} (hd : ∀ f, d f = 0 → r.container.dsrc f = some (some 0)) :
    ∃ c', Owned i (r.addDsrcMetadata d) p c' := by
  have hr : r.addDsrcMetadata d = { r with
      metadata := r.metadata.set (c.dsrcMetadata.getD r.next) d
      messages := r.messages.set p { c with dsrcMetadata := some (c.dsrcMetadata.getD r.next) }
      next := r.next + 1
      dsrcBound := some (c.dsrcMetadata.getD r.next)
      internal := fun _ => none
      header := { r.header with dsrc := d } } := by
    simp only [Routeable.addDsrcMetadata, h.struct]
  rw [hr]
  refine ⟨{ c with dsrcMetadata := some (c.dsrcMetadata.getD r.next) }, ⟨⟨h.fault, h.ivpMsg, Heap.set_self,
    fun q hq => Nat.lt_succ_of_lt (h.fresh q hq), h.text, h.null, fun f q hq => ?_, h.number, h.zero, rfl, fun b hb => ?_,
    fun _ => hd, fun hnone => absurd hnone nofun, fun _ => Or.inl rfl, h.payload⟩, h.filled, h.home⟩⟩
  · obtain ⟨hlt, hrest⟩ := h.str f q hq
    exact ⟨Nat.lt_succ_of_lt hlt, hrest⟩
  · obtain rfl := Option.some.inj hb
    exact Heap.set_self

theorem inv_init : Inv State.init := ⟨rfl, rfl, fun _ _ h => absurd h nofun⟩

/-- An event on one object. -/
theorem Inv.on (h : Inv s) {i : Nat} {g : Routeable → Routeable}
    (hg : ∀ r p c, s.objects i = some r → Owned i r p c → ∃ p c, Owned i (g r) p c) (hstep : s.on i g = some t) : Inv t := by
  obtain ⟨r, hr, rfl⟩ := Option.map_eq_some_iff.1 hstep
  obtain ⟨p, c, howned⟩ := h.objects i r hr
  obtain ⟨p', c', howned'⟩ := hg r p c hr howned
  exact h.store howned'

/-! ### Events -/

theorem Owned.readText {i : Nat} (h : Owned i r p c) (hstr : c.text f = none → r.str f = none) : ∃ p c, Owned i (r.getText f).2 p c := by
  obtain ⟨-, c', hcoherent, -, -, hhome, hfilled, -, hothers⟩ := h.getText hstr
  refine ⟨p, c', hcoherent, fun g hg => ?_, hhome.trans h.home⟩
  by_cases hgf : g = f
  · rwa [hgf]
  · rw [(hothers g hgf).1]
    exact h.filled g hg

theorem Owned.readNumber {i : Nat} (h : Owned i r p c) (f : NumberField) : ∃ p c, Owned i (r.getNumber f).2 p c := by
  obtain ⟨-, c', hcoherent, -, -, hhome, htext, -⟩ := h.getNumber f
  exact ⟨p, c', hcoherent, fun g hg => by rw [htext]; exact h.filled g hg, hhome.trans h.home⟩

theorem Owned.readDsrc {i : Nat} (h : Owned i r p c) (f : DsrcField) : ∃ p c, Owned i (r.getDsrc f).2 p c := by
  obtain ⟨-, hcoherent, -, -, hhome⟩ := h.getDsrc f
  exact ⟨p, c, hcoherent, h.filled, hhome.trans h.home⟩

theorem Inv.destroy (h : Inv s) {i : Nat} (howned : Owned i r p c) :
    Inv { s with objects := Function.update s.objects i none, fault := s.fault || r.ivpMsg_destroy.fault, shared := false } := by
  refine ⟨?_, rfl, fun j r' hj => ?_⟩
  · simp only [h.fault, howned.toCoherent.destroy.fault, Bool.or_self]
  · by_cases hji : j = i
    · subst hji
      simp at hj
    · simp only [Function.update_of_ne hji] at hj
      exact h.objects j r' hj

theorem inv_step (h : Inv s) {e : Event} (hsound : Sound prs s e) (hstep : step prs s e = some t) : Inv t := by
  unfold step at hstep
  rw [h.shared, if_neg Bool.false_ne_true] at hstep
  cases e with
  | construct i msg now =>
    obtain ⟨-, hstep⟩ := Option.ite_none_right_eq_some.1 hstep
    cases hstep
    obtain ⟨hok, p, c, howned, -⟩ := (vacant_fresh i .empty).set_contents ⟨hsound, fun _ _ _ => rfl, fun _ => rfl⟩
    exact h.built hok howned
  | constructText i text now =>
    obtain ⟨-, hstep⟩ := Option.ite_none_right_eq_some.1 hstep
    split at hstep
    · rename_i k hload
      obtain ⟨-, hstep⟩ := Option.ite_none_left_eq_some.1 hstep
      cases hstep
      obtain ⟨hok, p, c, howned, -⟩ := (vacant_fresh i k).set_contents ⟨hsound k hload, fun _ _ _ => rfl, fun _ => rfl⟩
      exact h.built hok howned
    · cases hstep
      exact h
  | copy i j =>
    obtain ⟨-, hstep⟩ := Option.ite_none_right_eq_some.1 hstep
    obtain ⟨r, hr, rfl⟩ := Option.map_eq_some_iff.1 hstep
    obtain ⟨p, c, howned⟩ := h.objects j r hr
    obtain ⟨m, hm, -⟩ := howned.get_message
    obtain ⟨hok1, hok2, p', c', howned'⟩ := howned.copy (i := i) hm
    simp only [hm]
    rcases hfirst : (Routeable.fresh i r.container).set_contents m with ⟨ok, r1⟩
    rw [hfirst] at hok1 hok2 howned'
    obtain rfl := hok1
    exact h.built hok2 howned'
  | assign i j =>
    obtain ⟨-, -, hstep⟩ := Option.bind_eq_some_iff.1 hstep
    obtain ⟨r, -, rfl⟩ := Option.map_eq_some_iff.1 hstep
    rw [if_pos (show i = j from hsound)]
    exact h
  | set_contents i msg now => exact h.on (fun r p c hr howned => howned.set_contents (hsound r hr)) hstep
  | set_contentsOf i j =>
    obtain ⟨hne, hreplaces⟩ := hsound
    obtain ⟨r, hr, hstep⟩ := Option.bind_eq_some_iff.1 hstep
    obtain ⟨r', hr', rfl⟩ := Option.map_eq_some_iff.1 hstep
    obtain ⟨p, c, howned⟩ := h.objects i r hr
    obtain ⟨p', c', howned'⟩ := h.objects j r' hr'
    obtain ⟨m, hm, -⟩ := howned'.get_message
    simp only [if_neg hne, hm]
    obtain ⟨p2, c2, howned2⟩ := howned.set_contents (hreplaces r r' m hr hr' hm)
    exact h.store howned2
  | set_text i text =>
    refine h.on (fun r p c hr howned => ⟨p, c, ?_⟩) hstep
    obtain ⟨m, hm, -⟩ := howned.get_message
    rcases hload : prs.load text with _ | k
    · exact howned
    · exact ⟨howned.toCoherent.load hm (hsound r k m hr hload hm), howned.filled, howned.home⟩
  | reinit i text now =>
    refine h.on (fun r p c hr howned => ?_) hstep
    rcases hload : reloaded prs r text with _ | k
    · exact ⟨p, c, howned⟩
    · exact howned.reinit (hsound r k hr hload)
  | getText i f => exact h.on (fun r p c hr howned => howned.readText (hsound r hr p c howned.struct)) hstep
  | getNumber i f => exact h.on (fun r p c _ howned => howned.readNumber f) hstep
  | getDsrc i f => exact h.on (fun r p c _ howned => howned.readDsrc f) hstep
  | setText i f data =>
    refine h.on (fun r p c hr howned => ?_) hstep
    obtain ⟨c', howned', -⟩ := howned.setText hsound.1 (hsound.2 r hr)
    exact ⟨p, c', howned'⟩
  | setNumber i f n =>
    refine h.on (fun r p c hr howned => ⟨p, _, howned.toCoherent.setNumber f n, howned.filled, ?_⟩) hstep
    rw [← howned.home, Routeable.setNumber, Routeable.assignNumber, howned.struct]
  | setDsrc i f n =>
    refine h.on (fun r p c hr howned => ⟨p, c, howned.toCoherent.setDsrc f (hsound r hr), howned.filled, ?_⟩) hstep
    exact (assignDsrc_same f n).2.2.trans howned.home
  | set_payload i encoding payload =>
    refine h.on (fun r p c hr howned => ⟨p, ?_⟩) hstep
    exact howned.set_payload hsound.1 (hsound.2 r hr) payload
  | addDsrcMetadata i d =>
    exact h.on (fun r p c hr howned => ⟨p, howned.addDsrcMetadata (hsound r hr)⟩) hstep
  | destroy i =>
    obtain ⟨r, hr, rfl⟩ := Option.map_eq_some_iff.1 hstep
    obtain ⟨p, c, howned⟩ := h.objects i r hr
    exact h.destroy howned

/-- In every run whose steps meet the condition the ownership and the headers are as they should be. -/
theorem ownership_coherence {es : List Event} (hsound : (machine prs).Meets (Sound prs) State.init es)
    (hexec : (machine prs).exec State.init es = some s) : Sane s :=
  (Machine.invariant_meets (M := machine prs) inv_init (fun _ _ _ h hG hstep => inv_step h hG hstep) hsound hexec).sane

/-! No text is loaded. -/

def noTexts : Parsers := ⟨fun _ => none, .rounding⟩

theorem taken_created (now : Nat) : Taken .empty (contentsOr now none) := by
  refine ⟨fun _ _ => rfl, fun _ _ => Or.inl rfl, fun d hd => absurd hd nofun, fun _ _ => Or.inl rfl⟩

theorem ownership_coherence_set : ∃ s, (machine noTexts).exec State.init
      [.construct 0 none 5, .setText 0 .source [65], .getText 0 .source, .copy 1 0, .destroy 0] = some s ∧ Sane s := by
  have hexec : (machine noTexts).exec State.init
      [.construct 0 none 5, .setText 0 .source [65], .getText 0 .source, .copy 1 0, .destroy 0] = some _ := rfl
  refine ⟨_, hexec, ownership_coherence ?_ hexec⟩
  refine (Machine.meets_cons_of_step rfl).2 ⟨taken_created 5, (Machine.meets_cons_of_step rfl).2 ⟨⟨by decide, ?_⟩, ?_⟩⟩
  · intro r hr p c _
    cases hr
    exact Or.inl rfl
  refine (Machine.meets_cons_of_step rfl).2 ⟨?_, ?_⟩
  · intro r hr p c hstruct hnull
    cases hr
    cases hstruct
    exact absurd hnull nofun
  exact (Machine.meets_cons_of_step rfl).2 ⟨trivial, (Machine.meets_cons_of_step rfl).2 ⟨trivial, trivial⟩⟩

/-- A message with every text, and metadata. -/
def withMetadata (d : Option IvpDsrcMetadata) : IvpMessage := ⟨some [65], some [66], some [67], 1, some [68], 1, 1, d, none⟩

/-- The type that was filled in is freed with the first structure, and again when it is filled in next; an assignment leaves two
owners; metadata are read after they were freed; a channel of zero counts as none. -/
theorem ownership_coherence_fails :
    (∃ s, (machine noTexts).exec State.init [.construct 0 none 5, .set_contents 0 none 6] = some s ∧ ¬ Sane s) ∧
    (∃ s, (machine noTexts).exec State.init [.construct 0 none 5, .construct 1 none 5, .assign 0 1] = some s ∧ ¬ Sane s) ∧
    (∃ s, (machine noTexts).exec State.init [.construct 0 (some (withMetadata (some ⟨1, 172⟩))) 5,
        .set_contents 0 (some (withMetadata none)) 6] = some s ∧ ¬ Sane s) ∧
    ∃ s, (machine noTexts).exec State.init [.construct 0 none 5, .addDsrcMetadata 0 fun _ => 0] = some s ∧ ¬ Sane s := by
  refine ⟨⟨_, rfl, fun h => ?_⟩, ⟨_, rfl, fun h => ?_⟩, ⟨_, rfl, fun h => ?_⟩, ⟨_, rfl, fun h => ?_⟩⟩
  · exact absurd (h.fault.2 0 _ rfl) (by decide +kernel)
  · exact absurd (h.owner 0 1 _ _ rfl rfl rfl) (by decide)
  · exact absurd ((h.getters 0 _ rfl).2.2 .channel) (by decide +kernel)
  · exact absurd ((h.getters 0 _ rfl).2.2 .channel) (by decide +kernel)

end V2xHub.RouteableMessage
