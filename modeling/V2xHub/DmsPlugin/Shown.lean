import V2xHub.DmsPlugin.Basic

/-!
# What the sign shows

The plugin knows what the sign shows as long as a new address leads to a sign that was told the same, no message counts
as shown while the DMS is disabled, and an assignment whose statuses are right stored the text (`sign_shows`).
-/

namespace V2xHub.DmsPlugin
namespace State
variable {s t : State} {m : SignMessage} {todo : List (Int × Str)}

/-- The sign shows what the plugin reports. -/
def Shows (s : State) : Prop :=
  s._enableDms → s._isSignMessagesInitialized → s._msgIdShown = s._msgIdRequested →
    ∀ m, s._signMessages s._msgIdShown = some m →
      s.sign.activated = some s._msgIdShown ∧
        (s._msgIdShown ≠ 0 → s.sign.stored s._msgIdShown = some m.DmsText)

/-- What the members say about the sign, where the texts `todo` are still to be added. -/
structure Known (s : State) (todo : List (Int × Str)) : Prop where
  stored : ∀ i m, i ≠ 0 → s._signMessages i = some m → m.IsDmsTextInitialized →
    s.sign.stored i = some m.DmsText ∨ ∃ text, (i, text) ∈ todo ∧ text ≠ m.DmsText
  initialized : s._isSignMessagesInitialized →
    ∀ i m, i ≠ 0 → s._signMessages i = some m → m.IsDmsTextInitialized
  shown : s._msgIdShown ≠ -1 → s.sign.activated = some s._msgIdShown
  ids : ∀ i m, s._signMessages i = some m → 0 ≤ i ∧ i ≤ 4

theorem Known.shows (h : s.Known []) : s.Shows := by
  intro _ hinit _ m hm
  constructor
  · refine h.shown fun hshown => ?_
    have hid := (h.ids _ _ hm).1
    rw [hshown] at hid
    omega
  · intro hne
    rcases h.stored _ m hne hm (h.initialized hinit _ m hne hm) with hstored | ⟨text, htext, -⟩
    · exact hstored
    · cases htext

theorem Known.of_eq (h : s.Known todo) (hmessages : t._signMessages = s._signMessages) (hsign : t.sign = s.sign)
    (hinit : t._isSignMessagesInitialized → s._isSignMessagesInitialized)
    (hshown : t._msgIdShown = s._msgIdShown ∨ t._msgIdShown = -1) : t.Known todo where
  stored := by
    rw [hmessages, hsign]
    exact h.stored
  initialized := by
    rw [hmessages]
    exact fun hi => h.initialized (hinit hi)
  shown := by
    rw [hsign]
    rcases hshown with hshown | hshown
    · rw [hshown]
      exact h.shown
    · exact fun hne => absurd hshown hne
  ids := by
    rw [hmessages]
    exact h.ids

/-! ### Texts -/

@[simp] theorem sign_setSign (x : Sign) : (s.setSign x).sign = x := Function.update_self ..

/-- What `AssignMessageOnSign` changes: the message may count as not shown, and its text may be stored. -/
structure Assigned (s : State) (i : Int) (text : Str) (calls : AssignCalls) (t : State) (ok : Bool) : Prop where
  messages : t._signMessages = s._signMessages
  initialized : t._isSignMessagesInitialized = s._isSignMessagesInitialized
  shown : t._msgIdShown = s._msgIdShown ∨ t._msgIdShown = -1
  activated : t.sign.activated = s.sign.activated
  others : ∀ j, j ≠ i → t.sign.stored j = s.sign.stored j
  stored : ok → calls.notUsed = 1 ∧ calls.modifying = 2 ∧ calls.valid = 4 ∧
    (calls.stores → t.sign.stored i = some text)

theorem assigned (s : State) (i : Int) (text : Str) (calls : AssignCalls) :
    s.Assigned i text calls (s.AssignMessageOnSign i text calls).1 (s.AssignMessageOnSign i text calls).2 := by
  unfold AssignMessageOnSign
  generalize hs' : (if s._msgIdRequested = i then { s with _msgIdShown := -1 } else s) = s'
  obtain ⟨hmessages, hinit, hshown, hsign⟩ : s'._signMessages = s._signMessages ∧
      s'._isSignMessagesInitialized = s._isSignMessagesInitialized ∧
      (s'._msgIdShown = s._msgIdShown ∨ s'._msgIdShown = -1) ∧ s'.sign = s.sign := by
    rw [← hs']
    split
    · exact ⟨rfl, rfl, .inr rfl, rfl⟩
    · exact ⟨rfl, rfl, .inl rfl, rfl⟩
  have hfail : s.Assigned i text calls s' false :=
    ⟨hmessages, hinit, hshown, by rw [hsign], fun j _ => by rw [hsign], fun h => absurd h Bool.false_ne_true⟩
  dsimp only
  by_cases hzero : i = 0
  · rw [if_pos hzero]
    exact hfail
  rw [if_neg hzero]
  by_cases hnotUsed : calls.notUsed ≠ 1
  · rw [if_pos hnotUsed]
    exact hfail
  rw [if_neg hnotUsed]
  by_cases hmodifying : calls.modifying ≠ 2
  · rw [if_pos hmodifying]
    exact hfail
  rw [if_neg hmodifying]
  have hok : ∀ {ok : Bool}, ok = decide (calls.valid = 4) → ok → calls.notUsed = 1 ∧ calls.modifying = 2 ∧ calls.valid = 4 :=
    fun h hok => ⟨not_not.1 hnotUsed, not_not.1 hmodifying, of_decide_eq_true (h ▸ hok)⟩
  by_cases hstores : calls.stores
  · rw [if_pos hstores]
    refine ⟨hmessages, hinit, hshown, ?_, ?_, ?_⟩
    · rw [sign_setSign, hsign]
    · intro j hj
      rw [sign_setSign, hsign]
      exact Function.update_of_ne hj ..
    · intro h
      obtain ⟨h1, h2, h3⟩ := hok rfl h
      refine ⟨h1, h2, h3, fun _ => ?_⟩
      rw [sign_setSign]
      exact Function.update_self ..
  · rw [if_neg hstores]
    refine ⟨hmessages, hinit, hshown, by rw [hsign], fun j _ => by rw [hsign], ?_⟩
    intro h
    obtain ⟨h1, h2, h3⟩ := hok rfl h
    exact ⟨h1, h2, h3, fun hs => absurd hs hstores⟩

/-- An assignment whose statuses are right stored the text. -/
def Stores (calls : AssignCalls) : Prop := calls.notUsed = 1 → calls.modifying = 2 → calls.valid = 4 → calls.stores

/-- During the assignment of a text that is not initialised. -/
theorem Known.assigned {i : Int} {calls : AssignCalls} {ok : Bool} (h : s.Known todo)
    (hm : s._signMessages i = some m) (hinit : ¬ m.IsDmsTextInitialized) (ha : s.Assigned i m.DmsText calls t ok) :
    t.Known todo where
  stored := by
    intro j m' hj hm' hinit'
    rw [ha.messages] at hm'
    have hji : j ≠ i := by
      rintro rfl
      rw [hm, Option.some.injEq] at hm'
      exact hinit (hm' ▸ hinit')
    rw [ha.others j hji]
    exact h.stored j m' hj hm' hinit'
  initialized := by
    rw [ha.initialized, ha.messages]
    exact h.initialized
  shown := by
    rw [ha.activated]
    rcases ha.shown with hshown | hshown
    · rw [hshown]
      exact h.shown
    · exact fun hne => absurd hshown hne
  ids := by
    rw [ha.messages]
    exact h.ids

/-- The text is initialised that the sign stored. -/
theorem Known.setMessage {i : Int} (h : s.Known todo) (hm : s._signMessages i = some m)
    (hstored : s.sign.stored i = some m.DmsText) :
    (s.setMessage i { m with IsDmsTextInitialized := true }).Known todo where
  stored := by
    intro j m' hj hm' hinit'
    by_cases hji : j = i
    · subst hji
      have heq := (Function.update_self ..).symm.trans hm'
      rw [Option.some.injEq] at heq
      rw [← heq]
      exact .inl hstored
    · exact h.stored j m' hj ((Function.update_of_ne hji ..).symm.trans hm') hinit'
  initialized := by
    intro hinit j m' hj hm'
    by_cases hji : j = i
    · subst hji
      have heq := (Function.update_self ..).symm.trans hm'
      rw [Option.some.injEq] at heq
      rw [← heq]
    · exact h.initialized hinit j m' hj ((Function.update_of_ne hji ..).symm.trans hm')
  shown := h.shown
  ids := by
    intro j m' hm'
    by_cases hji : j = i
    · subst hji
      exact h.ids j m hm
    · exact h.ids j m' ((Function.update_of_ne hji ..).symm.trans hm')

/-- A text that is not yet initialised is sent. -/
theorem Known.initializeText {i : Int} {calls : AssignCalls} (h : s.Known todo) (hm : s._signMessages i = some m)
    (hstores : Stores calls) :
    (s.initializeText i m calls).1.Known todo ∧
      (s.initializeText i m calls).1._isSignMessagesInitialized = s._isSignMessagesInitialized ∧
      (∀ j, j ≠ i → (s.initializeText i m calls).1._signMessages j = s._signMessages j) ∧
      ∃ m', (s.initializeText i m calls).1._signMessages i = some m' ∧
        (m.IsDmsTextInitialized → m'.IsDmsTextInitialized) ∧
        ((s.initializeText i m calls).2 → m'.IsDmsTextInitialized) := by
  unfold State.initializeText
  by_cases hinit : m.IsDmsTextInitialized
  · rw [if_pos hinit]
    exact ⟨h, rfl, fun j _ => rfl, m, hm, fun hi => hi, fun _ => hinit⟩
  rw [if_neg hinit]
  have hassigned := s.assigned i m.DmsText calls
  generalize s.AssignMessageOnSign i m.DmsText calls = r at hassigned
  obtain ⟨s', ok⟩ := r
  have hknown : s'.Known todo := h.assigned hm hinit hassigned
  cases ok with
  | false =>
    refine ⟨hknown, hassigned.initialized, fun j _ => ?_, m, ?_, fun hi => hi, fun hok => absurd hok Bool.false_ne_true⟩
    · exact congrFun hassigned.messages j
    · exact (congrFun hassigned.messages i).trans hm
  | true =>
    obtain ⟨h1, h2, h3, hstored⟩ := hassigned.stored rfl
    refine ⟨?_, hassigned.initialized, fun j hj => ?_, { m with IsDmsTextInitialized := true }, ?_, fun _ => rfl,
      fun _ => rfl⟩
    · exact hknown.setMessage ((congrFun hassigned.messages i).trans hm) (hstored (hstores h1 h2 h3))
    · exact (Function.update_of_ne hj ..).trans (congrFun hassigned.messages j)
    · exact Function.update_self ..

/-- A new or changed text is not initialised. -/
theorem Known.changeText {i : Int} {text : Str} (h : s.Known ((i, text) :: todo)) (hi : 0 ≤ i ∧ i ≤ 4) :
    Known { s.setMessage i ⟨text, false⟩ with _isSignMessagesInitialized := false } todo where
  stored := by
    intro j m' hj hm' hinit'
    by_cases hji : j = i
    · subst hji
      have heq := (Function.update_self ..).symm.trans hm'
      rw [Option.some.injEq] at heq
      rw [← heq] at hinit'
      cases hinit'
    · rcases h.stored j m' hj ((Function.update_of_ne hji ..).symm.trans hm') hinit' with hstored | ⟨t, ht, hne⟩
      · exact .inl hstored
      · rcases List.mem_cons.1 ht with heq | ht
        · exact absurd (congrArg Prod.fst heq) hji
        · exact .inr ⟨t, ht, hne⟩
  initialized := fun hinit => absurd hinit Bool.false_ne_true
  shown := h.shown
  ids := by
    intro j m' hm'
    by_cases hji : j = i
    · rw [hji]
      exact hi
    · exact h.ids j m' ((Function.update_of_ne hji ..).symm.trans hm')

theorem Known.sameText {i : Int} {text : Str} (h : s.Known ((i, text) :: todo)) (hm : s._signMessages i = some m)
    (hsame : m.DmsText = text) : s.Known todo where
  stored := by
    intro j m' hj hm' hinit'
    rcases h.stored j m' hj hm' hinit' with hstored | ⟨t, ht, hne⟩
    · exact .inl hstored
    · rcases List.mem_cons.1 ht with heq | ht
      · obtain ⟨rfl, rfl⟩ := Prod.mk.inj heq
        rw [hm, Option.some.injEq] at hm'
        rw [← hm'] at hne
        exact absurd hsame.symm hne
      · exact .inr ⟨t, ht, hne⟩
  initialized := h.initialized
  shown := h.shown
  ids := h.ids

theorem Known.AddSignMessage {i : Int} {text : Str} {calls : AssignCalls} (h : s.Known ((i, text) :: todo))
    (hi : 0 < i ∧ i ≤ 4) (hstores : Stores calls) (sendToSign : Bool) :
    (s.AddSignMessage i text sendToSign calls).1.Known todo := by
  -- the map behind the first half, and the message in it
  have hsend : ∀ (s : State) (m : SignMessage), s.Known todo → s._signMessages i = some m →
      (if !s._enableDms || !s._isDmsControllerInitialized || m.IsDmsTextInitialized || !sendToSign then (s, true)
        else if i = 0 then (s.setMessage i { m with IsDmsTextInitialized := true }, true)
        else s.initializeText i m calls).1.Known todo := by
    intro s m hs hm
    split
    · exact hs
    · rw [if_neg (Int.ne_of_gt hi.1)]
      exact (hs.initializeText hm hstores).1
  unfold State.AddSignMessage
  cases hm : s._signMessages i with
  | none => exact hsend _ _ (h.changeText ⟨Int.le_of_lt hi.1, hi.2⟩) (Function.update_self ..)
  | some m =>
    by_cases hne : m.DmsText ≠ text
    · simp only [if_pos hne]
      exact hsend _ _ (h.changeText ⟨Int.le_of_lt hi.1, hi.2⟩) (Function.update_self ..)
    · simp only [if_neg hne]
      exact hsend _ _ (h.sameText hm (not_not.1 hne)) hm

theorem Known.addSignMessages {calls : Int → AssignCalls} (hstores : ∀ i, Stores (calls i))
    (hids : ∀ p ∈ todo, 0 < p.1 ∧ p.1 ≤ 4) (sendToSign : Bool) (h : s.Known todo) :
    (addSignMessages calls todo sendToSign s).Known [] := by
  induction todo generalizing s sendToSign with
  | nil => exact h
  | cons p todo ih =>
    obtain ⟨i, text⟩ := p
    refine ih (fun p hp => hids p (List.mem_cons_of_mem _ hp)) _ ?_
    exact h.AddSignMessage (hids _ (List.mem_cons_self ..)) (hstores i) sendToSign

theorem messages_ids (message : Int → Option Str) : ∀ p ∈ messages message, 0 < p.1 ∧ p.1 ≤ 4 := by
  simp [messages]

/-- The loop of `InitializeSignMessages`: no id comes in, what is initialised stays so, and if the loop does not stop
all the texts are. -/
theorem Known.initializeTexts {calls : Int → AssignCalls} (hstores : ∀ i, Stores (calls i)) {is : List Int}
    (h : s.Known []) :
    (initializeTexts calls is s).1.Known [] ∧
      (∀ j m', (initializeTexts calls is s).1._signMessages j = some m' →
        ∃ m, s._signMessages j = some m ∧ (m.IsDmsTextInitialized → m'.IsDmsTextInitialized)) ∧
      ((initializeTexts calls is s).2 →
        ∀ i ∈ is, ∀ m', (initializeTexts calls is s).1._signMessages i = some m' → m'.IsDmsTextInitialized) := by
  induction is generalizing s with
  | nil => exact ⟨h, fun j m' hm' => ⟨m', hm', fun hi => hi⟩, fun _ i hi => absurd hi List.not_mem_nil⟩
  | cons i is ih =>
    unfold State.initializeTexts
    cases hm : s._signMessages i with
    | none =>
      obtain ⟨hknown, hkeep, hall⟩ := ih h
      refine ⟨hknown, hkeep, fun hok j hj m' hm' => ?_⟩
      rcases List.mem_cons.1 hj with rfl | hj
      · obtain ⟨m, hm'', -⟩ := hkeep _ m' hm'
        rw [hm] at hm''
        cases hm''
      · exact hall hok j hj m' hm'
    | some m =>
      obtain ⟨hknown, -, hothers, m₁, hm₁, hkept, hdone⟩ := h.initializeText hm (hstores i)
      have hback : ∀ j m', (s.initializeText i m (calls i)).1._signMessages j = some m' →
          ∃ m, s._signMessages j = some m ∧ (m.IsDmsTextInitialized → m'.IsDmsTextInitialized) := by
        intro j m' hm'
        by_cases hji : j = i
        · subst hji
          rw [hm₁, Option.some.injEq] at hm'
          exact ⟨m, hm, hm' ▸ hkept⟩
        · exact ⟨m', (hothers j hji).symm.trans hm', fun hi => hi⟩
      dsimp only
      generalize s.initializeText i m (calls i) = r at hknown hm₁ hdone hback
      obtain ⟨s', ok⟩ := r
      cases ok with
      | false => exact ⟨hknown, hback, fun hok => absurd hok Bool.false_ne_true⟩
      | true =>
        obtain ⟨hknown', hkeep, hall⟩ := ih hknown
        refine ⟨hknown', fun j m' hm' => ?_, fun hok j hj m' hm' => ?_⟩
        · obtain ⟨m₂, hm₂, hi₂⟩ := hkeep j m' hm'
          obtain ⟨m₃, hm₃, hi₃⟩ := hback j m₂ hm₂
          exact ⟨m₃, hm₃, fun hi => hi₂ (hi₃ hi)⟩
        · rcases List.mem_cons.1 hj with rfl | hj
          · obtain ⟨m₂, hm₂, hi₂⟩ := hkeep _ m' hm'
            rw [hm₁, Option.some.injEq] at hm₂
            exact hi₂ (hm₂ ▸ hdone rfl)
          · exact hall hok j hj m' hm'

/-! ### One event -/

/-- The members are right for the sign at an address, up to the texts that are about to change. -/
def KnownAt (s : State) (address : Str × Fin (2 ^ 32)) (todo : List (Int × Str)) : Prop :=
  (∀ i m, i ≠ 0 → s._signMessages i = some m → m.IsDmsTextInitialized →
    (s.signs address).stored i = some m.DmsText ∨ ∃ text, (i, text) ∈ todo ∧ text ≠ m.DmsText) ∧
  (s._msgIdShown ≠ -1 → (s.signs address).activated = some s._msgIdShown)

/-- No message counts as shown without an activation. -/
def ShowsOnSign (s : State) (msgId : Int) : Prop :=
  ¬ s._enableDms → s._isSignMessagesInitialized → (s._signMessages msgId).isSome → s._msgIdShown ≠ msgId →
    s.sign.activated = some msgId

/-- A new address leads to a sign that was told the same, messages are shown on the sign, and an assignment whose
statuses are right stored the text. -/
def Careful (s : State) : Event → Prop
  | .UpdateConfig cfg calls => (∀ i, Stores (calls i)) ∧
    ((cfg.dmsIpAddress.getD s._dmsIpAddress, cfg.dmsPort.getD s._dmsPort) ≠ s.address →
      s.KnownAt (cfg.dmsIpAddress.getD s._dmsIpAddress, cfg.dmsPort.getD s._dmsPort) (messages cfg.message))
  | .force forceMessageId _ => s.ShowsOnSign (if forceMessageId ≠ -1 then forceMessageId else 0)
  | .request msgId _ => s.ShowsOnSign msgId
  | .cycle calls _ => (∀ i, Stores (calls i)) ∧ s.ShowsOnSign s._msgIdRequested

theorem Known.UpdateConfig {cfg : Config} {calls : Int → AssignCalls} (h : s.Known [])
    (hcareful : s.Careful (.UpdateConfig cfg calls)) : (s.UpdateConfig cfg calls).Known [] := by
  obtain ⟨hstores, haddress⟩ := hcareful
  unfold State.UpdateConfig
  refine Known.addSignMessages hstores (messages_ids cfg.message) true ?_
  unfold setConfigs
  dsimp only
  split
  · rename_i hne
    obtain ⟨hstored, hshown⟩ := haddress fun heq => by
      obtain ⟨hip, hport⟩ := Prod.mk.inj heq
      exact hne.elim (absurd hip) (absurd hport)
    exact ⟨hstored, h.initialized, hshown, h.ids⟩
  · refine ⟨fun i m hi hm hinit => ?_, h.initialized, h.shown, h.ids⟩
    rcases h.stored i m hi hm hinit with hstored | ⟨text, htext, -⟩
    · exact .inl hstored
    · cases htext

/-- A message counts as shown that the sign accepted. -/
theorem Known.show {msgId : Int} (h : s.Known todo) (hmessages : t._signMessages = s._signMessages)
    (hinit : t._isSignMessagesInitialized = s._isSignMessagesInitialized) (hstored : t.sign.stored = s.sign.stored)
    (hactivated : t.sign.activated = some msgId) (hshown : t._msgIdShown = msgId) : t.Known todo where
  stored := by
    rw [hmessages, hstored]
    exact h.stored
  initialized := by
    rw [hmessages, hinit]
    exact h.initialized
  shown := fun _ => by rw [hactivated, hshown]
  ids := by
    rw [hmessages]
    exact h.ids

theorem Known.SetRequestedMessage {msgId : Int} {activated : Bool} (h : s.Known []) (hshows : s.ShowsOnSign msgId) :
    (s.SetRequestedMessage msgId activated).Known [] := by
  have hrequested : Known { s with _msgIdRequested := msgId } [] := h.of_eq rfl rfl (fun hi => hi) (.inl rfl)
  unfold State.SetRequestedMessage
  dsimp only
  by_cases heq : msgId = s._msgIdShown
  · rw [if_pos heq]
    exact hrequested
  rw [if_neg heq]
  unfold ShowSignMessage
  by_cases hinit : s._isSignMessagesInitialized
  · rw [if_neg (by simp [hinit])]
    cases hm : s._signMessages msgId with
    | none => exact hrequested
    | some m =>
      dsimp only
      by_cases henable : s._enableDms
      · rw [if_pos henable]
        unfold State.ActivateMessage
        by_cases hactivated : activated
        · rw [if_pos hactivated]
          have hsign : ∀ t : State, t.signs = Function.update s.signs s.address { s.sign with activated := some msgId } →
              t.address = s.address → t.sign = { s.sign with activated := some msgId } := by
            intro t hsigns haddress
            unfold State.sign
            rw [hsigns, haddress]
            exact Function.update_self ..
          refine hrequested.show rfl rfl ((congrArg Sign.stored (hsign _ ?_ ?_)).trans ?_)
            ((congrArg Sign.activated (hsign _ ?_ ?_)).trans ?_) rfl <;> rfl
        · rw [if_neg hactivated]
          exact hrequested
      · rw [if_neg henable]
        exact hrequested.show rfl rfl rfl (hshows henable hinit (by rw [hm]; rfl) (Ne.symm heq)) rfl
  · rw [if_pos (by simp [hinit])]
    exact hrequested

theorem Known.cycle {calls : Int → AssignCalls} {activated : Bool} (h : s.Known []) (hstores : ∀ i, Stores (calls i))
    (hshows : s.ShowsOnSign s._msgIdRequested) : (s.cycle calls activated).Known [] := by
  unfold State.cycle
  split
  · split
    · exact h.SetRequestedMessage hshows
    · exact h
  · unfold InitializeSignMessages
    by_cases henable : s._enableDms
    · rw [if_neg (by simp [henable])]
      obtain ⟨hknown, -, hall⟩ := @Known.initializeTexts s calls hstores [1, 2, 3, 4] h
      refine ⟨hknown.stored, fun hok i m hi hm => ?_, hknown.shown, hknown.ids⟩
      refine hall hok i ?_ m hm
      have hid := hknown.ids i m hm
      simp only [List.mem_cons, List.not_mem_nil, or_false]
      omega
    · rw [if_pos (by simp [henable])]
      exact h.of_eq rfl rfl (fun hi => absurd hi Bool.false_ne_true) (.inl rfl)

theorem known_step {e : Event} (h : s.Known []) (hcareful : s.Careful e) (hstep : s.step e = some t) : t.Known [] := by
  cases e with
  | UpdateConfig cfg calls =>
    cases hstep
    exact h.UpdateConfig hcareful
  | force forceMessageId activated =>
    cases hstep
    exact h.SetRequestedMessage hcareful
  | request msgId activated =>
    cases hstep
    exact h.SetRequestedMessage hcareful
  | cycle calls activated =>
    cases hstep
    exact h.cycle hcareful.1 hcareful.2

theorem init_messages (signs : Str × Fin (2 ^ 32) → Sign) {i : Int} (hi : i ≠ 0) :
    (State.init signs)._signMessages i = none := by
  simp only [State.init, Function.update_of_ne hi]

theorem known_init (signs : Str × Fin (2 ^ 32) → Sign) : (State.init signs).Known [] where
  stored := by
    intro i m hi hm
    rw [init_messages signs hi] at hm
    cases hm
  initialized := fun hinit => absurd hinit Bool.false_ne_true
  shown := fun hne => absurd rfl hne
  ids := by
    intro i m hm
    by_cases hi : i = 0
    · subst hi
      decide
    · rw [init_messages signs hi] at hm
      cases hm

end State

/-- In every run whose events are careful the sign shows what the plugin reports. -/
theorem sign_shows {signs : Str × Fin (2 ^ 32) → Sign} {es : List Event} {s : State}
    (hcareful : (plugin signs).Meets State.Careful (plugin signs).init es)
    (h : (plugin signs).exec (plugin signs).init es = some s) : s.Shows := by
  have hinit : (plugin signs).init.Known [] := State.known_init signs
  have hknown : s.Known [] := Machine.invariant_meets (I := fun s : State => s.Known []) hinit
    (fun _ _ _ hI hc hs => State.known_step hI hc hs) hcareful h
  exact hknown.shows

/-- Signs that were told nothing. -/
def blankSigns : Str × Fin (2 ^ 32) → Sign := fun _ => ⟨fun _ => none, none⟩

def slowDown (dmsIpAddress : String) : Config where
  enableDms := some true
  dmsIpAddress := some (CString.lit dmsIpAddress)
  dmsPort := some 9090
  message := fun _ => some (CString.lit "SLOW[np]DOWN")

def succeeding : Int → AssignCalls := fun _ => ⟨1, 2, true, 4⟩

/-- A message is requested on the first sign. -/
theorem sign_shows_first_sign : ∃ s, (plugin blankSigns).exec (plugin blankSigns).init
    [.UpdateConfig (slowDown "10.0.0.1") succeeding, .cycle succeeding true, .request 2 true] = some s ∧ s.Shows := by
  have hstores : ∀ i, State.Stores (succeeding i) := fun _ _ _ _ => rfl
  have hcareful : (plugin blankSigns).Meets State.Careful (plugin blankSigns).init
      [.UpdateConfig (slowDown "10.0.0.1") succeeding, .cycle succeeding true, .request 2 true] := by
    refine ⟨⟨hstores, fun _ => ⟨?_, fun hne => absurd rfl hne⟩⟩, ?_⟩
    · intro i m hi hm
      rw [show (plugin blankSigns).init._signMessages i = none from State.init_messages blankSigns hi] at hm
      cases hm
    · intro s hs
      cases hs
      refine ⟨⟨hstores, fun hne => absurd rfl hne⟩, ?_⟩
      intro s hs
      cases hs
      exact ⟨fun hne => absurd rfl hne, fun _ _ => trivial⟩
  obtain ⟨s, hs⟩ : ∃ s, (plugin blankSigns).exec (plugin blankSigns).init
      [.UpdateConfig (slowDown "10.0.0.1") succeeding, .cycle succeeding true, .request 2 true] = some s := ⟨_, rfl⟩
  exact ⟨s, hs, sign_shows hcareful hs⟩

/-- The address is changed to a sign that was told nothing. -/
theorem sign_shows_second_sign :
    ¬ ∀ (signs : Str × Fin (2 ^ 32) → Sign) (es : List Event) (s : State),
      (plugin signs).exec (plugin signs).init es = some s → s.Shows := by
  intro h
  have hshows := h blankSigns [.UpdateConfig (slowDown "10.0.0.1") succeeding, .cycle succeeding true, .request 2 true,
    .UpdateConfig (slowDown "10.0.0.2") succeeding] _ rfl rfl rfl rfl ⟨CString.lit "SLOW[np]DOWN", true⟩ rfl
  have hactivated : (none : Option Int) = some 2 := hshows.1
  cases hactivated

end V2xHub.DmsPlugin
