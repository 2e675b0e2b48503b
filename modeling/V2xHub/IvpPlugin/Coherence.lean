import Mathlib.Data.Fintype.Option
import V2xHub.IvpPlugin.Basic

/-!
# What the connection of a plugin keeps

A fatal error is lost where a thread reports a failed send after it; a message goes astray where the receiving thread closes the
socket of a thread that has tested the state; and the filter is lost where the application subscribes while the receiving thread
holds the pointer to the stored one. In the runs without these three steps the error is final, messages go out on the
connection only, and the core has the filter that the application passed last.
-/

namespace V2xHub.IvpPlugin
variable {τ φ : Type}

/-- The thread has the lock. -/
def Call.holds : Call φ → Bool
  | .replacing _ | .enter (.subscribe _) | .test _ | .socket _ | .send _ _ | .report _ | .release => true
  | _ => false

/-- The thread has tested the state and has not sent yet. -/
def Call.sending : Call φ → Bool
  | .socket _ | .send _ _ => true
  | _ => false

/-- The stored filter is freed, and its successor not stored yet. -/
def Call.isReplacing : Call φ → Bool
  | .replacing _ => true
  | _ => false

/-- The thread waits for the lock in `ivp_subscribe`. -/
def Call.isSubscribing : Call φ → Bool
  | .subscribing _ => true
  | _ => false

/-- The filter of the subscription that is under way. -/
def Call.subscribes : Call φ → Option (Option φ)
  | .replacing filter => some filter
  | .enter (.subscribe filter) | .test (.subscribe filter) | .socket (.subscribe filter) | .send (.subscribe filter) _
  | .report (.subscribe filter) => some filter
  | _ => none

/-- An error that was reported as fatal is final; a plugin is registered only with a configuration; messages are sent on the
connection; the stored filter, where it is not being replaced, is the one that was passed last; and the core has it while the
receiving thread waits, but for a subscription that is under way. -/
structure Coherent (s : State τ φ) : Prop where
  fatal : s.fatal = true → s.state = .error ∧ s.late = false
  registered : s.state = .registered → s.configured = true
  socket : s.stray = false
  filter : (∀ t, (s.calls t).isReplacing = false) → s.filter.map Prod.snd = s.passed
  subscribed : s.receiver = .recv → s.state = .registered → (∀ t, (s.calls t).subscribes = none) →
    s.subscription = some s.passed

/-- No failed send is reported behind a fatal error; the application does not replace the filter while the receiving thread has a
pointer to it, which it does not read while the filter is replaced; and the socket is not closed under a thread that sends. -/
def Sound (s : State τ φ) : Event τ φ → Prop
  | .call t _ =>
    match s.calls t with
    | .report _ => s.state ≠ .error
    | .subscribing (.own filter) => Argument.isStored s.filter (.own filter) = false → (s.calls none).isSubscribing = false
    | _ => True
  | .ivp_receive _ _ =>
    match s.receiver with
    | .close => ∀ t, (s.calls t).sending = false
    | .readFilter _ => ∀ t, (s.calls t).isReplacing = false
    | _ => True
  | _ => True

/-- The state is not online here. -/
def Receiver.offline : Receiver → Bool
  | .outer | .connect | .setConnected | .close | .clear | .ended => true
  | _ => false

/-- There is no connection here. -/
def Receiver.unlinked : Receiver → Bool
  | .outer | .connect | .clear | .ended => true
  | _ => false

/-- Where a fatal error is reported and what follows it. -/
def Receiver.severing : Receiver → Bool
  | .dispatch _ | .testConnected _ | .inner | .close | .clear | .outer | .ended => true
  | _ => false

/-- A configuration was received. -/
def Receiver.hasConfig : Receiver → Bool
  | .testConnected _ | .setRegistered _ => true
  | _ => false

/-- The thread waits for a call it made. -/
def Receiver.calling : Receiver → Bool
  | .registering | .subscribed _ => true
  | _ => false

def Receiver.isReadFilter : Receiver → Bool
  | .readFilter _ => true
  | _ => false

/-- What holds of a thread in a call. -/
structure CallOk (s : State τ φ) (t : Option τ) (c : Call φ) : Prop where
  linked : c.sending = true → s.isOpen = true ∧ s.socket = some s.connection
  fd : ∀ msg fd, c = .send msg fd → fd = some s.connection
  subscribes : ∀ f, c.subscribes = some f → f = s.passed
  waiting : ∀ f, c = .subscribing (.stored f) → t = none ∧ s.filter.map Prod.fst = f.map Prod.fst

/-- The receiving thread has no pointer to the stored filter while that is replaced. -/
def Alone (calls : Option τ → Call φ) : Prop := ∀ t f, calls t = .replacing f → ∀ g, calls none ≠ .subscribing g

structure Inv (s : State τ φ) : Prop where
  owned : Threads.Owned s.lock Call.holds s.calls
  offline : s.receiver.offline = true → s.state.isOnline = false
  linked : s.receiver.unlinked = false → s.isOpen = true ∧ s.socket = some s.connection
  closed : s.receiver.unlinked = true → s.isOpen = false
  calls : ∀ t, CallOk s t (s.calls t)
  alone : Alone s.calls
  idle : s.receiver.calling = false → s.calls none = .idle
  fatal : s.fatal = true → s.state = .error ∧ s.receiver.severing = true
  late : s.late = false
  configured : s.state = .registered ∨ s.receiver.hasConfig = true → s.configured = true
  socket : s.stray = false
  filter : (∀ t f, s.calls t ≠ .replacing f) → s.filter.map Prod.snd = s.passed
  subscribed : s.state = .registered → s.receiver.isReadFilter = true ∨ (∃ f, s.calls none = .subscribing f) ∨
    (∃ t, (s.calls t).subscribes ≠ none) ∨ s.subscription = some s.passed

theorem inv_init : Inv (State.init : State τ φ) where
  owned := .none fun _ => rfl
  offline _ := rfl
  linked := nofun
  closed _ := rfl
  calls _ := ⟨nofun, nofun, nofun, nofun⟩
  alone _ _ := nofun
  idle _ := rfl
  fatal := nofun
  late := rfl
  configured h := h.elim nofun nofun
  socket := rfl
  filter _ := rfl
  subscribed := nofun

variable {s s' : State τ φ} {t u : Option τ} {c : Call φ} {msg : Outgoing φ} {sent connected : Bool}

theorem Inv.coherent (h : Inv s) : Coherent s where
  fatal hfatal := ⟨(h.fatal hfatal).1, h.late⟩
  registered hregistered := h.configured (.inl hregistered)
  socket := h.socket
  filter hnone := h.filter fun t f hf => by
    have hfalse := hnone t
    rw [hf] at hfalse
    nomatch hfalse
  subscribed hreceiver hregistered hnone := by
    have hidle : s.calls none = .idle := h.idle (by rw [hreceiver]; rfl)
    obtain hread | ⟨f, hwaiting⟩ | ⟨t, hsubscribes⟩ | hsubscribed := h.subscribed hregistered
    · rw [hreceiver] at hread
      nomatch hread
    · rw [hidle] at hwaiting
      nomatch hwaiting
    · exact absurd (hnone t) hsubscribes
    · exact hsubscribed

/-- What is said of a thread without the lock does not change with the filter. -/
theorem CallOk.of_not_holds (hc : c.holds = false) (hwaiting : ∀ f, c ≠ .subscribing (.stored f)) : CallOk s' t c := by
  refine ⟨fun hsending => ?_, fun msg fd hsend => ?_, fun f hf => ?_, fun f hf => absurd hf (hwaiting f)⟩
  · cases c with
    | socket => nomatch hc
    | send => nomatch hc
    | _ => nomatch hsending
  · subst hsend
    nomatch hc
  · cases c with
    | enter msg =>
      cases msg with
      | subscribe filter => nomatch hc
      | other => nomatch hf
    | replacing | test | socket | send | report => nomatch hc
    | _ => nomatch hf

theorem CallOk.congr (h : CallOk s t c) (hopen : s'.isOpen = s.isOpen) (hsocket : s'.socket = s.socket)
    (hconnection : s'.connection = s.connection) (hpassed : s'.passed = s.passed) (hfilter : s'.filter = s.filter) :
    CallOk s' t c := by
  refine ⟨fun hsending => ?_, fun msg fd hsend => ?_, fun f hf => ?_, fun f hf => ?_⟩
  · rw [hopen, hsocket, hconnection]
    exact h.linked hsending
  · rw [hconnection]
    exact h.fd msg fd hsend
  · rw [hpassed]
    exact h.subscribes f hf
  · rw [hfilter]
    exact h.waiting f hf

theorem holds_of_subscribes (h : c.subscribes ≠ none) : c.holds = true := by
  cases c with
  | enter msg =>
    cases msg with
    | subscribe filter => rfl
    | other => exact absurd rfl h
  | replacing | test | socket | send | report => rfl
  | _ => exact absurd rfl h

theorem Inv.not_holds (h : Inv s) (hlock : s.lock = none) (t : Option τ) : (s.calls t).holds = false := by
  rw [← Bool.not_eq_true, ← h.owned t, hlock]
  nofun

/-- Nobody replaces the filter while the lock is free. -/
theorem Inv.not_replacing (h : Inv s) (hlock : s.lock = none) (t : Option τ) (f : Option φ) : s.calls t ≠ .replacing f := by
  intro heq
  have hholds := h.not_holds hlock t
  rw [heq] at hholds
  nomatch hholds

/-- The thread with the lock is the only one that has it. -/
theorem Inv.other_not_holds (h : Inv s) (ht : (s.calls t).holds = true) (hu : u ≠ t) : (s.calls u).holds = false := by
  rw [← Bool.not_eq_true]
  exact fun hholds => hu (h.owned.unique hholds ht)

/-- A thread that has the lock and does not replace the filter: nobody does. -/
theorem Inv.none_replacing (h : Inv s) (ht : (s.calls t).holds = true) (hcall : ∀ f, s.calls t ≠ .replacing f) (u : Option τ)
    (f : Option φ) : s.calls u ≠ .replacing f := by
  intro hu
  have hne : u ≠ t := fun heq => hcall f (heq ▸ hu)
  have hfree := h.other_not_holds ht hne
  rw [hu] at hfree
  nomatch hfree

/-- Where there is a connection if the state is online. -/
theorem Inv.online (h : Inv s) (honline : s.state.isOnline = true) : s.isOpen = true ∧ s.socket = some s.connection := by
  refine h.linked ?_
  have hoffline : s.receiver.offline = false := by
    rw [← Bool.not_eq_true]
    intro hoffline
    rw [h.offline hoffline] at honline
    nomatch honline
  cases hreceiver : s.receiver with
  | outer | connect | clear | ended => rw [hreceiver] at hoffline; nomatch hoffline
  | _ => rfl

section Calls
variable [DecidableEq τ]

theorem forall_setCall {P : Option τ → Call φ → Prop} (ht : P t c) (hu : ∀ u ≠ t, P u (s.calls u)) (u : Option τ) :
    P u ((s.setCall t c).calls u) := by
  unfold State.setCall
  dsimp only
  rcases eq_or_ne u t with rfl | hne
  · rwa [Function.update_self]
  · rw [Function.update_of_ne hne]
    exact hu u hne

theorem alone_update (h : Alone s.calls) (hreplacing : ∀ f, c ≠ .replacing f) (hsubscribing : ∀ g, c ≠ .subscribing g) :
    Alone (Function.update s.calls t c) := by
  have hback : ∀ u d, Function.update s.calls t c u = d → d ≠ c → s.calls u = d := by
    rintro u d rfl hd
    rcases eq_or_ne u t with rfl | hne
    · exact absurd (Function.update_self _ _ _) hd
    · rw [Function.update_of_ne hne]
  intro u f hu g hg
  exact h u f (hback u _ hu (hreplacing f).symm) g (hback none _ hg (hsubscribing g).symm)

@[simp] theorem calls_setCall_self : (s.setCall t c).calls t = c := Function.update_self _ _ _

theorem calls_setCall_of_ne (hu : u ≠ t) : (s.setCall t c).calls u = s.calls u := Function.update_of_ne hu _ _

theorem Inv.idle_setCall (h : Inv s) (hbusy : s.calls t ≠ .idle) (hcalling : s.receiver.calling = false) :
    (s.setCall t c).calls none = .idle := by
  have hidle := h.idle hcalling
  have hne : none ≠ t := by
    rintro rfl
    exact hbusy hidle
  exact (calls_setCall_of_ne hne).trans hidle

/-- A step that leaves the lock and everything else as it is. -/
theorem inv_setCall {c₀ : Call φ} (h : Inv s) (hcall : s.calls t = c₀) (hc : CallOk s t c) (hholds : c.holds = c₀.holds)
    (hreplacing' : ∀ f, c ≠ .replacing f) (hsubscribing : ∀ f, c ≠ .subscribing f)
    (hbusy : c₀ ≠ .idle) (hreplacing : ∀ f, c₀ ≠ .replacing f) (hwaiting : ∀ f, c₀ ≠ .subscribing f)
    (hsubscribes : s.state = .registered → c₀.subscribes ≠ none → c.subscribes ≠ none) : Inv (s.setCall t c) where
  owned := h.owned.stay (by rw [hcall]; exact hholds)
  offline := h.offline
  linked := h.linked
  closed := h.closed
  calls := forall_setCall (P := fun u c' => CallOk (s.setCall t c) u c') (hc.congr rfl rfl rfl rfl rfl)
    fun u _ => (h.calls u).congr rfl rfl rfl rfl rfl
  alone := alone_update h.alone hreplacing' hsubscribing
  idle := h.idle_setCall (by rw [hcall]; exact hbusy)
  fatal := h.fatal
  late := h.late
  configured := h.configured
  socket := h.socket
  filter hnone := by
    refine h.filter fun u f => ?_
    rcases eq_or_ne u t with rfl | hne
    · rw [hcall]
      exact hreplacing f
    · rw [← calls_setCall_of_ne (c := c) hne]
      exact hnone u f
  subscribed hregistered := by
    obtain hread | ⟨f, hf⟩ | ⟨u, hu⟩ | hsubscribed := h.subscribed hregistered
    · exact .inl hread
    · have hne : none ≠ t := by
        rintro rfl
        exact hwaiting f (hcall.symm.trans hf)
      exact .inr (.inl ⟨f, (calls_setCall_of_ne hne).trans hf⟩)
    · refine .inr (.inr (.inl ⟨u, ?_⟩))
      rcases eq_or_ne u t with rfl | hne
      · rw [calls_setCall_self]
        exact hsubscribes hregistered (hcall ▸ hu)
      · rw [calls_setCall_of_ne hne]
        exact hu
    · exact .inr (.inr (.inr hsubscribed))

theorem inv_acquire (h : Inv s) (hlock : s.lock = none) (hcall : s.calls t = .acquire) :
    Inv ({ s with lock := some t }.setCall t (.test .other)) := by
  have howned := h.owned
  rw [hlock] at howned
  refine ⟨howned.acquire rfl, h.offline, h.linked, h.closed, ?_, alone_update h.alone nofun nofun, fun hcalling => ?_, h.fatal,
    h.late, h.configured, h.socket, fun hnone => ?_, fun hregistered => ?_⟩
  · exact forall_setCall (P := fun u c' => CallOk _ u c') ⟨nofun, nofun, nofun, nofun⟩
      fun u _ => (h.calls u).congr rfl rfl rfl rfl rfl
  · have hidle := h.idle hcalling
    have hne : none ≠ t := by
      rintro rfl
      rw [hidle] at hcall
      nomatch hcall
    exact (calls_setCall_of_ne hne).trans hidle
  · exact h.filter fun u f => h.not_replacing hlock u f
  · obtain hread | ⟨f, hf⟩ | ⟨u, hu⟩ | hsubscribed := h.subscribed hregistered
    · exact .inl hread
    · have hne : none ≠ t := by
        rintro rfl
        rw [hf] at hcall
        nomatch hcall
      exact .inr (.inl ⟨f, (calls_setCall_of_ne hne).trans hf⟩)
    · exact absurd (holds_of_subscribes hu) (by rw [h.not_holds hlock u]; nofun)
    · exact .inr (.inr (.inr hsubscribed))

/-- `ivp_subscribe` takes the lock and the filter. -/
theorem inv_takeFilter {filter : Argument φ} (h : Inv s) (hlock : s.lock = none) (hcall : s.calls t = .subscribing filter)
    (hsound : Sound s (.call t sent)) : Inv (s.takeFilter t filter) := by
  have howned := h.owned
  rw [hlock] at howned
  have hstored := h.filter fun u f => h.not_replacing hlock u f
  have hfree : ∀ u, (s.calls u).holds = false := h.not_holds hlock
  dsimp only [Sound] at hsound
  rw [hcall] at hsound
  have hidle : s.receiver.calling = false → none ≠ t := by
    rintro hcalling rfl
    rw [h.idle hcalling] at hcall
    nomatch hcall
  unfold State.takeFilter
  dsimp only
  split_ifs with hsame
  · -- No pointer is replaced, and what is passed is what is stored.
    have hpassed : s.filter.map Prod.snd = filter.passed s.passed := by
      cases filter with
      | own filter =>
        obtain ⟨hnone, hnone'⟩ := Bool.and_eq_true_iff.1 hsame
        rw [Option.isNone_iff_eq_none.1 hnone, Option.isNone_iff_eq_none.1 hnone']
        rfl
      | stored filter => exact hstored
    refine ⟨howned.acquire rfl, h.offline, h.linked, h.closed, ?_, alone_update h.alone nofun nofun, fun hcalling => ?_, h.fatal,
      h.late, h.configured, h.socket, fun _ => hpassed, fun _ => .inr (.inr (.inl ⟨t, by rw [calls_setCall_self]; nofun⟩))⟩
    · refine forall_setCall (P := fun u c' => CallOk _ u c') ⟨nofun, nofun, fun f hf => ?_, nofun⟩ fun u hu => ?_
      · rw [← Option.some.inj hf]
        exact hpassed
      · refine ⟨fun hsending => ?_, fun msg fd hsend => ?_, fun f hf => ?_, (h.calls u).waiting⟩
        · exact (h.calls u).linked hsending
        · exact (h.calls u).fd msg fd hsend
        · have hholds := holds_of_subscribes (c := s.calls u) (by rw [hf]; nofun)
          rw [hfree u] at hholds
          nomatch hholds
    · exact (calls_setCall_of_ne (hidle hcalling)).trans (h.idle hcalling)
  · have hdiffers : filter.isStored s.filter = false := Bool.eq_false_iff.2 hsame
    cases filter with
    | stored filter =>
      -- The receiving thread's pointer is the stored one, so that nothing is replaced.
      rw [Argument.isStored, ((h.calls t).waiting filter hcall).2, beq_self_eq_true] at hdiffers
      nomatch hdiffers
    | own filter =>
      have hne : ∀ u ≠ t, ∀ f, s.calls u ≠ .subscribing (.stored f) := by
        intro u hu f hf
        obtain ⟨rfl, -⟩ := (h.calls u).waiting f hf
        have hfalse := hsound hdiffers
        rw [hf] at hfalse
        nomatch hfalse
      refine ⟨howned.acquire rfl, h.offline, h.linked, h.closed, ?_, fun u f _ g hg => ?_, fun hcalling => ?_, h.fatal, h.late,
        h.configured, h.socket, fun hnone => absurd calls_setCall_self (hnone t _),
        fun _ => .inr (.inr (.inl ⟨t, by rw [calls_setCall_self]; nofun⟩))⟩
      · exact forall_setCall (P := fun u c' => CallOk _ u c')
          ⟨nofun, nofun, fun f hf => (Option.some.inj hf).symm, nofun⟩ fun u hu => .of_not_holds (hfree u) (hne u hu)
      · have hne : none ≠ t := by
          rintro rfl
          rw [calls_setCall_self] at hg
          nomatch hg
        have hfalse := hsound hdiffers
        rw [(calls_setCall_of_ne hne).symm.trans hg] at hfalse
        nomatch hfalse
      · exact (calls_setCall_of_ne (hidle hcalling)).trans (h.idle hcalling)

/-- The duplicate of the filter is stored. -/
theorem inv_replace {filter : Option φ} {address : Nat} (h : Inv s) (hcall : s.calls t = .replacing filter) :
    Inv ({ s with filter := filter.map (address, ·), nextAddress := address + 1 }.setCall t (.enter (.subscribe filter))) := by
  have hholds : (s.calls t).holds = true := by rw [hcall]; rfl
  have hpassed : filter = s.passed := (h.calls t).subscribes filter (by rw [hcall]; rfl)
  have hdup : (filter.map (address, ·)).map Prod.snd = filter := by
    rw [Option.map_map]
    exact Option.map_id'
  refine ⟨h.owned.stay (by rw [hcall]; rfl), h.offline, h.linked, h.closed, ?_, alone_update h.alone nofun nofun,
    h.idle_setCall (by rw [hcall]; nofun), h.fatal, h.late, h.configured, h.socket,
    fun _ => hdup.trans hpassed, fun _ => .inr (.inr (.inl ⟨t, by rw [calls_setCall_self]; nofun⟩))⟩
  refine forall_setCall (P := fun u c' => CallOk _ u c') ⟨nofun, nofun, fun f hf => ?_, nofun⟩ fun u hu => ?_
  · rw [← Option.some.inj hf]
    exact hpassed
  · refine .of_not_holds (h.other_not_holds hholds hu) fun f hf => ?_
    obtain ⟨rfl, -⟩ := (h.calls u).waiting f hf
    exact h.alone t filter hcall _ hf

/-- The message is sent on the connection. -/
theorem inv_sendOn {fd : Nat} (h : Inv s) (hcall : s.calls t = .send msg (some fd)) : Inv (s.sendOn t msg fd) := by
  have hholds : (s.calls t).holds = true := by rw [hcall]; rfl
  obtain ⟨hopen, -⟩ := (h.calls t).linked (by rw [hcall]; rfl)
  have hfd : fd = s.connection := Option.some.inj ((h.calls t).fd msg (some fd) hcall)
  have hcurrent : (s.isOpen && fd == s.connection) = true := by rw [hopen, hfd, beq_self_eq_true]; rfl
  have hreplacing := h.none_replacing hholds (by rw [hcall]; nofun)
  unfold State.sendOn
  rw [hcurrent]
  refine ⟨h.owned.stay (by rw [hcall]; rfl), h.offline, h.linked, h.closed, ?_, alone_update h.alone nofun nofun,
    h.idle_setCall (by rw [hcall]; nofun), h.fatal, h.late, h.configured, ?_, fun _ => h.filter hreplacing, fun hregistered => ?_⟩
  · exact forall_setCall (P := fun u c' => CallOk _ u c') ⟨nofun, nofun, nofun, nofun⟩
      fun u _ => (h.calls u).congr rfl rfl rfl rfl rfl
  · change (s.stray || !true) = false
    rw [h.socket]
    rfl
  · cases msg with
    | subscribe filter =>
      have hpassed := (h.calls t).subscribes filter (by rw [hcall]; rfl)
      exact .inr (.inr (.inr (congrArg some hpassed)))
    | other =>
      obtain hread | ⟨f, hf⟩ | ⟨u, hu⟩ | hsubscribed := h.subscribed hregistered
      · exact .inl hread
      · refine .inr (.inl ⟨f, (calls_setCall_of_ne ?_).trans hf⟩)
        rintro rfl
        rw [hf] at hcall
        nomatch hcall
      · have hne : u ≠ t := by
          rintro rfl
          rw [hcall] at hu
          exact hu rfl
        exact absurd (holds_of_subscribes hu) (by rw [h.other_not_holds hholds hne]; nofun)
      · exact .inr (.inr (.inr hsubscribed))

/-- A failed send is reported: the state is not online any more. -/
theorem inv_report (h : Inv s) (hcall : s.calls t = .report msg) (herror : s.state ≠ .error) :
    Inv ((s.ivp_onStateChange .disconnected).setCall t .release) := by
  have hreplacing := h.none_replacing (t := t) (by rw [hcall]; rfl) (by rw [hcall]; nofun)
  refine ⟨h.owned.stay (by rw [hcall]; rfl), fun _ => rfl, h.linked, h.closed, ?_, alone_update h.alone nofun nofun,
    h.idle_setCall (by rw [hcall]; nofun), fun hfatal => absurd (h.fatal hfatal).1 herror, h.late,
    fun hconfig => h.configured (.inr (hconfig.resolve_left nofun)), h.socket, fun _ => h.filter hreplacing, nofun⟩
  exact forall_setCall (P := fun u c' => CallOk _ u c') ⟨nofun, nofun, nofun, nofun⟩
    fun u _ => (h.calls u).congr rfl rfl rfl rfl rfl

theorem inv_release (h : Inv s) (hcall : s.calls t = .release) : Inv ({ s with lock := none }.setCall t .idle) := by
  have hholds : (s.calls t).holds = true := by rw [hcall]; rfl
  have howned := h.owned.release (x := Call.idle) hholds rfl
  have hlast : (s.calls t).subscribes = none := by rw [hcall]; rfl
  refine ⟨howned, h.offline, h.linked, h.closed, ?_, alone_update h.alone nofun nofun,
    h.idle_setCall (by rw [hcall]; nofun), h.fatal, h.late, h.configured, h.socket,
    fun _ => h.filter (h.none_replacing hholds (by rw [hcall]; nofun)), fun hregistered => ?_⟩
  · exact forall_setCall (P := fun u c' => CallOk _ u c') ⟨nofun, nofun, nofun, nofun⟩
      fun u _ => (h.calls u).congr rfl rfl rfl rfl rfl
  · obtain hread | ⟨f, hf⟩ | ⟨u, hu⟩ | hsubscribed := h.subscribed hregistered
    · exact .inl hread
    · refine .inr (.inl ⟨f, (calls_setCall_of_ne ?_).trans hf⟩)
      rintro rfl
      rw [hf] at hcall
      nomatch hcall
    · have hne : u ≠ t := fun heq => hu (heq ▸ hlast)
      exact absurd (holds_of_subscribes hu) (by rw [h.other_not_holds hholds hne]; nofun)
    · exact .inr (.inr (.inr hsubscribed))

/-- A thread of the application makes a call. -/
theorem inv_start {t : τ} (h : Inv s) (hcall : s.calls (some t) = .idle) (hholds : c.holds = false)
    (hstored : ∀ f, c ≠ .subscribing (.stored f)) (hreplacing : ∀ f, c ≠ .replacing f) :
    Inv (s.setCall (some t) c) := by
  have hnone : (s.setCall (some t) c).calls none = s.calls none := calls_setCall_of_ne nofun
  refine ⟨h.owned.stay (by rw [hcall]; exact hholds), h.offline, h.linked, h.closed, ?_, fun u f hu g hg => ?_, fun hcalling => ?_,
    h.fatal, h.late, h.configured, h.socket, fun hall => h.filter fun u f => ?_, fun hregistered => ?_⟩
  · exact forall_setCall (P := fun u c' => CallOk _ u c') (.of_not_holds hholds hstored)
      fun u _ => (h.calls u).congr rfl rfl rfl rfl rfl
  · have hne : u ≠ some t := by
      rintro rfl
      exact hreplacing f (calls_setCall_self.symm.trans hu)
    exact h.alone u f ((calls_setCall_of_ne hne).symm.trans hu) g (hnone.symm.trans hg)
  · exact hnone.trans (h.idle hcalling)
  · rcases eq_or_ne u (some t) with rfl | hne
    · rw [hcall]
      nofun
    · rw [← calls_setCall_of_ne (c := c) hne]
      exact hall u f
  · obtain hread | ⟨f, hf⟩ | ⟨u, hu⟩ | hsubscribed := h.subscribed hregistered
    · exact .inl hread
    · exact .inr (.inl ⟨f, hnone.trans hf⟩)
    · refine .inr (.inr (.inl ⟨u, ?_⟩))
      have hne : u ≠ some t := by
        rintro rfl
        rw [hcall] at hu
        exact hu rfl
      rw [calls_setCall_of_ne hne]
      exact hu
    · exact .inr (.inr (.inr hsubscribed))

/-- The message goes on to the next step of `ivp_broadcastMessage`. -/
theorem inv_next {c₀ : Call φ} (h : Inv s) (hcall : s.calls t = c₀)
    (hlinked : c.sending = true → s.isOpen = true ∧ s.socket = some s.connection)
    (hfd : ∀ msg fd, c = .send msg fd → fd = some s.connection) (hsame : c.subscribes = c₀.subscribes)
    (hholds : c.holds = true) (hholds' : c₀.holds = true) (hreplacing : ∀ f, c ≠ .replacing f)
    (hreplacing' : ∀ f, c₀ ≠ .replacing f) : Inv (s.setCall t c) := by
  subst hcall
  have hsubscribing : ∀ d : Call φ, d.holds = true → ∀ f, d ≠ .subscribing f := by
    rintro d hd f rfl
    nomatch hd
  refine inv_setCall h rfl ⟨hlinked, hfd, fun f hf => (h.calls t).subscribes f (hsame ▸ hf),
      fun f hf => absurd hf (hsubscribing c hholds _)⟩
    (hholds.trans hholds'.symm) hreplacing (hsubscribing c hholds) (fun hidle => ?_) hreplacing' (hsubscribing _ hholds')
    fun _ hne => hsame ▸ hne
  rw [hidle] at hholds'
  nomatch hholds'

/-- What the steps of a message subscribe to. -/
def Outgoing.subscribes : Outgoing φ → Option (Option φ)
  | .subscribe filter => some filter
  | .other => none

theorem subscribes_test : (Call.test msg).subscribes = msg.subscribes := by cases msg <;> rfl

theorem subscribes_socket : (Call.socket msg).subscribes = msg.subscribes := by cases msg <;> rfl

theorem subscribes_send {fd : Option Nat} : (Call.send msg fd).subscribes = msg.subscribes := by cases msg <;> rfl

theorem subscribes_report : (Call.report msg).subscribes = msg.subscribes := by cases msg <;> rfl

theorem inv_callStep (h : Inv s) (hsound : Sound s (.call t sent)) (hstep : s.callStep t sent = some s') : Inv s' := by
  unfold State.callStep at hstep
  have hkept := h.calls t
  cases hcall : s.calls t with
  | idle => rw [hcall] at hstep; nomatch hstep
  | subscribing filter =>
    rw [hcall] at hstep
    obtain ⟨hlock, hs⟩ := Option.ite_none_right_eq_some.1 hstep
    obtain rfl := Option.some.inj hs
    exact inv_takeFilter h hlock hcall hsound
  | replacing filter =>
    rw [hcall] at hstep
    obtain rfl := Option.some.inj hstep
    exact inv_replace h hcall
  | enter msg =>
    rw [hcall] at hstep hkept
    cases msg with
    | subscribe filter =>
      obtain rfl := Option.some.inj hstep
      split_ifs with honline
      · exact inv_setCall h hcall ⟨nofun, nofun, hkept.subscribes, nofun⟩ rfl nofun nofun nofun nofun nofun fun _ _ => nofun
      · refine inv_setCall h hcall ⟨nofun, nofun, nofun, nofun⟩ rfl nofun nofun nofun nofun nofun fun hregistered => ?_
        rw [hregistered] at honline
        exact absurd rfl honline
    | other =>
      obtain rfl := Option.some.inj hstep
      split_ifs with honline
      · exact inv_setCall h hcall ⟨nofun, nofun, nofun, nofun⟩ rfl nofun nofun nofun nofun nofun fun _ hne => absurd rfl hne
      · exact inv_setCall h hcall ⟨nofun, nofun, nofun, nofun⟩ rfl nofun nofun nofun nofun nofun fun _ hne => absurd rfl hne
  | acquire =>
    rw [hcall] at hstep
    obtain ⟨hlock, hs⟩ := Option.ite_none_right_eq_some.1 hstep
    obtain rfl := Option.some.inj hs
    exact inv_acquire h hlock hcall
  | test msg =>
    rw [hcall] at hstep
    obtain rfl := Option.some.inj hstep
    split_ifs with honline
    · exact inv_next h hcall (fun _ => h.online honline) nofun (by rw [subscribes_test, subscribes_socket]) rfl rfl nofun nofun
    · refine inv_setCall h hcall ⟨nofun, nofun, nofun, nofun⟩ rfl nofun nofun nofun nofun nofun fun hregistered => ?_
      rw [hregistered] at honline
      exact absurd rfl honline
  | socket msg =>
    rw [hcall] at hstep hkept
    obtain rfl := Option.some.inj hstep
    have hlinked := hkept.linked rfl
    refine inv_next h hcall (fun _ => hlinked) (fun _ fd hfd => ?_) (by rw [subscribes_socket, subscribes_send]) rfl rfl nofun nofun
    rw [← (Call.send.inj hfd).2]
    exact hlinked.2
  | send msg fd =>
    rw [hcall] at hstep
    have hfailed : Inv (s.setCall t (.report msg)) :=
      inv_next h hcall nofun nofun (by rw [subscribes_send, subscribes_report]) rfl rfl nofun nofun
    cases fd with
    | some fd =>
      obtain rfl := Option.some.inj hstep
      split_ifs
      · exact inv_sendOn h hcall
      · exact hfailed
    | none =>
      obtain rfl := Option.some.inj hstep
      exact hfailed
  | report msg =>
    rw [hcall] at hstep
    dsimp only [Sound] at hsound
    rw [hcall] at hsound
    obtain rfl := Option.some.inj hstep
    exact inv_report h hcall hsound
  | release =>
    rw [hcall] at hstep
    obtain rfl := Option.some.inj hstep
    exact inv_release h hcall

end Calls

/-! ### The receiving thread -/

/-- The receiving thread moves, and nothing else changes. -/
theorem inv_receiver {r : Receiver} (h : Inv s) (hidle : s.calls none = .idle) (hread : s.receiver.isReadFilter = false)
    (hoffline : r.offline = true → s.state.isOnline = false)
    (hlinked : r.unlinked = s.receiver.unlinked) (hfatal : s.fatal = true → r.severing = true)
    (hconfig : r.hasConfig = true → s.configured = true) : Inv { s with receiver := r } where
  owned := h.owned
  offline := hoffline
  linked hr := h.linked (hlinked ▸ hr)
  closed hr := h.closed (hlinked ▸ hr)
  calls t := (h.calls t).congr rfl rfl rfl rfl rfl
  alone := h.alone
  idle _ := hidle
  fatal hf := ⟨(h.fatal hf).1, hfatal hf⟩
  late := h.late
  configured hregistered := hregistered.elim (fun hstate => h.configured (.inl hstate)) hconfig
  socket := h.socket
  filter := h.filter
  subscribed hregistered := .inr ((h.subscribed hregistered).resolve_left (by rw [hread]; nofun))

/-- The receiving thread goes on from the place `q`. -/
theorem inv_move {q r : Receiver} (h : Inv s) (hidle : s.calls none = .idle) (hq : s.receiver = q)
    (hoffline : r.offline = true → q.offline = true ∨ s.state.isOnline = false)
    (hfatal : s.fatal = true → r.severing = true) (hconfig : r.hasConfig = true → q.hasConfig = true)
    (hread : q.isReadFilter = false) (hlinked : r.unlinked = q.unlinked) : Inv { s with receiver := r } := by
  subst hq
  refine inv_receiver h hidle hread (fun hr => ?_) hlinked hfatal fun hr => h.configured (.inr (hconfig hr))
  rcases hoffline hr with hthere | hstate
  · exact h.offline hthere
  · exact hstate

/-- A fatal error leaves nothing to do but to close the connection. -/
theorem Inv.not_fatal (h : Inv s) (hsevering : s.receiver.severing = false) : s.fatal ≠ true := fun hfatal => by
  rw [(h.fatal hfatal).2] at hsevering
  nomatch hsevering

theorem Inv.not_sending (h : Inv s) (hunlinked : s.receiver.unlinked = true) (t : Option τ) : (s.calls t).sending = false := by
  rw [← Bool.not_eq_true]
  intro hsending
  have hopen := ((h.calls t).linked hsending).1
  rw [h.closed hunlinked] at hopen
  nomatch hopen

theorem inv_connect (h : Inv s) (hreceiver : s.receiver = .connect) :
    Inv { s with
      connection := s.connection + 1
      socket := some (s.connection + 1)
      isOpen := true
      late := s.late || s.fatal
      configured := false
      subscription := none
      receiver := .setConnected } := by
  have hoffline := h.offline (by rw [hreceiver]; rfl)
  have hnot := h.not_sending (by rw [hreceiver]; rfl)
  have hfatal : s.fatal = false := Bool.eq_false_iff.2 (h.not_fatal (by rw [hreceiver]; rfl))
  have hunregistered : s.state ≠ .registered := by
    intro hregistered
    rw [hregistered] at hoffline
    nomatch hoffline
  refine ⟨h.owned, fun _ => hoffline, fun _ => ⟨rfl, rfl⟩, nofun, fun t => ⟨fun hsending => ?_, fun msg fd hsend => ?_,
    (h.calls t).subscribes, (h.calls t).waiting⟩, h.alone, fun _ => h.idle (by rw [hreceiver]; rfl),
    fun hf => absurd hf (h.not_fatal (by rw [hreceiver]; rfl)), ?_, fun hconfig => ?_, h.socket, h.filter,
    fun hregistered => absurd hregistered hunregistered⟩
  · rw [hnot t] at hsending
    nomatch hsending
  · have hsending := hnot t
    rw [hsend] at hsending
    nomatch hsending
  · rw [h.late, hfatal]
    rfl
  · exact hconfig.elim (fun hregistered => absurd hregistered hunregistered) nofun

theorem inv_close (h : Inv s) (hidle : s.calls none = .idle) (hreceiver : s.receiver = .close)
    (hsound : ∀ t, (s.calls t).sending = false) : Inv { s with isOpen := false, receiver := .clear } := by
  have hoffline := h.offline (by rw [hreceiver]; rfl)
  refine ⟨h.owned, fun _ => hoffline, nofun, fun _ => rfl, fun t => ⟨fun hsending => ?_, (h.calls t).fd, (h.calls t).subscribes,
    (h.calls t).waiting⟩, h.alone, fun _ => hidle, fun hfatal => ⟨(h.fatal hfatal).1, rfl⟩, h.late,
    fun hconfig => hconfig.elim (fun hregistered => h.configured (.inl hregistered)) nofun, h.socket, h.filter,
    fun hregistered => ?_⟩
  · rw [hsound t] at hsending
    nomatch hsending
  · dsimp only at hregistered
    rw [hregistered] at hoffline
    nomatch hoffline

theorem inv_clear (h : Inv s) (hidle : s.calls none = .idle) (hreceiver : s.receiver = .clear) :
    Inv { s with socket := none, receiver := .outer } := by
  have hoffline := h.offline (by rw [hreceiver]; rfl)
  have hunlinked : s.receiver.unlinked = true := by rw [hreceiver]; rfl
  refine ⟨h.owned, fun _ => hoffline, nofun, fun _ => h.closed hunlinked, fun t => ⟨fun hsending => ?_, (h.calls t).fd,
    (h.calls t).subscribes, (h.calls t).waiting⟩, h.alone, fun _ => hidle, fun hfatal => ⟨(h.fatal hfatal).1, rfl⟩, h.late,
    fun hconfig => hconfig.elim (fun hregistered => h.configured (.inl hregistered)) nofun, h.socket, h.filter,
    fun hregistered => ?_⟩
  · rw [h.not_sending hunlinked t] at hsending
    nomatch hsending
  · dsimp only at hregistered
    rw [hregistered] at hoffline
    nomatch hoffline

/-- The receiving thread writes the state, in front of or behind the connection. -/
theorem inv_setState {state : IvpPluginState} {r : Receiver} (h : Inv s) (hidle : s.calls none = .idle)
    (hoffline : r.offline = false) (hlinked : s.receiver.unlinked = false) (hr : r.unlinked = false)
    (hfatal : s.receiver.severing = false) (hconfig : state = .registered ∨ r.hasConfig = true → s.configured = true)
    (hread : state = .registered → r.isReadFilter = true) : Inv { s with state := state, receiver := r } where
  owned := h.owned
  offline hr := by
    rw [hoffline] at hr
    nomatch hr
  linked _ := h.linked hlinked
  closed hunlinked := by
    rw [hr] at hunlinked
    nomatch hunlinked
  calls t := (h.calls t).congr rfl rfl rfl rfl rfl
  alone := h.alone
  idle _ := hidle
  fatal hf := absurd hf (h.not_fatal hfatal)
  late := h.late
  configured := hconfig
  socket := h.socket
  filter := h.filter
  subscribed hregistered := .inl (hread hregistered)

theorem inv_onMessageReceived {msgs : List IvpMessage} {m : IvpMessage} (h : Inv s) (hidle : s.calls none = .idle)
    (hreceiver : s.receiver = .dispatch (m :: msgs)) (hstep : s.ivp_onMessageReceived m msgs = some s') : Inv s' := by
  have hread : s.receiver.isReadFilter = false := by rw [hreceiver]; rfl
  have hlinked : s.receiver.unlinked = false := by rw [hreceiver]; rfl
  have hmove : Inv { s with receiver := .dispatch msgs } := inv_receiver h hidle hread nofun hlinked.symm (fun _ => rfl) nofun
  unfold State.ivp_onMessageReceived at hstep
  cases m with
  | error fatal =>
    cases fatal with
    | false =>
      obtain rfl := Option.some.inj hstep
      exact hmove
    | true =>
      obtain rfl := Option.some.inj hstep
      exact ⟨h.owned, nofun, fun _ => h.linked hlinked, nofun, fun t => (h.calls t).congr rfl rfl rfl rfl rfl, h.alone,
        fun _ => hidle, fun _ => ⟨rfl, rfl⟩, h.late, fun hconfig => hconfig.elim nofun nofun, h.socket, h.filter, nofun⟩
  | config =>
    obtain ⟨-, hs⟩ := Option.ite_none_right_eq_some.1 hstep
    obtain rfl := Option.some.inj hs
    exact ⟨h.owned, nofun, fun _ => h.linked hlinked, nofun, fun t => (h.calls t).congr rfl rfl rfl rfl rfl, h.alone,
      fun _ => hidle, fun hfatal => ⟨(h.fatal hfatal).1, rfl⟩, h.late, fun _ => rfl, h.socket, h.filter,
      fun hregistered => .inr ((h.subscribed hregistered).resolve_left (by rw [hread]; nofun))⟩
  | other =>
    obtain rfl := Option.some.inj hstep
    exact hmove

variable [DecidableEq τ] {received : Option (List IvpMessage)}

/-- The receiving thread makes a call. -/
theorem inv_makeCall {q : IvpPluginState} {r : Receiver} (h : Inv s) (hidle : s.calls none = .idle) (hc : CallOk s none c)
    (hholds : c.holds = false) (halone : Alone (Function.update s.calls none c)) (hoffline : r.offline = false)
    (hlinked : s.receiver.unlinked = false) (hr : r.unlinked = false) (hcalling : r.calling = true)
    (hfatal : s.receiver.severing = false) (hconfig : q = .registered ∨ r.hasConfig = true → s.configured = true)
    (hsubscribing : q = .registered → ∃ f, c = .subscribing f) :
    Inv ({ s with state := q, receiver := r }.setCall none c) where
  owned := h.owned.stay (by rw [hidle]; exact hholds)
  offline hr := by
    have : r.offline = true := hr
    rw [hoffline] at this
    nomatch this
  linked _ := h.linked hlinked
  closed hunlinked := by
    have : r.unlinked = true := hunlinked
    rw [hr] at this
    nomatch this
  calls := forall_setCall (P := fun u c' => CallOk _ u c') (hc.congr rfl rfl rfl rfl rfl)
    fun u _ => (h.calls u).congr rfl rfl rfl rfl rfl
  alone := halone
  idle hnot := by
    have : r.calling = false := hnot
    rw [hcalling] at this
    nomatch this
  fatal hf := absurd hf (h.not_fatal hfatal)
  late := h.late
  configured := hconfig
  socket := h.socket
  filter hnone := by
    refine h.filter fun u f => ?_
    rcases eq_or_ne u none with rfl | hne
    · rw [hidle]
      nofun
    · exact fun hu => hnone u f ((calls_setCall_of_ne hne).trans hu)
  subscribed hregistered := by
    obtain ⟨f, hf⟩ := hsubscribing hregistered
    exact .inr (.inl ⟨f, calls_setCall_self.trans hf⟩)

theorem inv_readFilter {msgs : List IvpMessage} (h : Inv s) (hidle : s.calls none = .idle)
    (hreceiver : s.receiver = .readFilter msgs) (hsound : ∀ t, (s.calls t).isReplacing = false) :
    Inv ({ s with receiver := .subscribed msgs }.setCall none (.subscribing (.stored s.filter))) := by
  refine inv_makeCall (q := s.state) h hidle ⟨nofun, nofun, nofun, fun f hf => ?_⟩ rfl (fun u f hu => ?_) rfl
    (by rw [hreceiver]; rfl) rfl rfl (by rw [hreceiver]; rfl) (fun hconfig => ?_) fun _ => ⟨_, rfl⟩
  · cases hf
    exact ⟨rfl, rfl⟩
  · have hne : u ≠ none := by
      rintro rfl
      rw [Function.update_self] at hu
      nomatch hu
    rw [Function.update_of_ne hne] at hu
    have hfalse := hsound u
    rw [hu] at hfalse
    nomatch hfalse
  · exact hconfig.elim (fun hregistered => h.configured (.inl hregistered)) nofun

theorem inv_receive (h : Inv s) (hsound : Sound s (.ivp_receive connected received))
    (hstep : s.receive connected received = some s') : Inv s' := by
  unfold State.receive at hstep
  cases hidle : s.calls none with
  | idle =>
    rw [hidle] at hstep
    dsimp only [Sound] at hsound
    cases hr : s.receiver with
    | outer =>
      rw [hr] at hstep
      obtain rfl := Option.some.inj hstep
      split_ifs with herror
      · exact inv_move h hidle hr (fun _ => .inl rfl) (fun _ => rfl) nofun rfl rfl
      · exact inv_move h hidle hr (fun _ => .inl rfl) (fun hfatal => absurd (h.fatal hfatal).1 herror) nofun rfl rfl
    | connect =>
      rw [hr] at hstep
      dsimp only at hstep
      split_ifs at hstep
      · obtain rfl := Option.some.inj hstep
        exact inv_connect h hr
      · obtain rfl := Option.some.inj hstep
        exact inv_move h hidle hr (fun _ => .inl rfl) (fun _ => rfl) nofun rfl rfl
    | setConnected =>
      rw [hr] at hstep
      obtain rfl := Option.some.inj hstep
      exact inv_makeCall (s := s) h hidle ⟨nofun, nofun, nofun, nofun⟩ rfl (alone_update h.alone nofun nofun) rfl (by rw [hr]; rfl)
        rfl rfl (by rw [hr]; rfl) (fun hconfig => hconfig.elim nofun nofun) nofun
    | registering =>
      rw [hr] at hstep
      obtain rfl := Option.some.inj hstep
      exact inv_move h hidle hr nofun (fun _ => rfl) nofun rfl rfl
    | inner =>
      rw [hr] at hstep
      obtain rfl := Option.some.inj hstep
      split_ifs with honline
      · refine inv_move h hidle hr nofun (fun hfatal => ?_) nofun rfl rfl
        rw [(h.fatal hfatal).1] at honline
        nomatch honline
      · exact inv_move h hidle hr (fun _ => .inr (Bool.eq_false_iff.2 honline)) (fun _ => rfl) nofun rfl rfl
    | recv =>
      rw [hr] at hstep
      have hfatal : s.fatal ≠ true := h.not_fatal (by rw [hr]; rfl)
      cases received with
      | none =>
        obtain rfl := Option.some.inj hstep
        exact inv_move h hidle hr nofun (fun hf => absurd hf hfatal) nofun rfl rfl
      | some msgs =>
        obtain rfl := Option.some.inj hstep
        exact inv_move h hidle hr nofun (fun _ => rfl) nofun rfl rfl
    | disconnect =>
      rw [hr] at hstep
      obtain rfl := Option.some.inj hstep
      exact inv_setState (s := s) h hidle rfl (by rw [hr]; rfl) rfl (by rw [hr]; rfl) (fun hconfig => hconfig.elim nofun nofun) nofun
    | dispatch msgs =>
      rw [hr] at hstep
      cases msgs with
      | nil =>
        obtain rfl := Option.some.inj hstep
        exact inv_move h hidle hr nofun (fun _ => rfl) nofun rfl rfl
      | cons m msgs => exact inv_onMessageReceived h hidle hr hstep
    | testConnected msgs =>
      rw [hr] at hstep
      obtain rfl := Option.some.inj hstep
      split_ifs with hconnected
      · refine inv_move h hidle hr nofun (fun hfatal => ?_) (fun _ => rfl) rfl rfl
        rw [(h.fatal hfatal).1] at hconnected
        nomatch hconnected
      · exact inv_move h hidle hr nofun (fun _ => rfl) nofun rfl rfl
    | setRegistered msgs =>
      rw [hr] at hstep
      obtain rfl := Option.some.inj hstep
      exact inv_setState (s := s) h hidle rfl (by rw [hr]; rfl) rfl (by rw [hr]; rfl)
        (fun _ => h.configured (.inr (by rw [hr]; rfl))) fun _ => rfl
    | readFilter msgs =>
      rw [hr] at hstep hsound
      obtain rfl := Option.some.inj hstep
      exact inv_readFilter h hidle hr hsound
    | subscribed msgs =>
      rw [hr] at hstep
      obtain rfl := Option.some.inj hstep
      exact inv_move h hidle hr nofun (fun _ => rfl) nofun rfl rfl
    | close =>
      rw [hr] at hstep hsound
      obtain rfl := Option.some.inj hstep
      exact inv_close h hidle hr hsound
    | clear =>
      rw [hr] at hstep
      obtain rfl := Option.some.inj hstep
      exact inv_clear h hidle hr
    | ended => rw [hr] at hstep; nomatch hstep
  | _ => rw [hidle] at hstep; nomatch hstep

/-! ### Runs -/

theorem inv_step {e : Event τ φ} (h : Inv s) (hsound : Sound s e) (hstep : step s e = some s') : Inv s' := by
  cases e with
  | ivp_broadcastMessage t =>
    dsimp only [step] at hstep
    split_ifs at hstep with hmatches
    obtain rfl := Option.some.inj hstep
    exact inv_start h (by split at hmatches <;> first | assumption | nomatch hmatches) rfl nofun nofun
  | ivp_subscribe t filter =>
    dsimp only [step] at hstep
    split_ifs at hstep with hmatches
    obtain rfl := Option.some.inj hstep
    exact inv_start h (by split at hmatches <;> first | assumption | nomatch hmatches) rfl nofun nofun
  | call t sent => exact inv_callStep h hsound hstep
  | ivp_receive connected received => exact inv_receive h hsound hstep

/-- In every run whose steps are sound the connection is coherent in every state, for any number of threads, any filters, and
any messages of the core. -/
theorem plugin_connection {es : List (Event τ φ)} (hmeets : (plugin τ φ).Meets Sound State.init es)
    (h : (plugin τ φ).exec State.init es = some s) : Coherent s :=
  (Machine.invariant_meets (M := plugin τ φ) inv_init (fun _ _ _ hinv hsound hstep => inv_step hinv hsound hstep) hmeets
    h).coherent

instance decidableSound [Fintype τ] (s : State τ φ) (e : Event τ φ) : Decidable (Sound s e) :=
  match e with
  | .call t _ => by
    dsimp only [Sound]
    cases s.calls t with
    | report => exact inferInstanceAs (Decidable (_ ≠ _))
    | subscribing filter =>
      cases filter with
      | own => exact inferInstanceAs (Decidable (_ → _))
      | stored => exact .isTrue trivial
    | _ => exact .isTrue trivial
  | .ivp_receive _ _ => by
    dsimp only [Sound]
    cases s.receiver with
    | close => exact inferInstanceAs (Decidable (∀ _, _))
    | readFilter => exact inferInstanceAs (Decidable (∀ _, _))
    | _ => exact .isTrue trivial
  | .ivp_broadcastMessage _ | .ivp_subscribe _ _ => .isTrue trivial

/-- The receiving thread takes `n` steps, and receives `msgs` where it waits. -/
def receives (n : Nat) (msgs : List IvpMessage) : List (Event Unit Nat) := .replicate n (.ivp_receive true (some msgs))

/-- The thread `t` takes `n` steps of its call; what it sends is sent. -/
def calls (n : Nat) (t : Option Unit) : List (Event Unit Nat) := .replicate n (.call t true)

/-- The application subscribes with the filter 7, and the plugin is connected and registers. -/
def registered : List (Event Unit Nat) :=
  .ivp_subscribe () (some 7) :: calls 4 (some ()) ++ receives 3 [] ++ calls 6 none ++ receives 7 [.config]

/-- The subscription is sent, and the receiving thread waits. -/
def waiting : List (Event Unit Nat) := registered ++ calls 6 none ++ receives 3 []

/-- A thread of the application has read the socket. -/
def broadcasting : List (Event Unit Nat) := waiting ++ .ivp_broadcastMessage () :: calls 4 (some ())

theorem plugin_connection_registered :
    ∃ s, (plugin Unit Nat).exec State.init waiting = some s ∧ s.receiver = .recv ∧ s.state = .registered ∧ Coherent s := by
  have hexec : (plugin Unit Nat).exec State.init waiting = some _ := rfl
  exact ⟨_, hexec, rfl, rfl, plugin_connection (by decide +kernel) hexec⟩

/-- A failed send is reported after a fatal error; a message goes out on a socket that was closed; and the application subscribes
while the receiving thread has the old filter. -/
theorem plugin_connection_fails :
    (∃ s, (plugin Unit Nat).exec State.init (broadcasting ++ receives 2 [.error true] ++ [.call (some ()) false] ++
        calls 1 (some ())) = some s ∧ s.fatal = true ∧ s.state = .disconnected ∧ ¬ Coherent s) ∧
    (∃ s, (plugin Unit Nat).exec State.init (broadcasting ++ .replicate 4 (.ivp_receive true none) ++ calls 1 (some ())) =
        some s ∧ s.stray = true ∧ ¬ Coherent s) ∧
    ∃ s, (plugin Unit Nat).exec State.init (registered ++ .ivp_subscribe () (some 8) :: calls 7 (some ()) ++ calls 7 none) =
        some s ∧ s.filter.map Prod.snd = some 7 ∧ s.passed = some 8 ∧ ¬ Coherent s := by
  refine ⟨⟨_, rfl, rfl, rfl, fun h => ?_⟩, ⟨_, rfl, rfl, fun h => ?_⟩, _, rfl, rfl, rfl, fun h => ?_⟩
  · nomatch (h.fatal rfl).1
  · nomatch h.socket
  · exact absurd (h.filter (by decide)) (by decide)

end V2xHub.IvpPlugin
