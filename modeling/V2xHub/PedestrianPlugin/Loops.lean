import V2xHub.Lib.Machine
import V2xHub.Lib.CString

/-!
# The loops of the pedestrian plugin

`PedestrianPlugin::UpdateConfigSettings` starts threads in `StartWebSocket` and `checkXML`, which never leaves its loop, and
detaches them. `flirSession` is the session that was stored last. The push in `on_read`, the exchange in `getPSMQueue` (with
the read of the pointer in front of it) and the call of `BroadcastPsm` are one step each; a message is broadcast when
`BroadcastPsm` is called with it.
-/

namespace V2xHub.PedestrianPlugin

/-- The XML of a message. -/
abbrev Psm := Str

inductive IvpPluginState where
  | disconnected
  | connected
  | registered
  | error
deriving DecidableEq

/-- `FLIRWebSockAsyncClnSession` -/
structure FLIRSession where
  psmQueue : List Psm
  live : Bool

structure State where
  dataprovider : Str
  /-- The threads that have not stored their session yet. -/
  starting : Nat
  sessions : List FLIRSession
  flirSession : Option Nat
  /-- What is left of `currentPSMQueue`, for every thread in `checkXML`. -/
  loops : List (List Psm)
  webServices : Nat
  /-- What the sessions have queued. -/
  queued : List Psm
  broadcast : List Psm

def State.init : State := ⟨[], 0, [], none, [], 0, [], []⟩

inductive Event where
  /-- `DataProvider` as it is configured then. -/
  | OnConfigChanged (dataprovider : Option Str)
  | OnStateChange (state : IvpPluginState) (dataprovider : Option Str)
  | StartWebSocket
  /-- A message that `on_read` of the session queues. -/
  | on_read (session : Nat) (psm : Psm)
  | closed (session : Nat)
  | getPSMQueue (loop : Nat)
  | BroadcastPsm (loop : Nat)

namespace State

def UpdateConfigSettings (s : State) (dataprovider : Option Str) : State :=
  let dataprovider := dataprovider.getD s.dataprovider
  if dataprovider = CString.lit "FLIR" then
    { s with dataprovider, starting := s.starting + 1, loops := s.loops ++ [[]] }
  else { s with dataprovider, webServices := s.webServices + 1 }

def StartWebSocket (s : State) : State :=
  { s with
    starting := s.starting - 1
    sessions := s.sessions ++ [⟨[], true⟩]
    flirSession := some s.sessions.length }

def on_read (s : State) (k : Nat) (session : FLIRSession) (psm : Psm) : State :=
  { s with
    sessions := s.sessions.set k { session with psmQueue := session.psmQueue ++ [psm] }
    queued := s.queued ++ [psm] }

def close (s : State) (k : Nat) (session : FLIRSession) : State :=
  { s with sessions := s.sessions.set k { session with live := false } }

/-- The session that `flirSession` points to. -/
def current (s : State) : Option (Nat × FLIRSession) :=
  s.flirSession.bind fun k => s.sessions[k]?.map fun session => (k, session)

def getPSMQueue (s : State) (j k : Nat) (session : FLIRSession) : State :=
  { s with
    sessions := s.sessions.set k { session with psmQueue := [] }
    loops := s.loops.set j session.psmQueue }

def BroadcastPsm (s : State) (j : Nat) (psm : Psm) (rest : List Psm) : State :=
  { s with loops := s.loops.set j rest, broadcast := s.broadcast ++ [psm] }

def step (s : State) : Event → Option State
  | .OnConfigChanged dataprovider => some (s.UpdateConfigSettings dataprovider)
  | .OnStateChange state dataprovider =>
    if state = .registered then some (s.UpdateConfigSettings dataprovider) else some s
  | .StartWebSocket => if 0 < s.starting then some s.StartWebSocket else none
  | .on_read k psm =>
    match s.sessions[k]? with
    | some session => if session.live then some (s.on_read k session psm) else none
    | none => none
  | .closed k =>
    match s.sessions[k]? with
    | some session => if session.live then some (s.close k session) else none
    | none => none
  | .getPSMQueue j =>
    match s.loops[j]? with
    | some [] =>
      match s.current with
      | some (k, session) => some (s.getPSMQueue j k session)
      | none => some s
    | _ => none
  | .BroadcastPsm j =>
    match s.loops[j]? with
    | some (psm :: rest) => some (s.BroadcastPsm j psm rest)
    | _ => none

end State

def plugin : Machine State Event := ⟨State.init, State.step⟩

/-! ### One session, one loop -/

/-- The messages that wait for a loop or in one. -/
def State.waiting (s : State) : List Psm :=
  s.loops.flatten ++ (s.current.map fun current => current.2.psmQueue).getD []

structure OncePerPsm (s : State) : Prop where
  session : (s.sessions.filter FLIRSession.live).length ≤ 1
  loop : s.loops.length ≤ 1
  /-- What was queued was broadcast, in that order, up to what waits. -/
  once : s.broadcast ++ s.waiting = s.queued

/-- The event starts the threads of a FLIR session. -/
def StartsFLIR (s : State) : Event → Prop
  | .OnConfigChanged dataprovider => dataprovider.getD s.dataprovider = CString.lit "FLIR"
  | .OnStateChange state dataprovider =>
    state = .registered ∧ dataprovider.getD s.dataprovider = CString.lit "FLIR"
  | _ => False

/-- FLIR is asked for where it was not before. -/
def AsksOnce (s : State) (e : Event) : Prop := StartsFLIR s e → s.loops = []

/-- What the sessions and the loops are, before and after the one start. -/
inductive Inv : State → Prop
  | idle (dataprovider : Str) (webServices : Nat) : Inv ⟨dataprovider, 0, [], none, [], webServices, [], []⟩
  | starting (dataprovider : Str) (webServices : Nat) : Inv ⟨dataprovider, 1, [], none, [[]], webServices, [], []⟩
  | running (dataprovider : Str) (webServices : Nat) (session : FLIRSession) (loop queued broadcast : List Psm)
    (honce : broadcast ++ (loop ++ session.psmQueue) = queued) :
    Inv ⟨dataprovider, 0, [session], some 0, [loop], webServices, queued, broadcast⟩

variable {s t : State} {e : Event} {es : List Event} {dataprovider : Option Str}

theorem Inv.oncePerPsm (hinv : Inv s) : OncePerPsm s := by
  cases hinv with
  | idle => exact ⟨Nat.zero_le _, Nat.zero_le _, rfl⟩
  | starting => exact ⟨Nat.zero_le _, Nat.le_refl _, rfl⟩
  | running dataprovider webServices session loop queued broadcast honce =>
    refine ⟨List.length_filter_le _ _, Nat.le_refl _, ?_⟩
    simpa [State.waiting, State.current] using honce

/-- An update that does not start a second loop. -/
theorem Inv.update (hinv : Inv s)
    (hasks : dataprovider.getD s.dataprovider = CString.lit "FLIR" → s.loops = []) :
    Inv (s.UpdateConfigSettings dataprovider) := by
  rw [State.UpdateConfigSettings]
  cases hinv with
  | idle provider webServices =>
    dsimp only
    split_ifs
    · exact .starting _ _
    · exact .idle _ _
  | starting provider webServices =>
    dsimp only
    rw [if_neg fun hflir => nomatch hasks hflir]
    exact .starting _ _
  | running provider webServices session loop queued broadcast honce =>
    dsimp only
    rw [if_neg fun hflir => nomatch hasks hflir]
    exact .running _ _ _ _ _ _ honce

theorem Inv.step (hinv : Inv s) (hasks : AsksOnce s e) (hstep : s.step e = some t) : Inv t := by
  cases e with
  | OnConfigChanged dataprovider =>
    obtain rfl := Option.some.inj hstep
    exact hinv.update hasks
  | OnStateChange state dataprovider =>
    rw [State.step] at hstep
    split_ifs at hstep with hstate
    · obtain rfl := Option.some.inj hstep
      exact hinv.update fun hflir => hasks ⟨hstate, hflir⟩
    · obtain rfl := Option.some.inj hstep
      exact hinv
  | StartWebSocket =>
    rw [State.step] at hstep
    split_ifs at hstep with hstarting
    obtain rfl := Option.some.inj hstep
    cases hinv with
    | idle => exact absurd hstarting (Nat.lt_irrefl 0)
    | starting provider webServices => exact .running _ _ _ _ _ _ rfl
    | running => exact absurd hstarting (Nat.lt_irrefl 0)
  | on_read k psm =>
    cases hinv with
    | idle => exact nomatch hstep
    | starting => exact nomatch hstep
    | running provider webServices session loop queued broadcast honce =>
      match k with
      | 0 =>
        simp only [State.step, List.getElem?_cons_zero] at hstep
        split_ifs at hstep
        obtain rfl := Option.some.inj hstep
        refine .running _ _ _ _ _ _ ?_
        rw [← honce]
        simp only [List.append_assoc]
      | k + 1 => exact nomatch hstep
  | closed k =>
    cases hinv with
    | idle => exact nomatch hstep
    | starting => exact nomatch hstep
    | running provider webServices session loop queued broadcast honce =>
      match k with
      | 0 =>
        simp only [State.step, List.getElem?_cons_zero] at hstep
        split_ifs at hstep
        obtain rfl := Option.some.inj hstep
        exact .running _ _ _ _ _ _ honce
      | k + 1 => exact nomatch hstep
  | getPSMQueue j =>
    cases hinv with
    | idle => exact nomatch hstep
    | starting provider webServices =>
      match j with
      | 0 =>
        obtain rfl := Option.some.inj hstep
        exact .starting _ _
      | j + 1 => exact nomatch hstep
    | running provider webServices session loop queued broadcast honce =>
      match j, loop with
      | 0, [] =>
        obtain rfl := Option.some.inj hstep
        refine .running _ _ _ _ _ _ ?_
        rw [← honce, List.append_nil, List.nil_append]
      | 0, _ :: _ => exact nomatch hstep
      | j + 1, _ => exact nomatch hstep
  | BroadcastPsm j =>
    cases hinv with
    | idle => exact nomatch hstep
    | starting =>
      match j with
      | 0 => exact nomatch hstep
      | j + 1 => exact nomatch hstep
    | running provider webServices session loop queued broadcast honce =>
      match j, loop with
      | 0, [] => exact nomatch hstep
      | 0, psm :: rest =>
        obtain rfl := Option.some.inj hstep
        refine .running _ _ _ _ _ _ ?_
        rw [← honce, List.append_assoc]
        rfl
      | j + 1, _ => exact nomatch hstep

/-- A second start is a second loop. -/
theorem asksOnce_of_loop (hstep : s.step e = some t) (hloop : t.loops.length ≤ 1) : AsksOnce s e := by
  have hupdate : ∀ dataprovider : Option Str, dataprovider.getD s.dataprovider = CString.lit "FLIR" →
      (s.UpdateConfigSettings dataprovider).loops.length ≤ 1 → s.loops = [] := by
    intro dataprovider hflir hloop
    rw [State.UpdateConfigSettings, if_pos hflir] at hloop
    dsimp only at hloop
    rw [List.length_append, List.length_singleton] at hloop
    exact List.length_eq_zero_iff.1 (Nat.le_zero.1 (Nat.le_of_succ_le_succ hloop))
  intro hstarts
  cases e with
  | OnConfigChanged dataprovider =>
    obtain rfl := Option.some.inj hstep
    exact hupdate dataprovider hstarts hloop
  | OnStateChange state dataprovider =>
    rw [State.step, if_pos hstarts.1] at hstep
    obtain rfl := Option.some.inj hstep
    exact hupdate dataprovider hstarts.2 hloop
  | _ => exact hstarts.elim

theorem once_per_psm (hexec : plugin.exec plugin.init es = some s) :
    (∀ es' s', es' <+: es → plugin.exec plugin.init es' = some s' → OncePerPsm s') ↔
      plugin.Meets AsksOnce plugin.init es :=
  plugin.always_iff_meets (I := fun _ s => Inv s) (P := fun _ s => OncePerPsm s) (.idle _ _)
    (fun _ _ _ _ hinv hasks hstep => hinv.step hasks hstep) (fun _ _ hinv => hinv.oncePerPsm)
    (fun _ _ _ _ _ hstep honce => asksOnce_of_loop hstep honce.loop) hexec

/-- A session with a message. -/
def oneSession : List Event :=
  [.OnStateChange .registered (some (CString.lit "FLIR")), .StartWebSocket, .on_read 0 (CString.lit "<PersonalSafetyMessage/>"),
    .getPSMQueue 0, .BroadcastPsm 0]

theorem once_per_psm_registered :
    (∀ es' s', es' <+: oneSession → plugin.exec plugin.init es' = some s' → OncePerPsm s') ↔
      plugin.Meets AsksOnce plugin.init oneSession :=
  once_per_psm (s := (plugin.exec plugin.init oneSession).get rfl) (Option.some_get _).symm

/-- A key changes while a message waits; the new session takes the place of the one that has it. -/
theorem once_per_psm_lost : ∃ s, plugin.exec plugin.init
      [.OnStateChange .registered (some (CString.lit "FLIR")), .StartWebSocket,
        .on_read 0 (CString.lit "<PersonalSafetyMessage/>"), .OnConfigChanged none, .StartWebSocket, .getPSMQueue 0,
        .getPSMQueue 1] = some s ∧
    s.loops.length = 2 ∧ s.broadcast ++ s.waiting = [] ∧ s.queued = [CString.lit "<PersonalSafetyMessage/>"] ∧
    ¬ OncePerPsm s := by
  refine ⟨_, rfl, rfl, rfl, rfl, fun honce => ?_⟩
  exact absurd honce.loop (by decide)

end V2xHub.PedestrianPlugin
