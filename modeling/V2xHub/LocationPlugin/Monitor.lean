import V2xHub.Lib.CString
import V2xHub.Lib.Machine

/-!
# The monitor of the GPS

`LocationPlugin` reads its configuration on the thread that receives messages, `Main` starts the thread of `MonitorGPS`, and
that thread connects to the configured host. The steps of the three are the events of one machine: what is done while
`_dataLock` is held is one step, and so is each access to one of the atomic flags.

Every change of the host that `__gpsdHost_mon.check()` finds clears `_monitoringActive`, which ends the thread for good: the
monitor lives on in the runs in which no change is found once `Main` has set the flag.
-/

namespace V2xHub.LocationPlugin

/-- An object of the GPSD client: the host that it was made for, and whether the connection was opened. -/
structure Gpsmm where
  host : Str
  is_open : Bool
deriving DecidableEq

/-- Where `UpdateConfigSettings` is: behind the lock, behind the check, or not called. -/
inductive UpdatePhase where
  | idle
  | check
  | configSet
deriving DecidableEq

inductive MainPhase where
  | waiting
  | starting
  | monitoring
  | ended
deriving DecidableEq

/-- Where the loop of `MonitorGPS` is. -/
inductive LoopPhase where
  | test
  | readHost
  | connect
  | wait
deriving DecidableEq

/-- The locals of `MonitorGPS`. -/
structure Monitor where
  phase : LoopPhase
  host : Str
  gps : Option Gpsmm
deriving DecidableEq

inductive Thread where
  | none
  | running (m : Monitor)
  | terminated
deriving DecidableEq

/-- How far the monitor has come since the host was changed: it has not begun a pass, it is in a pass that began since, or
such a pass is over. -/
inductive Stage where
  | changed
  | passing
  | settled
deriving DecidableEq

structure State where
  gpsdHost : Str
  cache : Str
  configSet : Bool
  monitoringActive : Bool
  update : UpdatePhase
  main : MainPhase
  thread : Thread
  stage : Stage
deriving DecidableEq

def State.init : State := ⟨[], [], false, false, .idle, .waiting, .none, .settled⟩

inductive Event where
  /-- The part of `UpdateConfigSettings` under the lock, with the value of `GPSSource` if there is one. -/
  | UpdateConfigSettings (gpsSource : Option Str)
  /-- `__gpsdHost_mon.check()` -/
  | check
  | configSet
  /-- `Main` sets the flag. -/
  | start
  /-- `Main` creates the thread. -/
  | spawn
  /-- `Main` finds the state `error` and joins the thread. -/
  | stop
  /-- The next step of the monitor; `opened` is the outcome of a connection. -/
  | MonitorGPS (opened : Bool)
deriving DecidableEq

/-- `GetConfigValue` leaves the host as it is where there is no value. -/
def State.UpdateConfigSettings (gpsSource : Option Str) (s : State) : State :=
  let host := gpsSource.getD s.gpsdHost
  { s with gpsdHost := host, update := .check, stage := if host = s.gpsdHost then s.stage else .changed }

def State.HandleDataChange (s : State) : State := { s with monitoringActive := false }

/-- `PluginDataMonitor::check`: the message of the change goes to `HandleDataChange` directly. -/
def State.check (s : State) : State :=
  let s := { s with update := .configSet }
  if s.gpsdHost ≠ s.cache then { s.HandleDataChange with cache := s.gpsdHost } else s

/-- The control is back at the head of the loop. -/
def State.endPass (m : Monitor) (s : State) : State :=
  { s with
    thread := .running { m with phase := .test }
    stage := if s.stage = .passing then .settled else s.stage }

def State.MonitorGPS (opened : Bool) (m : Monitor) (s : State) : State :=
  match m.phase with
  | .test =>
    if s.monitoringActive then
      { s with
        thread := .running { m with phase := .readHost }
        stage := if s.stage = .changed then .passing else s.stage }
    else { s with thread := .terminated }
  | .readHost =>
    let oldHost := m.host
    let m := { m with host := s.gpsdHost }
    if m.host = [] then s.endPass m
    else { s with thread := .running { m with phase := if oldHost ≠ m.host then .connect else .wait } }
  -- The host is read again here, without the lock.
  | .connect => { s with thread := .running { m with phase := .wait, gps := some ⟨s.gpsdHost, opened⟩ } }
  | .wait =>
    match m.gps with
    | some _ => s.endPass m
    | none => { s with thread := .terminated }

def step (s : State) : Event → Option State
  | .UpdateConfigSettings gpsSource => if s.update = .idle then some (s.UpdateConfigSettings gpsSource) else none
  | .check => if s.update = .check then some s.check else none
  | .configSet => if s.update = .configSet then some { s with configSet := true, update := .idle } else none
  | .start =>
    if s.main = .waiting ∧ s.configSet = true then some { s with monitoringActive := true, main := .starting } else none
  | .spawn =>
    if s.main = .starting then
      some { s with main := .monitoring, thread := .running ⟨.test, [], none⟩, stage := .changed }
    else none
  | .stop => if s.main = .monitoring then some { s with monitoringActive := false, main := .ended } else none
  | .MonitorGPS opened =>
    match s.thread with
    | .running m => some (s.MonitorGPS opened m)
    | _ => none

def plugin : Machine State Event := ⟨State.init, step⟩

/-- The monitor is connected to the configured host. -/
def Monitor.Connected (m : Monitor) (host : Str) : Prop := m.gps = some ⟨host, true⟩

/-- A monitor is running; behind a pass that began since the last change it is connected to the configured host, and what
it reads in such a pass is from that host, or nothing while the host is empty. -/
structure Monitored (s : State) : Prop where
  running : s.main = .monitoring → ∃ m, s.thread = .running m
  connected : s.main = .monitoring → ∀ m, s.thread = .running m → s.stage = .settled → s.gpsdHost ≠ [] →
    m.Connected s.gpsdHost
  reads : s.main = .monitoring → ∀ m, s.thread = .running m → m.phase = .wait → s.stage ≠ .changed →
    s.gpsdHost ≠ [] ∧ m.Connected s.gpsdHost

/-- `Main` has set the flag and has not ended. -/
def State.Started (s : State) : Prop := s.main = .starting ∨ s.main = .monitoring

/-- The check finds no change once `Main` has set the flag; and the host can be connected to. -/
def Sound (s : State) : Event → Prop
  | .check => s.Started → s.gpsdHost = s.cache
  | .MonitorGPS opened => ∀ m, s.thread = .running m → m.phase = .connect → opened = true
  | _ => True

variable {s t : State} {m : Monitor} {e : Event} {opened : Bool}

/-- A change of the host that is not checked yet. -/
def State.Pending (s : State) : Prop := s.update = .check ∧ s.gpsdHost ≠ s.cache

/-- The host that the monitor knows is the one it is connected to, but for a change between its two reads. -/
def Held (s : State) (m : Monitor) : Prop :=
  m.host ≠ [] → ∃ g, m.gps = some g ∧ g.is_open = true ∧ (g.host = m.host ∨ s.Pending ∧ m.host ≠ s.gpsdHost)

/-- The monitor has caught up with the configured host. -/
def Current (s : State) (m : Monitor) : Prop := m.host = s.gpsdHost ∧ (s.gpsdHost ≠ [] → m.Connected s.gpsdHost)

/-- What holds at each place of the loop. -/
def Loop (s : State) (m : Monitor) : Prop :=
  match m.phase with
  | .test => Held s m ∧ s.stage ≠ .passing ∧ (s.stage = .settled → Current s m)
  | .readHost => Held s m ∧ (s.stage = .settled → Current s m)
  | .connect => m.host ≠ [] ∧ s.stage ≠ .settled ∧ (s.stage = .passing → m.host = s.gpsdHost) ∧
      (m.host = s.gpsdHost ∨ s.Pending)
  | .wait => m.host ≠ [] ∧ Held s m ∧ (s.stage ≠ .changed → Current s m)

structure Inv (s : State) : Prop where
  active : s.Started → s.monitoringActive = true
  checked : s.update ≠ .check → s.gpsdHost = s.cache
  loop : s.main = .monitoring → ∃ m, s.thread = .running m ∧ Loop s m

theorem inv_init : Inv State.init where
  active hstarted := hstarted.elim nofun nofun
  checked _ := rfl
  loop := nofun

theorem Held.not_pending (hheld : Held s m) (hs : ¬ s.Pending) (hm : m.host ≠ []) : m.Connected m.host := by
  obtain ⟨g, hg, hopen, hhost | ⟨hpending, -⟩⟩ := hheld hm
  · obtain ⟨host, is_open⟩ := g
    obtain rfl : host = m.host := hhost
    obtain rfl : is_open = true := hopen
    exact hg
  · exact absurd hpending hs

theorem Held.of_connected (h : m.host ≠ [] → m.Connected m.host) : Held s m := fun hm => ⟨_, h hm, rfl, .inl rfl⟩

theorem not_pending (hupdate : s.update ≠ .check) : ¬ s.Pending := fun hpending => hupdate hpending.1

/-- With no change in between the monitor's own host and connection belong together. -/
theorem Loop.held (h : Loop s m) (hs : ¬ s.Pending) (hphase : m.phase ≠ .connect) (hm : m.host ≠ []) : m.Connected m.host := by
  unfold Loop at h
  cases hp : m.phase with
  | test => rw [hp] at h; exact h.1.not_pending hs hm
  | readHost => rw [hp] at h; exact h.1.not_pending hs hm
  | connect => exact absurd hp hphase
  | wait => rw [hp] at h; exact h.2.1.not_pending hs hm

/-! ### The configuration -/

/-- A step of the configuration that leaves the host and the stage as they are. -/
theorem Loop.congr (h : Loop s m) (hs : ¬ s.Pending) (hhost : t.gpsdHost = s.gpsdHost) (hstage : t.stage = s.stage) :
    Loop t m := by
  have hcurrent : Current s m → Current t m := by
    intro hm
    unfold Current
    rw [hhost]
    exact hm
  have hheld := h.held hs
  unfold Loop at h ⊢
  rw [hstage]
  cases hp : m.phase with
  | test =>
    rw [hp] at h hheld
    exact ⟨.of_connected (hheld nofun), h.2.1, fun hsettled => hcurrent (h.2.2 hsettled)⟩
  | readHost =>
    rw [hp] at h hheld
    exact ⟨.of_connected (hheld nofun), fun hsettled => hcurrent (h.2 hsettled)⟩
  | connect =>
    rw [hp] at h
    obtain ⟨hm, hsettled, hpassing, heq | hpending⟩ := h
    · exact ⟨hm, hsettled, fun hstage => hhost ▸ hpassing hstage, .inl (hhost ▸ heq)⟩
    · exact absurd hpending hs
  | wait =>
    rw [hp] at h hheld
    exact ⟨h.1, .of_connected (hheld nofun), fun hchanged => hcurrent (h.2.2 hchanged)⟩

/-- The host changes while the monitor is at any place of its loop. -/
theorem Loop.changed (h : Loop s m) (hs : ¬ s.Pending) (hstage : t.stage = .changed) (hpending : t.Pending) : Loop t m := by
  have hheld := h.held hs
  unfold Loop at h ⊢
  rw [hstage]
  cases hp : m.phase with
  | test =>
    rw [hp] at hheld
    exact ⟨.of_connected (hheld nofun), nofun, nofun⟩
  | readHost =>
    rw [hp] at hheld
    exact ⟨.of_connected (hheld nofun), nofun⟩
  | connect =>
    rw [hp] at h
    exact ⟨h.1, nofun, nofun, .inr hpending⟩
  | wait =>
    rw [hp] at h hheld
    exact ⟨h.1, .of_connected (hheld nofun), fun hchanged => absurd rfl hchanged⟩

theorem inv_UpdateConfigSettings (gpsSource : Option Str) (h : Inv s) (hupdate : s.update = .idle) :
    Inv (s.UpdateConfigSettings gpsSource) where
  active := h.active
  checked hcheck := absurd rfl hcheck
  loop hmain := by
    obtain ⟨m, hthread, hloop⟩ := h.loop hmain
    have hidle : s.update ≠ .check := by
      rw [hupdate]
      nofun
    refine ⟨m, hthread, ?_⟩
    by_cases hhost : gpsSource.getD s.gpsdHost = s.gpsdHost
    · exact hloop.congr (not_pending hidle) hhost (if_pos hhost)
    · refine hloop.changed (not_pending hidle) (if_neg hhost) ⟨rfl, ?_⟩
      exact fun heq => hhost (heq.trans (h.checked hidle).symm)

theorem check_of_eq (hhost : s.gpsdHost = s.cache) : s.check = { s with update := .configSet } :=
  if_neg fun hne => hne hhost

theorem checked_check : s.check.gpsdHost = s.check.cache := by
  unfold State.check
  dsimp only
  split_ifs with hne
  · rfl
  · exact not_not.1 hne

theorem main_check : s.check.main = s.main := by
  unfold State.check
  dsimp only
  split_ifs <;> rfl

theorem inv_check (h : Inv s) (hsound : Sound s .check) : Inv s.check := by
  by_cases hstarted : s.Started
  · have hhost := hsound hstarted
    rw [check_of_eq hhost]
    refine ⟨h.active, fun _ => hhost, fun hmain => ?_⟩
    obtain ⟨m, hthread, hloop⟩ := h.loop hmain
    exact ⟨m, hthread, hloop.congr (fun hpending => hpending.2 hhost) rfl rfl⟩
  · refine ⟨fun h' => absurd ?_ hstarted, fun _ => checked_check, fun hmain => absurd (.inr ?_) hstarted⟩
    · unfold State.Started at h' ⊢
      rwa [main_check] at h'
    · rwa [main_check] at hmain

/-! ### The loop -/

theorem inv_endPass {n : Monitor} (h : Inv s) (hheld : Held s n) (hcurrent : s.stage ≠ .changed → Current s n) :
    Inv (s.endPass n) where
  active := h.active
  checked := h.checked
  loop _ := by
    refine ⟨_, rfl, hheld, ?_, fun hsettled => hcurrent fun hchanged => ?_⟩
    · unfold State.endPass
      dsimp only
      split_ifs with hpassing
      · nofun
      · exact hpassing
    · unfold State.endPass at hsettled
      rw [hchanged] at hsettled
      nomatch hsettled

theorem inv_of_loop (h : Inv s) {thread : Thread} {stage : Stage} {n : Monitor} (hthread : thread = .running n)
    (hloop : Loop { s with thread := thread, stage := stage } n) : Inv { s with thread := thread, stage := stage } :=
  ⟨h.active, h.checked, fun _ => ⟨n, hthread, hloop⟩⟩

theorem inv_MonitorGPS (h : Inv s) (hmain : s.main = .monitoring) (hthread : s.thread = .running m)
    (hsound : Sound s (.MonitorGPS opened)) : Inv (s.MonitorGPS opened m) := by
  obtain ⟨m', hthread', hloop⟩ := h.loop hmain
  obtain rfl := Thread.running.inj (hthread.symm.trans hthread')
  unfold Loop at hloop
  unfold State.MonitorGPS
  cases hp : m.phase with
  | test =>
    rw [hp] at hloop
    obtain ⟨hheld, hpassing, hcurrent⟩ := hloop
    dsimp only
    rw [if_pos (h.active (.inr hmain))]
    refine inv_of_loop h rfl ⟨hheld, fun hsettled => hcurrent ?_⟩
    dsimp only at hsettled
    split_ifs at hsettled
    exact hsettled
  | readHost =>
    rw [hp] at hloop
    obtain ⟨hheld, hcurrent⟩ := hloop
    dsimp only
    split_ifs with hempty hold
    · exact inv_endPass h (fun hm => absurd hempty hm) fun _ => ⟨rfl, fun hm => absurd hempty hm⟩
    · exact inv_of_loop h rfl ⟨hempty, fun hsettled => hold (hcurrent hsettled).1, fun _ => rfl, .inl rfl⟩
    · have heq := not_not.1 hold
      have hconnected : m.Connected s.gpsdHost := by
        obtain ⟨g, hg, hopen, hhost | ⟨-, hne⟩⟩ := hheld fun hm => hempty (heq ▸ hm)
        · obtain ⟨host, is_open⟩ := g
          obtain rfl : host = s.gpsdHost := hhost.trans heq
          obtain rfl : is_open = true := hopen
          exact hg
        · exact absurd heq hne
      exact inv_of_loop h rfl ⟨hempty, .of_connected fun _ => hconnected, fun _ => ⟨rfl, fun _ => hconnected⟩⟩
  | connect =>
    rw [hp] at hloop
    obtain ⟨hm, hsettled, hpassing, hhost⟩ := hloop
    obtain rfl := hsound m hthread hp
    refine inv_of_loop h rfl ⟨hm, fun _ => ⟨_, rfl, rfl, ?_⟩, fun hchanged => ⟨?_, fun _ => rfl⟩⟩
    · by_cases heq : m.host = s.gpsdHost
      · exact .inl heq.symm
      · exact .inr ⟨hhost.resolve_left heq, heq⟩
    · cases hstage : s.stage with
      | changed => exact absurd hstage hchanged
      | passing => exact hpassing hstage
      | settled => exact absurd hstage hsettled
  | wait =>
    rw [hp] at hloop
    obtain ⟨hm, hheld, hcurrent⟩ := hloop
    obtain ⟨g, hg, -⟩ := hheld hm
    dsimp only
    rw [hg]
    exact inv_endPass h hheld hcurrent

/-- The monitor changes nothing but its thread and the stage. -/
theorem exists_MonitorGPS (s : State) (opened : Bool) (m : Monitor) :
    ∃ thread stage, s.MonitorGPS opened m = { s with thread := thread, stage := stage } := by
  unfold State.MonitorGPS
  cases m.phase with
  | test =>
    dsimp only
    split_ifs <;> exact ⟨_, _, rfl⟩
  | readHost =>
    dsimp only
    split_ifs <;> exact ⟨_, _, rfl⟩
  | connect => exact ⟨_, _, rfl⟩
  | wait =>
    dsimp only
    cases m.gps <;> exact ⟨_, _, rfl⟩

/-! ### Runs -/

theorem inv_step (h : Inv s) (hsound : Sound s e) (hstep : step s e = some t) : Inv t := by
  cases e with
  | UpdateConfigSettings gpsSource =>
    obtain ⟨hupdate, ht⟩ := Option.ite_none_right_eq_some.1 hstep
    obtain rfl := Option.some.inj ht
    exact inv_UpdateConfigSettings gpsSource h hupdate
  | check =>
    obtain ⟨-, ht⟩ := Option.ite_none_right_eq_some.1 hstep
    obtain rfl := Option.some.inj ht
    exact inv_check h hsound
  | configSet =>
    obtain ⟨hupdate, ht⟩ := Option.ite_none_right_eq_some.1 hstep
    obtain rfl := Option.some.inj ht
    have hchecked : s.update ≠ .check := by
      rw [hupdate]
      nofun
    refine ⟨h.active, fun _ => h.checked hchecked, fun hmain => ?_⟩
    obtain ⟨m, hthread, hloop⟩ := h.loop hmain
    exact ⟨m, hthread, hloop.congr (not_pending hchecked) rfl rfl⟩
  | start =>
    obtain ⟨-, ht⟩ := Option.ite_none_right_eq_some.1 hstep
    obtain rfl := Option.some.inj ht
    exact ⟨fun _ => rfl, h.checked, nofun⟩
  | spawn =>
    obtain ⟨hmain, ht⟩ := Option.ite_none_right_eq_some.1 hstep
    obtain rfl := Option.some.inj ht
    exact ⟨fun _ => h.active (.inl hmain), h.checked, fun _ => ⟨_, rfl, fun hm => absurd rfl hm, nofun, nofun⟩⟩
  | stop =>
    obtain ⟨-, ht⟩ := Option.ite_none_right_eq_some.1 hstep
    obtain rfl := Option.some.inj ht
    exact ⟨fun hstarted => hstarted.elim nofun nofun, h.checked, nofun⟩
  | MonitorGPS opened =>
    dsimp only [step] at hstep
    cases hthread : s.thread with
    | running m =>
      rw [hthread] at hstep
      obtain rfl := Option.some.inj hstep
      by_cases hmain : s.main = .monitoring
      · exact inv_MonitorGPS h hmain hthread hsound
      · obtain ⟨thread, stage, heq⟩ := exists_MonitorGPS s opened m
        rw [heq]
        exact ⟨h.active, h.checked, fun hmain' => absurd hmain' hmain⟩
    | _ => rw [hthread] at hstep; nomatch hstep

theorem Inv.monitored (h : Inv s) : Monitored s where
  running hmain := by
    obtain ⟨m, hthread, -⟩ := h.loop hmain
    exact ⟨m, hthread⟩
  connected hmain m hthread hsettled hhost := by
    obtain ⟨m', hthread', hloop⟩ := h.loop hmain
    obtain rfl := Thread.running.inj (hthread.symm.trans hthread')
    unfold Loop at hloop
    cases hp : m.phase with
    | test => rw [hp] at hloop; exact (hloop.2.2 hsettled).2 hhost
    | readHost => rw [hp] at hloop; exact (hloop.2 hsettled).2 hhost
    | connect => rw [hp] at hloop; exact absurd hsettled hloop.2.1
    | wait =>
      rw [hp, hsettled] at hloop
      exact (hloop.2.2 nofun).2 hhost
  reads hmain m hthread hphase hchanged := by
    obtain ⟨m', hthread', hloop⟩ := h.loop hmain
    obtain rfl := Thread.running.inj (hthread.symm.trans hthread')
    unfold Loop at hloop
    rw [hphase] at hloop
    obtain ⟨heq, hconnected⟩ := hloop.2.2 hchanged
    have hhost : s.gpsdHost ≠ [] := heq ▸ hloop.1
    exact ⟨hhost, hconnected hhost⟩

/-- In every state of a run in which no check finds a change behind the start, and the hosts can be connected to, the
configured host is monitored: for any interleaving of configuration, `Main` and monitor. -/
theorem gps_monitored {es : List Event} (hmeets : plugin.Meets Sound State.init es)
    (h : plugin.exec State.init es = some s) : Monitored s :=
  (Machine.invariant_meets (M := plugin) inv_init (fun _ _ _ hinv hsound hstep => inv_step hinv hsound hstep) hmeets h).monitored

instance decidableStarted : Decidable s.Started := inferInstanceAs (Decidable (_ ∨ _))

instance decidableSound (s : State) (e : Event) : Decidable (Sound s e) :=
  match e with
  | .check => inferInstanceAs (Decidable (s.Started → s.gpsdHost = s.cache))
  | .MonitorGPS opened =>
    match hthread : s.thread with
    | .running m => decidable_of_iff (m.phase = .connect → opened = true)
        ⟨fun h _ hm' => Thread.running.inj (hthread.symm.trans hm') ▸ h, fun h => h m hthread⟩
    | .none => .isTrue fun _ hm => Thread.noConfusion (hthread.symm.trans hm)
    | .terminated => .isTrue fun _ hm => Thread.noConfusion (hthread.symm.trans hm)
  | .UpdateConfigSettings _ | .configSet | .start | .spawn | .stop => .isTrue trivial

/-- The configuration is read, and `Main` starts the monitor. -/
def started (host : Str) : List Event := [.UpdateConfigSettings (some host), .check, .configSet, .start, .spawn]

/-- Two passes of the monitor. -/
def twoPasses : List Event :=
  [.MonitorGPS true, .MonitorGPS true, .MonitorGPS true, .MonitorGPS true, .MonitorGPS true, .MonitorGPS true, .MonitorGPS true]

theorem gps_monitored_localhost :
    ∃ s, plugin.exec State.init (started (CString.lit "localhost") ++ twoPasses) = some s ∧ s.stage = .settled ∧ Monitored s := by
  have hexec : plugin.exec State.init (started (CString.lit "localhost") ++ twoPasses) = some _ := rfl
  exact ⟨_, hexec, rfl, gps_monitored (by decide +kernel) hexec⟩

/-- The host is changed while the monitor runs: its thread ends at the next test of the flag. -/
theorem gps_monitored_fails :
    ∃ s, plugin.exec State.init (started (CString.lit "localhost") ++ twoPasses ++
        [.UpdateConfigSettings (some (CString.lit "10.0.0.1")), .check, .MonitorGPS true]) = some s ∧
      s.main = .monitoring ∧ s.thread = .terminated ∧ ¬ Monitored s := by
  refine ⟨_, rfl, rfl, rfl, fun h => ?_⟩
  obtain ⟨m, hm⟩ := h.running rfl
  nomatch hm

end V2xHub.LocationPlugin
