import V2xHub.Monitor.Basic
import Mathlib.Tactic.Common

/-!
# Kill escalation, and one instance at a time

Every running entry has sent its process the signals that its kill status says, the last of them in the
last cycle that came to the check (`Stage`). A process whose entry is removed gets no more signals, and a
plugin is started only when it has no entry.
-/

namespace V2xHub.PluginMonitor
variable {τ : Type*} {s s' : State τ} {id id' : Nat} {r r' : Running} {pid : Pid} {running : OrdMap Nat Running}

/-- What the credit of a message does not change. -/
def Running.core (r : Running) : InstalledPluginEntry × Pid × Nat × PluginKillState :=
  (r.entry, r.data.pid, r.data.startTime, r.data.killStatus)

/-- The signals sent to a process. -/
def sentTo (sent : List Sent) (pid : Pid) : List Sent := sent.filter (·.pid = pid)

/-- A signal, and the check it was sent in. -/
def Sent.key (x : Sent) : Signal × Nat := (x.signal, x.check)

/-- What has been sent to a process with the kill status, `checks` cycles having come to the check. -/
def Stage (checks : Nat) (log : List (Signal × Nat)) : PluginKillState → Prop
  | .alive => log = []
  | .sigTermSent => ∃ k, checks = k + 1 ∧ log = [(.SIGTERM, k)]
  | .sigIntSent => ∃ k, checks = k + 2 ∧ log = [(.SIGTERM, k), (.SIGINT, k + 1)]
  | .sigKillSent => ∃ k, log = [(.SIGTERM, k), (.SIGINT, k + 1), (.SIGKILL, k + 2)]

theorem Stage.isPrefix {checks : Nat} {log : List (Signal × Nat)} {st : PluginKillState} (h : Stage checks log st) :
    ∃ k, log <+: [(.SIGTERM, k), (.SIGINT, k + 1), (.SIGKILL, k + 2)] := by
  cases st with
  | alive =>
    obtain rfl : log = [] := h
    exact ⟨0, List.nil_prefix⟩
  | sigTermSent =>
    obtain ⟨k, -, rfl⟩ := h
    exact ⟨k, ⟨_, rfl⟩⟩
  | sigIntSent =>
    obtain ⟨k, -, rfl⟩ := h
    exact ⟨k, ⟨_, rfl⟩⟩
  | sigKillSent =>
    obtain ⟨k, rfl⟩ := h
    exact ⟨k, List.prefix_refl _⟩

/-- A check takes every stage to the next. -/
theorem Stage.nextKill {checks : Nat} {log : List (Signal × Nat)} (enabled : OrdMap Nat InstalledPluginEntry)
    (maxStartupTime currentTime : Nat) (h : Stage checks log r.data.killStatus) :
    Stage (checks + 1)
      (log ++ (PluginMonitor.nextKill enabled maxStartupTime currentTime r).2.toList.map fun sig => (sig, checks))
      (PluginMonitor.nextKill enabled maxStartupTime currentTime r).1 := by
  unfold PluginMonitor.nextKill
  cases hst : r.data.killStatus with
  | alive =>
    rw [hst] at h
    obtain rfl : log = [] := h
    dsimp only
    split_ifs
    · exact ⟨checks, rfl, rfl⟩
    · rfl
  | sigTermSent =>
    rw [hst] at h
    obtain ⟨k, rfl, rfl⟩ := h
    exact ⟨k, rfl, rfl⟩
  | sigIntSent =>
    rw [hst] at h
    obtain ⟨k, rfl, rfl⟩ := h
    exact ⟨k, rfl⟩
  | sigKillSent =>
    rw [hst] at h
    obtain ⟨k, rfl⟩ := h
    exact ⟨k, rfl⟩

/-! ### The parts of a cycle -/

theorem mem_of_runningOf {k : Nat} (h : runningOf running k = some (id, r)) :
    running.find? id = some r ∧ r.entry.pluginId = k :=
  ⟨OrdMap.mem_entries.1 (List.mem_of_find?_eq_some h), by simpa using List.find?_some h⟩

theorem core_creditMessage (message : Nat × MessageData) :
    ((creditMessage running message).find? id).map Running.core = (running.find? id).map Running.core := by
  unfold creditMessage
  split
  · rfl
  · rename_i id' r' h
    obtain ⟨hfind, -⟩ := mem_of_runningOf h
    rcases eq_or_ne id id' with rfl | hne
    · rw [OrdMap.find?_insert_self, hfind]
      rfl
    · rw [OrdMap.find?_insert_ne hne]

theorem core_collect (messages : List (Nat × MessageData)) :
    ((messages.foldl creditMessage running).find? id).map Running.core = (running.find? id).map Running.core := by
  induction messages generalizing running with
  | nil => rfl
  | cons message messages ih => rw [List.foldl_cons, ih, core_creditMessage]

/-- The signals of one check to the process of one entry, the processes of the entries being distinct. -/
theorem filter_filterMap_of_mem {α β γ : Type*} [DecidableEq γ] {l : List α} {f : α → Option β} {g : α → γ}
    {h : β → γ} {a : α} (ha : a ∈ l) (hnodup : (l.map g).Nodup) (hf : ∀ a b, f a = some b → h b = g a) :
    (l.filterMap f).filter (h · = g a) = (f a).toList := by
  obtain ⟨l₁, l₂, rfl⟩ := List.append_of_mem ha
  have hnot : ∀ l' : List α, (∀ a' ∈ l', g a' ≠ g a) → (l'.filterMap f).filter (h · = g a) = [] := by
    intro l' hl'
    refine List.filter_eq_nil_iff.2 fun b hb => ?_
    obtain ⟨a', ha', hfa⟩ := List.mem_filterMap.1 hb
    simpa [hf a' b hfa] using hl' a' ha'
  rw [List.map_append, List.map_cons, List.nodup_append, List.nodup_cons] at hnodup
  obtain ⟨-, ⟨hn₂, -⟩, hn₁⟩ := hnodup
  have h₁ := hnot l₁ fun a' ha' => hn₁ _ (List.mem_map_of_mem ha') _ (List.mem_cons_self ..)
  have h₂ := hnot l₂ fun a' ha' heq => hn₂ (heq ▸ List.mem_map_of_mem ha')
  rw [List.filterMap_append, List.filterMap_cons, List.filter_append, h₁, List.nil_append]
  cases hfa : f a with
  | none => exact h₂
  | some b =>
    rw [List.filter_cons_of_pos (by simpa using hf a b hfa), h₂]
    rfl

/-! ### The invariant -/

structure Escalates (s : State τ) : Prop where
  alive : ∀ id r, s.running.find? id = some r → r.data.pid ∈ s.started ∧ r.data.pid ∉ s.seenDead
  distinct : ∀ id id' r r', s.running.find? id = some r → s.running.find? id' = some r' →
    r.data.pid = r'.data.pid → id = id'
  stage : ∀ id r, s.running.find? id = some r →
    Stage s.checks ((sentTo s.sent r.data.pid).map Sent.key) r.data.killStatus
  log : ∀ pid, ∃ k, (sentTo s.sent pid).map Sent.key <+: [(.SIGTERM, k), (.SIGINT, k + 1), (.SIGKILL, k + 2)]
  silent : ∀ pid, pid ∉ s.started → sentTo s.sent pid = []
  seen : ∀ pid ∈ s.seenDead, pid ∈ s.started
  pending : ∀ entry pid rest, s.phase = .record entry pid rest →
    s.running.find? entry.id = none ∧ pid ∈ s.started ∧ pid ∉ s.seenDead ∧ sentTo s.sent pid = [] ∧
      ∀ id r, s.running.find? id = some r → r.data.pid ≠ pid
  instances : ∀ id pid, (id, pid) ∈ s.instances → pid ∈ s.seenDead ∨
    (∃ r, s.running.find? id = some r ∧ r.data.pid = pid) ∨ ∃ entry rest, s.phase = .record entry pid rest ∧ entry.id = id

theorem escalates_init : Escalates (State.init : State τ) := by
  refine ⟨?_, ?_, ?_, fun pid => ⟨0, List.nil_prefix⟩, fun pid _ => rfl, ?_, ?_, ?_⟩
  · rintro id r ⟨⟩
  · rintro id id' r r' ⟨⟩
  · rintro id r ⟨⟩
  · exact fun pid h => absurd h (Finset.notMem_empty pid)
  · rintro entry pid rest ⟨⟩
  · exact fun id pid h => absurd h List.not_mem_nil

/-- What the invariant does not look at may change. -/
theorem Escalates.frame (h : Escalates s)
    (hrunning : ∀ id, (s'.running.find? id).map Running.core = (s.running.find? id).map Running.core)
    (hsent : s'.sent = s.sent) (hchecks : s'.checks = s.checks) (hstarted : s'.started = s.started)
    (hseen : s'.seenDead = s.seenDead) (hinstances : s'.instances = s.instances)
    (hphase : ∀ entry pid rest, s'.phase = .record entry pid rest ↔ s.phase = .record entry pid rest) :
    Escalates s' := by
  have hback : ∀ id r', s'.running.find? id = some r' →
      ∃ r, s.running.find? id = some r ∧ r.data.pid = r'.data.pid ∧ r.data.killStatus = r'.data.killStatus := by
    intro id r' hr'
    have hcore := hrunning id
    rw [hr', Option.map_some] at hcore
    obtain ⟨r, hr, hrc⟩ := Option.map_eq_some_iff.1 hcore.symm
    simp only [Running.core, Prod.mk.injEq] at hrc
    exact ⟨r, hr, hrc.2.1, hrc.2.2.2⟩
  have hforth : ∀ id r, s.running.find? id = some r →
      ∃ r', s'.running.find? id = some r' ∧ r'.data.pid = r.data.pid := by
    intro id r hr
    have hcore := hrunning id
    rw [hr, Option.map_some] at hcore
    obtain ⟨r', hr', hrc⟩ := Option.map_eq_some_iff.1 hcore
    simp only [Running.core, Prod.mk.injEq] at hrc
    exact ⟨r', hr', hrc.2.1⟩
  refine ⟨fun id r' hr' => ?_, fun id id' r₁ r₂ h₁ h₂ heq => ?_, fun id r' hr' => ?_, ?_, ?_, ?_, ?_, ?_⟩
  · obtain ⟨r, hr, hpid, -⟩ := hback id r' hr'
    rw [hstarted, hseen, ← hpid]
    exact h.alive id r hr
  · obtain ⟨r₁', hr₁, hp₁, -⟩ := hback id r₁ h₁
    obtain ⟨r₂', hr₂, hp₂, -⟩ := hback id' r₂ h₂
    exact h.distinct id id' r₁' r₂' hr₁ hr₂ (hp₁.trans (heq.trans hp₂.symm))
  · obtain ⟨r, hr, hpid, hst⟩ := hback id r' hr'
    rw [hsent, hchecks, ← hpid, ← hst]
    exact h.stage id r hr
  · rw [hsent]
    exact h.log
  · rw [hsent, hstarted]
    exact h.silent
  · rw [hseen, hstarted]
    exact h.seen
  · intro entry pid rest hp
    obtain ⟨hnone, hstart, hdead, hlog, hother⟩ := h.pending entry pid rest ((hphase entry pid rest).1 hp)
    rw [hstarted, hseen, hsent]
    refine ⟨?_, hstart, hdead, hlog, fun id r' hr' => ?_⟩
    · have hcore := hrunning entry.id
      rwa [hnone, Option.map_none, Option.map_eq_none_iff] at hcore
    · obtain ⟨r, hr, hpid, -⟩ := hback id r' hr'
      rw [← hpid]
      exact hother id r hr
  · intro id pid hmem
    rw [hinstances] at hmem
    rw [hseen]
    rcases h.instances id pid hmem with hdead | ⟨r, hr, hpid⟩ | ⟨entry, rest, hp, hid⟩
    · exact Or.inl hdead
    · obtain ⟨r', hr', hpid'⟩ := hforth id r hr
      exact Or.inr (Or.inl ⟨r', hr', hpid'.trans hpid⟩)
    · exact Or.inr (Or.inr ⟨entry, rest, (hphase entry pid rest).2 hp, hid⟩)

/-! ### One lemma for each part of a cycle -/

theorem mem_reap {enabled : OrdMap Nat InstalledPluginEntry} {m : Nat} :
    (s.reap enabled m).running.find? id = some r ↔ s.running.find? id = some r ∧ r.data.pid ∉ s.dead := by
  rw [State.reap, OrdMap.find?_filter, Option.filter_eq_some_iff, decide_eq_true_iff]

theorem seenDead_reap {enabled : OrdMap Nat InstalledPluginEntry} {m : Nat} :
    pid ∈ (s.reap enabled m).seenDead ↔ pid ∈ s.seenDead ∨
      ∃ id r, s.running.find? id = some r ∧ r.data.pid = pid ∧ pid ∈ s.dead := by
  simp only [State.reap, Finset.mem_union, List.mem_toFinset, List.mem_filter, List.mem_map, decide_eq_true_iff]
  refine or_congr_right ?_
  constructor
  · rintro ⟨⟨⟨id, r⟩, hmem, hpid⟩, hdead⟩
    exact ⟨id, r, OrdMap.mem_entries.1 hmem, hpid, hdead⟩
  · rintro ⟨id, r, hr, hpid, hdead⟩
    exact ⟨⟨(id, r), OrdMap.mem_entries.2 hr, hpid⟩, hdead⟩

theorem Escalates.reap (h : Escalates s) {enabled : OrdMap Nat InstalledPluginEntry} {m : Nat}
    (hphase : s.phase = .reap enabled m) : Escalates (s.reap enabled m) := by
  refine ⟨fun id r hr => ?_, fun id id' r r' hr hr' => ?_, fun id r hr => ?_, h.log, h.silent, ?_, ?_, ?_⟩
  · obtain ⟨hr, hdead⟩ := mem_reap.1 hr
    refine ⟨(h.alive id r hr).1, fun hmem => ?_⟩
    rcases seenDead_reap.1 hmem with hseen | ⟨-, -, -, -, hdead'⟩
    · exact (h.alive id r hr).2 hseen
    · exact hdead hdead'
  · exact h.distinct id id' r r' (mem_reap.1 hr).1 (mem_reap.1 hr').1
  · exact h.stage id r (mem_reap.1 hr).1
  · intro pid hmem
    rcases seenDead_reap.1 hmem with hseen | ⟨id, r, hr, rfl, -⟩
    · exact h.seen pid hseen
    · exact (h.alive id r hr).1
  · rintro entry pid rest ⟨⟩
  · intro id pid hmem
    rcases h.instances id pid hmem with hseen | ⟨r, hr, hpid⟩ | ⟨entry, rest, hp, -⟩
    · exact Or.inl (seenDead_reap.2 (Or.inl hseen))
    · by_cases hdead : pid ∈ s.dead
      · exact Or.inl (seenDead_reap.2 (Or.inr ⟨id, r, hr, hpid, hdead⟩))
      · exact Or.inr (Or.inl ⟨r, mem_reap.2 ⟨hr, hpid ▸ hdead⟩, hpid⟩)
    · rw [hphase] at hp
      nomatch hp

theorem find?_check {enabled : OrdMap Nat InstalledPluginEntry} {m : Nat}
    (h : (s.check enabled m).running.find? id = some r') : ∃ r, s.running.find? id = some r ∧
      r'.data.pid = r.data.pid ∧ r'.data.killStatus = (nextKill enabled m s.clock r).1 := by
  rw [State.check, OrdMap.find?_map] at h
  obtain ⟨r, hr, rfl⟩ := Option.map_eq_some_iff.1 h
  exact ⟨r, hr, rfl, rfl⟩

theorem Escalates.nodup_pids (h : Escalates s) : (s.running.entries.map fun e => e.2.data.pid).Nodup := by
  refine List.Nodup.map_on (fun a ha b hb heq => ?_) (List.Nodup.of_map _ s.running.nodup_keys)
  have ha' := OrdMap.mem_entries.1 ha
  have hb' := OrdMap.mem_entries.1 hb
  have hid := h.distinct _ _ _ _ ha' hb' heq
  rw [hid, hb'] at ha'
  exact Prod.ext hid (Option.some.inj ha').symm

/-- A check sends to the process of an entry what the kill status of the entry says. -/
theorem Escalates.sentTo_check (h : Escalates s) {enabled : OrdMap Nat InstalledPluginEntry} {m : Nat}
    (hr : s.running.find? id = some r) :
    sentTo (s.check enabled m).sent r.data.pid = sentTo s.sent r.data.pid ++
      (nextKill enabled m s.clock r).2.toList.map fun sig => ⟨r.data.pid, sig, s.cycles, s.checks⟩ := by
  rw [sentTo, State.check, List.filter_append,
    filter_filterMap_of_mem (a := (id, r)) (OrdMap.mem_entries.2 hr) h.nodup_pids]
  · rw [Option.toList_map]
    rfl
  · rintro ⟨id', r'⟩ x hx
    obtain ⟨-, -, rfl⟩ := Option.map_eq_some_iff.1 hx
    rfl

/-- A check sends nothing to other processes. -/
theorem sentTo_check_of_not_running {enabled : OrdMap Nat InstalledPluginEntry} {m : Nat}
    (h : ∀ id r, s.running.find? id = some r → r.data.pid ≠ pid) :
    sentTo (s.check enabled m).sent pid = sentTo s.sent pid := by
  rw [sentTo, State.check, List.filter_append]
  refine (congrArg (_ ++ ·) (List.filter_eq_nil_iff.2 fun x hx => ?_)).trans (List.append_nil _)
  obtain ⟨⟨id, r⟩, hmem, hx⟩ := List.mem_filterMap.1 hx
  obtain ⟨-, -, rfl⟩ := Option.map_eq_some_iff.1 hx
  simpa using h id r (OrdMap.mem_entries.1 hmem)

theorem Escalates.check (h : Escalates s) {enabled : OrdMap Nat InstalledPluginEntry} {m : Nat}
    (hphase : s.phase = .check enabled m) : Escalates (s.check enabled m) := by
  have hstage : ∀ id r, s.running.find? id = some r →
      Stage (s.checks + 1) ((sentTo (s.check enabled m).sent r.data.pid).map Sent.key)
        (nextKill enabled m s.clock r).1 := by
    intro id r hr
    rw [h.sentTo_check hr, List.map_append, List.map_map]
    exact (h.stage id r hr).nextKill enabled m s.clock
  refine ⟨fun id r' hr' => ?_, fun id id' r₁' r₂' h₁ h₂ heq => ?_, fun id r' hr' => ?_, fun pid => ?_,
    fun pid hpid => ?_, h.seen, ?_, fun id pid hmem => ?_⟩
  · obtain ⟨r, hr, hpid, -⟩ := find?_check hr'
    rw [hpid]
    exact h.alive id r hr
  · obtain ⟨r₁, hr₁, hp₁, -⟩ := find?_check h₁
    obtain ⟨r₂, hr₂, hp₂, -⟩ := find?_check h₂
    exact h.distinct id id' r₁ r₂ hr₁ hr₂ (by rw [← hp₁, ← hp₂, heq])
  · obtain ⟨r, hr, hpid, hst⟩ := find?_check hr'
    rw [hpid, hst]
    exact hstage id r hr
  · by_cases hrun : ∃ id r, s.running.find? id = some r ∧ r.data.pid = pid
    · obtain ⟨id, r, hr, rfl⟩ := hrun
      exact (hstage id r hr).isPrefix
    · rw [sentTo_check_of_not_running fun id r hr hpid => hrun ⟨id, r, hr, hpid⟩]
      exact h.log pid
  · rw [sentTo_check_of_not_running]
    · exact h.silent pid hpid
    · rintro id r hr rfl
      exact hpid (h.alive id r hr).1
  · rintro entry pid rest ⟨⟩
  · rcases h.instances id pid hmem with hseen | ⟨r, hr, hpid⟩ | ⟨entry, rest, hp, -⟩
    · exact Or.inl hseen
    · have hr' := OrdMap.find?_map (m := s.running) (k := id) (f := fun _ (r : Running) =>
        { r with data := { r.data with killStatus := (nextKill enabled m s.clock r).1 } })
      rw [hr] at hr'
      exact Or.inr (Or.inl ⟨_, hr', hpid⟩)
    · rw [hphase] at hp
      nomatch hp

theorem Escalates.execute (h : Escalates s) {entry : InstalledPluginEntry} {rest : List InstalledPluginEntry}
    (hphase : s.phase = .start (entry :: rest)) (hrun : s.running.find? entry.id = none) (hpid : pid ∉ s.started) :
    Escalates { s with
      started := insert pid s.started
      instances := (entry.id, pid) :: s.instances
      phase := .record entry pid rest } := by
  have hother : ∀ id r, s.running.find? id = some r → r.data.pid ≠ pid := by
    rintro id r hr rfl
    exact hpid (h.alive id r hr).1
  refine ⟨fun id r hr => ⟨Finset.mem_insert_of_mem (h.alive id r hr).1, (h.alive id r hr).2⟩, h.distinct, h.stage,
    h.log, fun pid' hpid' => h.silent pid' fun hmem => hpid' (Finset.mem_insert_of_mem hmem),
    fun pid' hseen => Finset.mem_insert_of_mem (h.seen pid' hseen), ?_, fun id pid' hmem => ?_⟩
  · intro entry' pid' rest' heq
    obtain ⟨rfl, rfl, rfl⟩ := Phase.record.inj heq
    exact ⟨hrun, Finset.mem_insert_self .., fun hseen => hpid (h.seen pid hseen), h.silent pid hpid, hother⟩
  · rcases List.mem_cons.1 hmem with heq | hmem
    · obtain ⟨rfl, rfl⟩ := Prod.mk.inj heq
      exact Or.inr (Or.inr ⟨entry, rest, rfl, rfl⟩)
    · rcases h.instances id pid' hmem with hseen | hrunning | ⟨entry', rest', hp, -⟩
      · exact Or.inl hseen
      · exact Or.inr (Or.inl hrunning)
      · rw [hphase] at hp
        nomatch hp

theorem Escalates.record (h : Escalates s) {entry : InstalledPluginEntry} {rest : List InstalledPluginEntry}
    (hphase : s.phase = .record entry pid rest) : Escalates (s.record entry pid rest) := by
  obtain ⟨hnone, hstarted, hseen, hlog, hother⟩ := h.pending entry pid rest hphase
  have hcases : ∀ id r, (s.record entry pid rest).running.find? id = some r →
      (id = entry.id ∧ r.data.pid = pid ∧ r.data.killStatus = .alive) ∨ s.running.find? id = some r := by
    intro id r hr
    rw [State.record, OrdMap.find?_insert] at hr
    split_ifs at hr with hid
    · obtain rfl := Option.some.inj hr
      exact Or.inl ⟨hid, rfl, rfl⟩
    · exact Or.inr hr
  refine ⟨fun id r hr => ?_, fun id id' r r' hr hr' heq => ?_, fun id r hr => ?_, h.log, h.silent, h.seen, ?_,
    fun id pid' hmem => ?_⟩
  · rcases hcases id r hr with ⟨-, rfl, -⟩ | hr
    · exact ⟨hstarted, hseen⟩
    · exact h.alive id r hr
  · rcases hcases id r hr with ⟨rfl, hpid, -⟩ | hr <;> rcases hcases id' r' hr' with ⟨rfl, hpid', -⟩ | hr'
    · rfl
    · exact absurd (heq.symm.trans hpid) (hother id' r' hr')
    · exact absurd (heq.trans hpid') (hother id r hr)
    · exact h.distinct id id' r r' hr hr' heq
  · rcases hcases id r hr with ⟨-, rfl, hst⟩ | hr
    · rw [hst]
      exact List.map_eq_nil_iff.2 hlog
    · exact h.stage id r hr
  · rintro entry' pid' rest' ⟨⟩
  · rcases h.instances id pid' hmem with hdead | ⟨r, hr, hpid⟩ | ⟨entry', rest', hp, rfl⟩
    · exact Or.inl hdead
    · refine Or.inr (Or.inl ⟨r, ?_, hpid⟩)
      rw [State.record, OrdMap.find?_insert_ne]
      · exact hr
      · rintro rfl
        rw [hnone] at hr
        nomatch hr
    · rw [hphase] at hp
      obtain ⟨rfl, rfl, rfl⟩ := Phase.record.inj hp
      exact Or.inr (Or.inl ⟨_, OrdMap.find?_insert_self, rfl⟩)

/-! ### The cycles of the signals -/

/-- Has the cycle begun and not yet come to the check. -/
def Phase.beforeCheck : Phase → Prop
  | .query => True
  | .reap _ _ => True
  | .check _ _ => True
  | _ => False

structure Timed (s : State τ) : Prop where
  le : ∀ x ∈ s.sent, x.cycle ≤ s.cycles
  lt : s.phase.beforeCheck → ∀ x ∈ s.sent, x.cycle < s.cycles
  increasing : ∀ pid, (sentTo s.sent pid).Pairwise fun x y => x.cycle < y.cycle

theorem Timed.check (h : Timed s) (he : Escalates s) {enabled : OrdMap Nat InstalledPluginEntry} {m : Nat}
    (hphase : s.phase = .check enabled m) : Timed (s.check enabled m) := by
  have hlt : ∀ x ∈ s.sent, x.cycle < s.cycles := h.lt (by rw [hphase]; trivial)
  refine ⟨fun x hx => ?_, False.elim, fun pid => ?_⟩
  · rcases List.mem_append.1 hx with hx | hx
    · exact h.le x hx
    · obtain ⟨a, -, hx⟩ := List.mem_filterMap.1 hx
      obtain ⟨-, -, rfl⟩ := Option.map_eq_some_iff.1 hx
      exact le_rfl
  · by_cases hrun : ∃ id r, s.running.find? id = some r ∧ r.data.pid = pid
    · obtain ⟨id, r, hr, rfl⟩ := hrun
      rw [he.sentTo_check hr]
      refine List.pairwise_append.2 ⟨h.increasing _, ?_, fun x hx y hy => ?_⟩
      · cases (nextKill enabled m s.clock r).2 with
        | none => exact List.Pairwise.nil
        | some signal => exact List.pairwise_singleton _ _
      · obtain ⟨signal, -, rfl⟩ := List.mem_map.1 hy
        exact hlt x (List.mem_of_mem_filter hx)
    · rw [sentTo_check_of_not_running fun id r hr hpid => hrun ⟨id, r, hr, hpid⟩]
      exact h.increasing pid

/-- The processes of one plugin whose deaths have not been seen. -/
theorem Escalates.single (h : Escalates s) {pid' : Pid} (hmem : (id, pid) ∈ s.instances)
    (hmem' : (id, pid') ∈ s.instances) (hseen : pid ∉ s.seenDead) (hseen' : pid' ∉ s.seenDead) : pid = pid' := by
  rcases h.instances id pid hmem with hdead | ⟨r, hr, rfl⟩ | ⟨entry, rest, hp, rfl⟩
  · exact absurd hdead hseen
  · rcases h.instances id pid' hmem' with hdead | ⟨r', hr', rfl⟩ | ⟨entry, rest, hp, rfl⟩
    · exact absurd hdead hseen'
    · rw [Option.some.inj (hr.symm.trans hr')]
    · rw [(h.pending _ _ _ hp).1] at hr
      nomatch hr
  · rcases h.instances _ pid' hmem' with hdead | ⟨r', hr', rfl⟩ | ⟨entry', rest', hp', -⟩
    · exact absurd hdead hseen'
    · rw [(h.pending _ _ _ hp).1] at hr'
      nomatch hr'
    · exact (Phase.record.inj (hp.symm.trans hp')).2.1

section
variable [DecidableEq τ] {e : Event τ} {es : List (Event τ)}

/-! ### Runs -/

theorem Escalates.step (h : Escalates s) (hs : s.step e = some s') : Escalates s' := by
  -- what most events keep
  have hframe : ∀ s' : State τ, s'.running = s.running → s'.sent = s.sent → s'.checks = s.checks →
      s'.started = s.started → s'.seenDead = s.seenDead → s'.instances = s.instances →
      (∀ entry pid rest, s'.phase = .record entry pid rest ↔ s.phase = .record entry pid rest) → Escalates s' :=
    fun s' hrunning => h.frame fun id => by rw [hrunning]
  cases State.steps_of_step hs with
  | receiveCore => exact h
  | tick | die | receive | store => exact hframe _ rfl rfl rfl rfl rfl rfl fun _ _ _ => Iff.rfl
  | collect hphase =>
    exact h.frame (fun id => core_collect _) rfl rfl rfl rfl rfl fun _ _ _ => by simp [State.collect, hphase]
  | queryFailed hphase | query hphase | startDone hphase | startNext hphase =>
    exact hframe _ rfl rfl rfl rfl rfl rfl fun _ _ _ => by simp [hphase]
  | @setStatus ok hphase => exact hframe _ rfl rfl rfl rfl rfl rfl fun _ _ _ => by cases ok <;> simp [hphase]
  | reap hphase => exact h.reap hphase
  | check hphase => exact h.check hphase
  | execute hphase hrun hpid => exact h.execute hphase hrun hpid
  | record hphase => exact h.record hphase

theorem Timed.step (h : Timed s) (he : Escalates s) (hs : s.step e = some s') : Timed s' := by
  cases State.steps_of_step hs with
  | receiveCore | tick | die | receive | store => exact ⟨h.le, h.lt, h.increasing⟩
  | collect hphase =>
    exact ⟨fun x hx => (h.le x hx).trans (Nat.le_succ _), fun _ x hx => Nat.lt_succ_of_le (h.le x hx), h.increasing⟩
  | queryFailed hphase | startDone hphase | startNext hphase | execute hphase | record hphase =>
    exact ⟨h.le, False.elim, h.increasing⟩
  | @setStatus ok hphase => exact ⟨h.le, by cases ok <;> exact False.elim, h.increasing⟩
  | query hphase | reap hphase => exact ⟨h.le, fun _ => h.lt (by rw [hphase]; trivial), h.increasing⟩
  | check hphase => exact h.check he hphase

theorem reachable_escalates (hs : (machine τ).exec (machine τ).init es = some s) : Escalates s ∧ Timed s := by
  refine Machine.invariant (I := fun s => Escalates s ∧ Timed s) ⟨escalates_init, ?_, ?_, ?_⟩
    (fun _ _ _ h hs => ⟨h.1.step hs, h.2.step h.1 hs⟩) hs
  · exact fun x hx => absurd hx List.not_mem_nil
  · exact fun _ x hx => absurd hx List.not_mem_nil
  · exact fun pid => List.Pairwise.nil

/-- The signals of a step go to processes whose death has not been seen. -/
theorem Escalates.sent_step (h : Escalates s) (hs : s.step e = some s') :
    ∃ new, s'.sent = s.sent ++ new ∧ ∀ x ∈ new, x.pid ∉ s.seenDead := by
  cases State.steps_of_step hs with
  | @check enabled m hphase =>
    refine ⟨_, rfl, fun x hx => ?_⟩
    obtain ⟨⟨id, r⟩, hmem, hx⟩ := List.mem_filterMap.1 hx
    obtain ⟨-, -, rfl⟩ := Option.map_eq_some_iff.1 hx
    exact (h.alive id r (OrdMap.mem_entries.1 hmem)).2
  | _ => exact ⟨[], (List.append_nil _).symm, fun x hx => absurd hx List.not_mem_nil⟩

end

/-- In every run the signals to one process are a prefix of SIGTERM, SIGINT, SIGKILL, in consecutive cycles
of those that come to the check and in no cycle two of them; they go to processes whose death has not been
seen, and of the processes of one plugin there is at most one such. -/
theorem escalation (τ : Type*) [DecidableEq τ] (es : List (Event τ)) (s : State τ)
    (hes : (machine τ).exec (machine τ).init es = some s) :
    (∀ pid, (∃ k, (sentTo s.sent pid).map Sent.key <+: [(.SIGTERM, k), (.SIGINT, k + 1), (.SIGKILL, k + 2)]) ∧
      (sentTo s.sent pid).Pairwise fun x y => x.cycle < y.cycle) ∧
    (∀ e s', s.step e = some s' → ∃ new, s'.sent = s.sent ++ new ∧ ∀ x ∈ new, x.pid ∉ s.seenDead) ∧
    ∀ id pid pid', (id, pid) ∈ s.instances → (id, pid') ∈ s.instances → pid ∉ s.seenDead → pid' ∉ s.seenDead →
      pid = pid' := by
  obtain ⟨he, ht⟩ := reachable_escalates hes
  exact ⟨fun pid => ⟨he.log pid, ht.increasing pid⟩, fun e s' hs => he.sent_step hs,
    fun id pid pid' hmem hmem' => he.single hmem hmem'⟩

/-- A plugin is disabled while it runs; the second cycle after that does not come to the check. -/
def disabledEvents : List (Event Nat) :=
  [.collect, .query (some [⟨1, 1, CString.lit "p", CString.lit "e", 0⟩]) 0, .reap, .check, .start (some 7), .record,
    .start none, .setStatus true, .collect, .query (some []) 0, .reap, .check, .start none, .setStatus true,
    .collect, .query none 0, .collect, .query (some []) 0, .reap, .check]

theorem escalation_disabled : ∃ s, (machine Nat).exec (machine Nat).init disabledEvents = some s ∧
    sentTo s.sent 7 = [⟨7, .SIGTERM, 2, 1⟩, ⟨7, .SIGINT, 4, 2⟩] ∧
    ∃ k, (sentTo s.sent 7).map Sent.key <+: [(.SIGTERM, k), (.SIGINT, k + 1), (.SIGKILL, k + 2)] :=
  ⟨_, rfl, by decide, ((escalation Nat disabledEvents _ rfl).1 7).1⟩

/-- The signals are not in consecutive cycles where a cycle is cut short by a failure of the database. -/
theorem cycle_cut_short : ¬ ∀ (es : List (Event Nat)) (s : State Nat),
    (machine Nat).exec (machine Nat).init es = some s → ∀ pid, ∃ k,
      (sentTo s.sent pid).map (fun x => (x.signal, x.cycle)) <+:
        [(.SIGTERM, k), (.SIGINT, k + 1), (.SIGKILL, k + 2)] := by
  intro h
  obtain ⟨s, hs, hsent⟩ : ∃ s, (machine Nat).exec (machine Nat).init disabledEvents = some s ∧
      sentTo s.sent 7 = [⟨7, .SIGTERM, 2, 1⟩, ⟨7, .SIGINT, 4, 2⟩] := ⟨_, rfl, by decide⟩
  obtain ⟨k, hk⟩ := h disabledEvents s hs 7
  rw [hsent] at hk
  simp at hk
  omega

end V2xHub.PluginMonitor
