import V2xHub.Monitor.Escalation
import Mathlib.Data.Fintype.Basic

/-!
# Whose messages keep a plugin alive

Messages are noted by plugin id, not by process, and are credited in the next cycle to whatever process
then runs. `InOrder` is the condition under which this does no harm: nothing from another process, or from
before the start, waits to be credited, messages are noted in the order of their times, and the limits
are those of the check. In runs of such steps a message is credited to the process that sent it, and a
process is signalled for its silence only when it has been silent that long (`liveness`).
-/

namespace V2xHub.PluginMonitor
variable {τ : Type*} {s s' : State τ} {id id' : Nat} {r r' : Running} {pid : Pid} {running : OrdMap Nat Running}

/-! ### The condition and the property of a step -/

/-- Does the check look at how long the process has been silent. -/
def Running.Watched (r : Running) : Prop := r.data.lastReceivedTime = 0 ∨ r.entry.maxMessageInterval ≠ 0

/-- The time from which the silence counts. -/
def Running.silentFrom (r : Running) : Nat :=
  if r.data.lastReceivedTime = 0 then r.data.startTime else r.data.lastReceivedTime

/-- The configured time, `enabledPlugin` being the entry as it is now in the database. -/
def Running.limit (r : Running) (enabledPlugin : InstalledPluginEntry) (maxStartupTime : Nat) : Nat :=
  if r.data.lastReceivedTime = 0 then maxStartupTime else enabledPlugin.maxMessageInterval

instance : DecidablePred Running.Watched := fun r =>
  inferInstanceAs (Decidable (r.data.lastReceivedTime = 0 ∨ r.entry.maxMessageInterval ≠ 0))

namespace State

/-- The messages with the source id that wait to be credited are `limit` old. -/
def Quiet (s : State τ) (pluginId limit : Nat) : Prop :=
  (∀ m ∈ s.messages.find? pluginId, m.lastReceivedTime + limit ≤ s.clock) ∧
  ∀ t, ∀ w ∈ s.receiving t, w.sourceId = pluginId → w.rxTime + limit ≤ s.clock

/-- What a step needs of its environment. -/
def InOrder (s : State τ) : Event τ → Prop
  -- a process sends under the id of its plugin
  | .receive _ sourceId origin => ∀ e ∈ s.running.entries, e.2.data.pid = origin → e.2.entry.pluginId = sourceId
  -- a message is noted while its sender runs, and after the messages received before it
  | .store t => ∀ w ∈ s.receiving t, ∀ e ∈ s.running.entries, e.2.entry.pluginId = w.sourceId →
      e.2.data.pid = w.origin ∧ e.2.data.startTime ≤ w.rxTime ∧ e.2.data.lastReceivedTime ≤ w.rxTime ∧
      ∀ m ∈ s.messages.find? w.sourceId, m.lastReceivedTime ≤ w.rxTime
  -- no message from before the start waits to be credited
  | .record =>
    match s.phase with
    | .record entry pid _ => ∀ m ∈ s.messages.find? entry.pluginId,
        s.clock ≤ m.firstReceivedTime ∧ s.clock ≤ m.lastReceivedTime ∧ ∀ o ∈ m.origins, o = pid
    | _ => True
  -- there is a limit, it does not wrap around, and what waits to be credited does not break the silence
  | .check =>
    match s.phase with
    | .check enabled maxStartupTime => ∀ e ∈ s.running.entries, e.2.data.killStatus = .alive → e.2.Watched →
        ∀ enabledPlugin ∈ enabled.find? e.2.entry.id,
          let limit := e.2.limit enabledPlugin maxStartupTime
          limit ≠ 0 ∧ e.2.silentFrom + limit < uint64 ∧
          (e.2.silentFrom + limit ≤ s.clock → s.Quiet e.2.entry.pluginId limit)
    | _ => True
  | _ => True

/-- What a step of the monitor owes the processes. -/
def Fair (s : State τ) : Event τ → Prop
  | .collect => ∀ sourceId m id r, s.messages.find? sourceId = some m →
      runningOf s.running sourceId = some (id, r) → (∀ o ∈ m.origins, o = r.data.pid) ∧
      (r.data.lastReceivedTime = 0 → startupTime r.data m + r.data.startTime = m.firstReceivedTime)
  | .check => ∀ enabled maxStartupTime id r enabledPlugin, s.phase = .check enabled maxStartupTime →
      s.running.find? id = some r → enabled.find? r.entry.id = some enabledPlugin →
      (nextKill enabled maxStartupTime s.clock r).2 = some .SIGTERM →
      let limit := r.limit enabledPlugin maxStartupTime
      limit ≠ 0 ∧ r.data.startTime + limit ≤ s.clock ∧ ∀ h, s.heard r.data.pid = some h → h + limit ≤ s.clock
  | _ => True

/-- A message with the source id, of this time or a later one, waits to be credited. -/
def Waiting (s : State τ) (pluginId time : Nat) : Prop :=
  (∃ m, s.messages.find? pluginId = some m ∧ time ≤ m.lastReceivedTime) ∨
  ∃ t w, s.receiving t = some w ∧ w.sourceId = pluginId ∧ time ≤ w.rxTime

end State

/-! ### Crediting -/

theorem find?_creditMessage {k : Nat} {m : MessageData}
    (hone : ∀ id id' r r', running.find? id = some r → running.find? id' = some r' →
      r.entry.pluginId = k → r'.entry.pluginId = k → id = id')
    (h : (creditMessage running (k, m)).find? id = some r') : ∃ r, running.find? id = some r ∧
      ((r.entry.pluginId ≠ k ∧ r' = r) ∨ (r.entry.pluginId = k ∧ r' = { r with data := r.data.credit m })) := by
  unfold creditMessage at h
  split at h
  · rename_i hnone
    refine ⟨r', h, Or.inl ⟨fun hk => ?_, rfl⟩⟩
    have hno := List.find?_eq_none.1 hnone (id, r') (OrdMap.mem_entries.2 h)
    simp [hk] at hno
  · rename_i id₀ r₀ hsome
    obtain ⟨hr₀, hk₀⟩ := mem_of_runningOf hsome
    rw [OrdMap.find?_insert] at h
    split_ifs at h with hid
    · subst hid
      exact ⟨r₀, hr₀, Or.inr ⟨hk₀, (Option.some.inj h).symm⟩⟩
    · exact ⟨r', h, Or.inl ⟨fun hk => hid (hone _ _ _ _ h hr₀ hk hk₀), rfl⟩⟩

theorem find?_collect {messages : List (Nat × MessageData)} (hnodup : (messages.map Prod.fst).Nodup)
    (hone : ∀ k m id id' r r', (k, m) ∈ messages → running.find? id = some r → running.find? id' = some r' →
      r.entry.pluginId = k → r'.entry.pluginId = k → id = id')
    (h : (messages.foldl creditMessage running).find? id = some r') : ∃ r, running.find? id = some r ∧
      (((∀ m, (r.entry.pluginId, m) ∉ messages) ∧ r' = r) ∨
        ∃ m, (r.entry.pluginId, m) ∈ messages ∧ r' = { r with data := r.data.credit m }) := by
  induction messages generalizing running with
  | nil => exact ⟨r', h, Or.inl ⟨fun m => List.not_mem_nil, rfl⟩⟩
  | cons message messages ih =>
    obtain ⟨k, m⟩ := message
    obtain ⟨hk, hnodup⟩ := List.nodup_cons.1 hnodup
    have hone₀ : ∀ id id' r r', running.find? id = some r → running.find? id' = some r' →
        r.entry.pluginId = k → r'.entry.pluginId = k → id = id' :=
      fun id id' r r' => hone k m id id' r r' (List.mem_cons_self ..)
    -- the plugin ids stay where they are
    have hback : ∀ id r₁, (creditMessage running (k, m)).find? id = some r₁ →
        ∃ r, running.find? id = some r ∧ r₁.entry = r.entry := by
      intro id r₁ h₁
      obtain ⟨r, hr, ⟨-, rfl⟩ | ⟨-, rfl⟩⟩ := find?_creditMessage hone₀ h₁
      · exact ⟨_, hr, rfl⟩
      · exact ⟨r, hr, rfl⟩
    rw [List.foldl_cons] at h
    obtain ⟨r₁, hr₁, hcases⟩ := ih hnodup (fun k' m' id id' r₁ r₁' hmem h₁ h₁' hp hp' => by
      obtain ⟨r, hr, he⟩ := hback id r₁ h₁
      obtain ⟨r', hr', he'⟩ := hback id' r₁' h₁'
      exact hone k' m' id id' r r' (List.mem_cons_of_mem _ hmem) hr hr' (he ▸ hp) (he' ▸ hp')) h
    obtain ⟨r, hr, ⟨hne, rfl⟩ | ⟨rfl, rfl⟩⟩ := find?_creditMessage hone₀ hr₁
    · refine ⟨r₁, hr, hcases.imp (fun ⟨hnot, heq⟩ => ⟨fun m' hmem => ?_, heq⟩)
        fun ⟨m', hmem, heq⟩ => ⟨m', List.mem_cons_of_mem _ hmem, heq⟩⟩
      rcases List.mem_cons.1 hmem with heq | hmem
      · exact hne (Prod.mk.inj heq).1
      · exact hnot m' hmem
    · rcases hcases with ⟨-, rfl⟩ | ⟨m', hmem, -⟩
      · exact ⟨r, hr, Or.inr ⟨m, List.mem_cons_self .., rfl⟩⟩
      · exact absurd (List.mem_map_of_mem hmem) hk

/-! ### The invariant -/

structure Attributed (s : State τ) : Prop where
  clock : s.clock < uint64
  heardLe : ∀ p h, s.heard p = some h → h ≤ s.clock
  receivingLe : ∀ t w, s.receiving t = some w → w.rxTime ≤ s.clock
  notedLe : ∀ k m, s.messages.find? k = some m →
    m.firstReceivedTime ≤ s.clock ∧ m.lastReceivedTime ≤ s.clock ∧ m.origins ≠ []
  startLe : ∀ id r, s.running.find? id = some r → r.data.startTime ≤ s.clock
  credited : ∀ id r, s.running.find? id = some r →
    (r.data.lastReceivedTime = 0 ∨ r.data.startTime ≤ r.data.lastReceivedTime) ∧ ∀ o ∈ r.data.credited, o = r.data.pid
  noted : ∀ id r m, s.running.find? id = some r → s.messages.find? r.entry.pluginId = some m →
    r.data.startTime ≤ m.firstReceivedTime ∧ r.data.startTime ≤ m.lastReceivedTime ∧
    r.data.lastReceivedTime ≤ m.lastReceivedTime ∧ ∀ o ∈ m.origins, o = r.data.pid
  heard : ∀ id r h, s.running.find? id = some r → s.heard r.data.pid = some h →
    h ≤ r.data.startTime ∨ h ≤ r.data.lastReceivedTime ∨ s.Waiting r.entry.pluginId h

theorem attributed_init : Attributed (State.init : State τ) := by
  refine ⟨Nat.two_pow_pos 64, ?_, ?_, ?_, ?_, ?_, ?_, ?_⟩
  · rintro p h ⟨⟩
  · rintro t w ⟨⟩
  · rintro k m ⟨⟩
  · rintro id r ⟨⟩
  · rintro id r ⟨⟩
  · rintro id r m ⟨⟩
  · rintro id r h ⟨⟩

/-- Entries may go and their kill status may change. -/
theorem Attributed.frame (h : Attributed s)
    (hrunning : ∀ id r', s'.running.find? id = some r' → ∃ r killStatus, s.running.find? id = some r ∧
      r' = { r with data := { r.data with killStatus := killStatus } })
    (hclock : s'.clock = s.clock) (hheard : s'.heard = s.heard) (hreceiving : s'.receiving = s.receiving)
    (hmessages : s'.messages = s.messages) : Attributed s' := by
  refine ⟨hclock ▸ h.clock, ?_, ?_, ?_, fun id r' hr' => ?_, fun id r' hr' => ?_, fun id r' m hr' hm => ?_,
    fun id r' time hr' ht => ?_⟩
  · rw [hheard, hclock]
    exact h.heardLe
  · rw [hreceiving, hclock]
    exact h.receivingLe
  · rw [hmessages, hclock]
    exact h.notedLe
  · obtain ⟨r, killStatus, hr, rfl⟩ := hrunning id r' hr'
    rw [hclock]
    exact h.startLe id r hr
  · obtain ⟨r, killStatus, hr, rfl⟩ := hrunning id r' hr'
    exact h.credited id r hr
  · obtain ⟨r, killStatus, hr, rfl⟩ := hrunning id r' hr'
    exact h.noted id r m hr (hmessages ▸ hm)
  · obtain ⟨r, killStatus, hr, rfl⟩ := hrunning id r' hr'
    rw [State.Waiting, hmessages, hreceiving]
    exact h.heard id r time hr (hheard ▸ ht)

/-! ### One lemma for each part of a cycle -/

theorem Attributed.tick (h : Attributed s) {time : Nat} (hle : s.clock ≤ time) (hlt : time < uint64) :
    Attributed { s with clock := time } :=
  ⟨hlt, fun p x hx => (h.heardLe p x hx).trans hle, fun t w hw => (h.receivingLe t w hw).trans hle,
    fun k m hm => ⟨(h.notedLe k m hm).1.trans hle, (h.notedLe k m hm).2.1.trans hle, (h.notedLe k m hm).2.2⟩,
    fun id r hr => (h.startLe id r hr).trans hle, h.credited, h.noted, h.heard⟩

/-- All messages with one source id are for one entry. -/
theorem Attributed.one (h : Attributed s) (he : Escalates s) {m : MessageData} (hr : s.running.find? id = some r)
    (hr' : s.running.find? id' = some r') (hm : s.messages.find? r.entry.pluginId = some m)
    (hplugin : r'.entry.pluginId = r.entry.pluginId) : id = id' := by
  obtain ⟨o, ho⟩ := List.exists_mem_of_ne_nil _ (h.notedLe _ _ hm).2.2
  refine he.distinct id id' r r' hr hr' ?_
  rw [← (h.noted id r m hr hm).2.2.2 o ho, ← (h.noted id' r' m hr' (hplugin ▸ hm)).2.2.2 o ho]

theorem Attributed.collect (h : Attributed s) (he : Escalates s) : Attributed s.collect := by
  have hback : ∀ id r', s.collect.running.find? id = some r' → ∃ r, s.running.find? id = some r ∧
      ((s.messages.find? r.entry.pluginId = none ∧ r' = r) ∨
        ∃ m, s.messages.find? r.entry.pluginId = some m ∧ r' = { r with data := r.data.credit m }) := by
    intro id r' hr'
    obtain ⟨r, hr, ⟨hnot, rfl⟩ | ⟨m, hmem, rfl⟩⟩ := find?_collect s.messages.nodup_keys
      (fun k m id id' r r' hmem hr hr' hk hk' => h.one he hr hr' (hk ▸ OrdMap.mem_entries.1 hmem) (hk'.trans hk.symm)) hr'
    · refine ⟨r', hr, Or.inl ⟨Option.eq_none_iff_forall_ne_some.2 fun m hm => ?_, rfl⟩⟩
      exact hnot m (OrdMap.mem_entries.2 hm)
    · exact ⟨r, hr, Or.inr ⟨m, OrdMap.mem_entries.1 hmem, rfl⟩⟩
  refine ⟨h.clock, h.heardLe, h.receivingLe, ?_, fun id r' hr' => ?_, fun id r' hr' => ?_, ?_, fun id r' x hr' hx => ?_⟩
  · rintro k m ⟨⟩
  · obtain ⟨r, hr, ⟨-, rfl⟩ | ⟨m, -, rfl⟩⟩ := hback id r' hr'
    · exact h.startLe id _ hr
    · exact h.startLe id r hr
  · obtain ⟨r, hr, ⟨-, rfl⟩ | ⟨m, hm, rfl⟩⟩ := hback id r' hr'
    · exact h.credited id _ hr
    · obtain ⟨-, hlast, -, horigins⟩ := h.noted id r m hr hm
      refine ⟨Or.inr hlast, fun o ho => ?_⟩
      rcases List.mem_append.1 ho with ho | ho
      · exact horigins o ho
      · exact (h.credited id r hr).2 o ho
  · rintro id r m - ⟨⟩
  · -- what waited in the map is credited now
    obtain ⟨r, hr, ⟨hnone, rfl⟩ | ⟨m, hm, rfl⟩⟩ := hback id r' hr'
    · rcases h.heard id _ x hr hx with hstart | hlast | ⟨m, hm, -⟩ | hwait
      · exact Or.inl hstart
      · exact Or.inr (Or.inl hlast)
      · rw [hnone] at hm
        nomatch hm
      · exact Or.inr (Or.inr (Or.inr hwait))
    · rcases h.heard id r x hr hx with hstart | hlast | ⟨m', hm', hle⟩ | hwait
      · exact Or.inl hstart
      · exact Or.inr (Or.inl (hlast.trans (h.noted id r m hr hm).2.2.1))
      · obtain rfl := Option.some.inj (hm.symm.trans hm')
        exact Or.inr (Or.inl hle)
      · exact Or.inr (Or.inr (Or.inr hwait))

theorem Attributed.record (h : Attributed s) {entry : InstalledPluginEntry} {rest : List InstalledPluginEntry}
    (hwaiting : ∀ m ∈ s.messages.find? entry.pluginId,
      s.clock ≤ m.firstReceivedTime ∧ s.clock ≤ m.lastReceivedTime ∧ ∀ o ∈ m.origins, o = pid) :
    Attributed (s.record entry pid rest) := by
  have hcases : ∀ id r, (s.record entry pid rest).running.find? id = some r →
      r = ⟨entry, pid, s.clock, 0, .alive, []⟩ ∨ s.running.find? id = some r := by
    intro id r hr
    rw [State.record, OrdMap.find?_insert] at hr
    split_ifs at hr
    · exact Or.inl (Option.some.inj hr).symm
    · exact Or.inr hr
  refine ⟨h.clock, h.heardLe, h.receivingLe, h.notedLe, fun id r hr => ?_, fun id r hr => ?_, fun id r m hr hm => ?_,
    fun id r x hr hx => ?_⟩
  · rcases hcases id r hr with rfl | hr
    · exact le_rfl
    · exact h.startLe id r hr
  · rcases hcases id r hr with rfl | hr
    · exact ⟨Or.inl rfl, fun o ho => absurd ho List.not_mem_nil⟩
    · exact h.credited id r hr
  · rcases hcases id r hr with rfl | hr
    · obtain ⟨hfirst, hlast, horigins⟩ := hwaiting m hm
      exact ⟨hfirst, hlast, Nat.zero_le _, horigins⟩
    · exact h.noted id r m hr hm
  · rcases hcases id r hr with rfl | hr
    · exact Or.inl (h.heardLe _ _ hx)
    · exact h.heard id r x hr hx

section
variable [DecidableEq τ]

theorem Attributed.receive (h : Attributed s) {t : τ} {sourceId : Nat} {origin : Pid} (ht : s.receiving t = none)
    (hsends : ∀ e ∈ s.running.entries, e.2.data.pid = origin → e.2.entry.pluginId = sourceId) :
    Attributed { s with
      receiving := Function.update s.receiving t (some ⟨sourceId, s.clock, origin⟩)
      heard := Function.update s.heard origin (some s.clock) } := by
  refine ⟨h.clock, fun p x hx => ?_, fun t' w hw => ?_, h.notedLe, h.startLe, h.credited, h.noted,
    fun id r x hr hx => ?_⟩
  · dsimp only at hx ⊢
    rcases eq_or_ne p origin with rfl | hne
    · rw [Function.update_self] at hx
      exact (Option.some.inj hx).ge
    · rw [Function.update_of_ne hne] at hx
      exact h.heardLe p x hx
  · dsimp only at hw ⊢
    rcases eq_or_ne t' t with rfl | hne
    · rw [Function.update_self] at hw
      exact Option.some.inj hw ▸ le_rfl
    · rw [Function.update_of_ne hne] at hw
      exact h.receivingLe t' w hw
  · dsimp only at hx
    rcases eq_or_ne r.data.pid origin with hpid | hne
    · rw [hpid, Function.update_self] at hx
      have hplugin := hsends (id, r) (OrdMap.mem_entries.2 hr) hpid
      exact Or.inr (Or.inr (Or.inr ⟨t, _, Function.update_self .., hplugin.symm, (Option.some.inj hx).ge⟩))
    · rw [Function.update_of_ne hne] at hx
      rcases h.heard id r x hr hx with hstart | hlast | hnoted | ⟨t', w, hw, hsource, hle⟩
      · exact Or.inl hstart
      · exact Or.inr (Or.inl hlast)
      · exact Or.inr (Or.inr (Or.inl hnoted))
      · have hne' : t' ≠ t := by
          rintro rfl
          rw [ht] at hw
          nomatch hw
        exact Or.inr (Or.inr (Or.inr ⟨t', w, (Function.update_of_ne hne' ..).trans hw, hsource, hle⟩))

end

theorem find?_noteMessage_self (messages : OrdMap Nat MessageData) (w : Receiving) :
    ∃ m, (noteMessage messages w).find? w.sourceId = some m ∧ m.lastReceivedTime = w.rxTime ∧
      ((messages.find? w.sourceId = none ∧ m.firstReceivedTime = w.rxTime ∧ m.origins = [w.origin]) ∨
        ∃ m', messages.find? w.sourceId = some m' ∧ m.firstReceivedTime = m'.firstReceivedTime ∧
          m.origins = w.origin :: m'.origins) := by
  unfold noteMessage
  split
  · rename_i hnone
    exact ⟨_, OrdMap.find?_insert_self, rfl, Or.inl ⟨hnone, rfl, rfl⟩⟩
  · rename_i m' hsome
    exact ⟨_, OrdMap.find?_insert_self, rfl, Or.inr ⟨m', hsome, rfl, rfl⟩⟩

theorem find?_noteMessage_of_ne (messages : OrdMap Nat MessageData) {w : Receiving} {k : Nat} (h : k ≠ w.sourceId) :
    (noteMessage messages w).find? k = messages.find? k := by
  unfold noteMessage
  split <;> exact OrdMap.find?_insert_ne h

section
variable [DecidableEq τ]

theorem Attributed.store (h : Attributed s) {t : τ} {w : Receiving} (ht : s.receiving t = some w)
    (horder : ∀ e ∈ s.running.entries, e.2.entry.pluginId = w.sourceId →
      e.2.data.pid = w.origin ∧ e.2.data.startTime ≤ w.rxTime ∧ e.2.data.lastReceivedTime ≤ w.rxTime ∧
      ∀ m ∈ s.messages.find? w.sourceId, m.lastReceivedTime ≤ w.rxTime) :
    Attributed { s with
      messages := noteMessage s.messages w, receiving := Function.update s.receiving t none } := by
  have hw : w.rxTime ≤ s.clock := h.receivingLe t w ht
  obtain ⟨m₀, hm₀, hlast₀, hm₀'⟩ := find?_noteMessage_self s.messages w
  refine ⟨h.clock, h.heardLe, fun t' w' hw' => ?_, fun k m hm => ?_, h.startLe, h.credited,
    fun id r m hr hm => ?_, fun id r x hr hx => ?_⟩
  · dsimp only at hw' ⊢
    rcases eq_or_ne t' t with rfl | hne
    · rw [Function.update_self] at hw'
      nomatch hw'
    · rw [Function.update_of_ne hne] at hw'
      exact h.receivingLe t' w' hw'
  · dsimp only at hm ⊢
    rcases eq_or_ne k w.sourceId with rfl | hne
    · obtain rfl := Option.some.inj (hm₀.symm.trans hm)
      rcases hm₀' with ⟨-, hfirst, horigins⟩ | ⟨m', hm', hfirst, horigins⟩
      · exact ⟨hfirst ▸ hw, hlast₀ ▸ hw, horigins ▸ List.cons_ne_nil _ _⟩
      · exact ⟨hfirst ▸ (h.notedLe _ m' hm').1, hlast₀ ▸ hw, horigins ▸ List.cons_ne_nil _ _⟩
    · rw [find?_noteMessage_of_ne _ hne] at hm
      exact h.notedLe k m hm
  · dsimp only at hm
    rcases eq_or_ne r.entry.pluginId w.sourceId with heq | hne
    · obtain ⟨hpid, hstart, hlast, -⟩ := horder (id, r) (OrdMap.mem_entries.2 hr) heq
      rw [heq] at hm
      obtain rfl := Option.some.inj (hm₀.symm.trans hm)
      rw [hlast₀]
      rcases hm₀' with ⟨-, hfirst, horigins⟩ | ⟨m', hm', hfirst, horigins⟩
      · rw [hfirst, horigins]
        exact ⟨hstart, hstart, hlast, fun o ho => (List.mem_singleton.1 ho).trans hpid.symm⟩
      · obtain ⟨hstart', -, -, horigins'⟩ := h.noted id r m' hr (heq ▸ hm')
        rw [hfirst, horigins]
        refine ⟨hstart', hstart, hlast, fun o ho => ?_⟩
        rcases List.mem_cons.1 ho with rfl | ho
        · exact hpid.symm
        · exact horigins' o ho
    · rw [find?_noteMessage_of_ne _ hne] at hm
      exact h.noted id r m hr hm
  · rcases h.heard id r x hr hx with hstart | hlast | ⟨m, hm, hle⟩ | ⟨t', w', hw', hsource, hle⟩
    · exact Or.inl hstart
    · exact Or.inr (Or.inl hlast)
    · rcases eq_or_ne r.entry.pluginId w.sourceId with heq | hne
      · have hm' := (horder (id, r) (OrdMap.mem_entries.2 hr) heq).2.2.2 m (heq ▸ hm)
        exact Or.inr (Or.inr (Or.inl ⟨m₀, heq ▸ hm₀, hlast₀ ▸ hle.trans hm'⟩))
      · exact Or.inr (Or.inr (Or.inl ⟨m, (find?_noteMessage_of_ne _ hne).trans hm, hle⟩))
    · rcases eq_or_ne t' t with rfl | hne
      · obtain rfl := Option.some.inj (ht.symm.trans hw')
        exact Or.inr (Or.inr (Or.inl ⟨m₀, hsource ▸ hm₀, hlast₀ ▸ hle⟩))
      · exact Or.inr (Or.inr (Or.inr ⟨t', w', (Function.update_of_ne hne ..).trans hw', hsource, hle⟩))

theorem Attributed.step (h : Attributed s) (he : Escalates s) {e : Event τ} (horder : s.InOrder e)
    (hs : s.step e = some s') : Attributed s' := by
  -- what the steps keep that change the phase only
  have hsame : ∀ id r', s.running.find? id = some r' → ∃ r killStatus, s.running.find? id = some r ∧
      r' = { r with data := { r.data with killStatus := killStatus } } := fun id r' hr' => ⟨r', _, hr', rfl⟩
  cases State.steps_of_step hs with
  | receiveCore => exact h
  | tick hle hlt => exact h.tick hle hlt
  | die => exact ⟨h.clock, h.heardLe, h.receivingLe, h.notedLe, h.startLe, h.credited, h.noted, h.heard⟩
  | receive ht => exact h.receive ht horder
  | @store t w ht => exact h.store ht (horder w ht)
  | collect => exact h.collect he
  | queryFailed | query | startDone | startNext | execute | setStatus => exact h.frame hsame rfl rfl rfl rfl
  | reap => exact h.frame (fun id r' hr' => hsame id r' (mem_reap.1 hr').1) rfl rfl rfl rfl
  | check =>
    refine h.frame (fun id r' hr' => ?_) rfl rfl rfl rfl
    rw [State.check, OrdMap.find?_map] at hr'
    obtain ⟨r, hr, rfl⟩ := Option.map_eq_some_iff.1 hr'
    exact ⟨r, _, hr, rfl⟩
  | @record entry pid rest hphase =>
    rw [State.InOrder, hphase] at horder
    exact h.record horder

end

/-! ### The silence of a process -/

theorem watched_of_killIt {enabled : OrdMap Nat InstalledPluginEntry} {enabledPlugin : InstalledPluginEntry}
    {maxStartupTime currentTime : Nat} (henabled : enabled.find? r.entry.id = some enabledPlugin)
    (h : killIt enabled maxStartupTime currentTime r) :
    r.Watched ∧ (r.silentFrom + r.limit enabledPlugin maxStartupTime) % uint64 ≤ currentTime := by
  unfold killIt at h
  rw [henabled] at h
  dsimp only at h
  rw [Running.Watched, Running.silentFrom, Running.limit]
  split_ifs at h ⊢ with hlast
  · exact ⟨Or.inl hlast, of_decide_eq_true h⟩
  · obtain ⟨hmax, htime⟩ := Bool.and_eq_true_iff.1 h
    exact ⟨Or.inr (of_decide_eq_true hmax), Nat.add_comm .. ▸ of_decide_eq_true htime⟩

theorem killIt_of_SIGTERM {enabled : OrdMap Nat InstalledPluginEntry} {maxStartupTime currentTime : Nat}
    (h : (nextKill enabled maxStartupTime currentTime r).2 = some .SIGTERM) :
    r.data.killStatus = .alive ∧ killIt enabled maxStartupTime currentTime r := by
  unfold nextKill at h
  cases hst : r.data.killStatus with
  | alive =>
    rw [hst] at h
    dsimp only at h
    split_ifs at h with hkill
    exact ⟨rfl, hkill⟩
  | sigTermSent | sigIntSent | sigKillSent =>
    rw [hst] at h
    nomatch h

theorem Attributed.le_silentFrom (h : Attributed s) (hr : s.running.find? id = some r) :
    r.data.startTime ≤ r.silentFrom ∧ r.data.lastReceivedTime ≤ r.silentFrom := by
  rw [Running.silentFrom]
  split_ifs with hlast
  · exact ⟨le_rfl, hlast ▸ Nat.zero_le _⟩
  · exact ⟨(h.credited id r hr).1.resolve_left hlast, le_rfl⟩

theorem Attributed.fair (h : Attributed s) {e : Event τ} (horder : s.InOrder e) : s.Fair e := by
  cases e with
  | collect =>
    intro sourceId m id r hm hrunning
    obtain ⟨hr, rfl⟩ := mem_of_runningOf hrunning
    obtain ⟨hfirst, -, -, horigins⟩ := h.noted id r m hr hm
    refine ⟨horigins, fun _ => ?_⟩
    have hclock := h.clock
    have hle := (h.notedLe _ m hm).1
    have hstart := h.startLe id r hr
    rw [startupTime, show m.firstReceivedTime + (uint64 - r.data.startTime) =
      (m.firstReceivedTime - r.data.startTime) + uint64 by omega, Nat.add_mod_right, Nat.mod_eq_of_lt (by omega)]
    omega
  | check =>
    intro enabled maxStartupTime id r enabledPlugin hphase hr henabled hterm
    rw [State.InOrder, hphase] at horder
    obtain ⟨halive, hkill⟩ := killIt_of_SIGTERM hterm
    obtain ⟨hwatched, htime⟩ := watched_of_killIt henabled hkill
    have hlimits := horder (id, r) (OrdMap.mem_entries.2 hr) halive hwatched _ henabled
    dsimp only at hlimits
    obtain ⟨hlimit, hwrap, hquiet⟩ := hlimits
    rw [Nat.mod_eq_of_lt hwrap] at htime
    obtain ⟨hnoted, hreceiving⟩ := hquiet htime
    obtain ⟨hstart, hlast⟩ := h.le_silentFrom hr
    refine ⟨hlimit, by omega, fun x hx => ?_⟩
    rcases h.heard id r x hr hx with hle | hle | ⟨m, hm, hle⟩ | ⟨t, w, hw, hsource, hle⟩
    · omega
    · omega
    · have := hnoted m hm
      omega
    · have := hreceiving t w hw hsource
      omega
  | _ => trivial

/-- In every run whose steps are in order, every step is fair, what an entry last received is from after its
start, and only messages of its own process were credited to it. -/
theorem liveness (τ : Type*) [DecidableEq τ] (es : List (Event τ)) (s : State τ)
    (hes : (machine τ).exec (machine τ).init es = some s)
    (horder : (machine τ).Meets State.InOrder (machine τ).init es) :
    (machine τ).Meets State.Fair (machine τ).init es ∧ ∀ id r, s.running.find? id = some r →
      (r.data.lastReceivedTime = 0 ∨ r.data.startTime ≤ r.data.lastReceivedTime) ∧
      ∀ o ∈ r.data.credited, o = r.data.pid := by
  have hinit : Attributed (machine τ).init ∧ Escalates (machine τ).init := ⟨attributed_init, escalates_init⟩
  have hstep : ∀ s e s', Attributed s ∧ Escalates s → s.InOrder e → (machine τ).step s e = some s' →
      Attributed s' ∧ Escalates s' := fun _ _ _ h horder hs => ⟨h.1.step h.2 horder hs, h.2.step hs⟩
  have h := Machine.invariant_meets (I := fun s => Attributed s ∧ Escalates s) hinit hstep horder hes
  exact ⟨horder.of_invariant hinit hstep fun _ _ h horder => h.1.fair horder, h.1.credited⟩

section
variable [Fintype τ]

instance (s : State τ) (pluginId limit : Nat) : Decidable (s.Quiet pluginId limit) :=
  inferInstanceAs (Decidable ((∀ m ∈ s.messages.find? pluginId, m.lastReceivedTime + limit ≤ s.clock) ∧
    ∀ t, ∀ w ∈ s.receiving t, w.sourceId = pluginId → w.rxTime + limit ≤ s.clock))

instance (s : State τ) (e : Event τ) : Decidable (s.InOrder e) := by
  unfold State.InOrder
  split
  · infer_instance
  · infer_instance
  · split <;> infer_instance
  · split <;> infer_instance
  · infer_instance

end

/-- A plugin is started, sends a message, falls silent and is signalled. -/
def silentEvents : List (Event Unit) :=
  [.tick 1000, .collect, .query (some [⟨1, 1, CString.lit "p", CString.lit "e", 500⟩]) 0, .reap, .check,
    .start (some 7), .record, .start none, .setStatus true, .tick 2000, .receive () 1 7, .store (), .collect,
    .query (some [⟨1, 1, CString.lit "p", CString.lit "e", 500⟩]) 0, .reap, .tick 2500, .check]

theorem liveness_silent : ∃ s, (machine Unit).exec (machine Unit).init silentEvents = some s ∧
    sentTo s.sent 7 = [⟨7, .SIGTERM, 2, 1⟩] ∧ (machine Unit).Meets State.Fair (machine Unit).init silentEvents :=
  ⟨_, rfl, by decide, (liveness Unit silentEvents _ rfl (by decide)).1⟩

/-- The process dies between the collection and the removal of the dead entries, its last message being
noted in between: the message is credited to the process that is started in its place. -/
def restartEvents : List (Event Unit) :=
  [.tick 1000, .collect, .query (some [⟨1, 1, CString.lit "p", CString.lit "e", 500⟩]) 0, .reap, .check,
    .start (some 7), .record, .start none, .setStatus true, .tick 2000, .collect, .receive () 1 7, .store (), .die 7,
    .query (some [⟨1, 1, CString.lit "p", CString.lit "e", 500⟩]) 0, .reap, .check, .tick 2001, .start (some 8),
    .record, .start none, .setStatus true, .collect]

theorem credited_to_successor : ¬ ∀ (es : List (Event Unit)) (s : State Unit),
    (machine Unit).exec (machine Unit).init es = some s → ∀ id r, s.running.find? id = some r →
      (r.data.lastReceivedTime = 0 ∨ r.data.startTime ≤ r.data.lastReceivedTime) ∧
      ∀ o ∈ r.data.credited, o = r.data.pid := by
  intro h
  obtain ⟨s, hs, hr⟩ : ∃ s, (machine Unit).exec (machine Unit).init restartEvents = some s ∧
      (s.running.find? 1).map Running.data = some ⟨8, 2001, 2000, .alive, [7]⟩ := ⟨_, rfl, by decide⟩
  obtain ⟨r, hr, hdata⟩ := Option.map_eq_some_iff.1 hr
  obtain ⟨hlast, -⟩ := h restartEvents s hs 1 r hr
  rw [hdata] at hlast
  exact absurd hlast (by decide)

end V2xHub.PluginMonitor
