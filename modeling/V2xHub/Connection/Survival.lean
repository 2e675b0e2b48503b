import V2xHub.ApiMessages.Subscribe
import V2xHub.Connection.Harmless
import V2xHub.Connection.Queues
import V2xHub.Lib.Machine

/-!
# What a client can do to the core

Both processor threads of a connection over everything that a client sends, with the thread that reloads
the configuration and with the message types that other connections make known. The core stays alive exactly
as long as every step meets `Core.Harmless`, and then no message is lost (`no_fault_iff`).
-/

namespace V2xHub.PluginConnection

/-- What a handler comes to: its end, or a round of the loop of `processConfigMessage`. -/
inductive Progress where
  | done (shared : Shared) (outcome : Outcome)
  | loop (loop : ConfigLoop)

/-- The rounds that a loop still has, with what follows it. -/
def ConfigLoop.rounds (loop : ConfigLoop) : Nat := loop.arraySize - loop.index + 1

namespace Progress

/-- A loop is at the message, on the fast thread. -/
def At (w : Which) (msg : IvpMessage) : Progress → Prop
  | done _ _ => True
  | loop l => w = .fast ∧ l.msg = msg

def rounds : Progress → Nat
  | done _ _ => 0
  | loop l => l.rounds

end Progress

/-- The branches of `fastProcessorThread` and `slowProcessorThread`. -/
def process (w : Which) (s : Shared) (world : World) (msg : IvpMessage) : Except Fault Progress :=
  match w with
  | .fast =>
    if msg.isRegistrationMsg then (processRegistrationMessage s world msg).map fun r => .done r.1 r.2
    else if msg.isSubscribeMsg then (processSubscribeMessage s world).map fun r => .done r.1 r.2
    else if msg.isConfigMsg then (beginConfig world msg).map .loop
    else (routeMessage s world msg).map fun r => .done r.1 r.2
  | .slow =>
    if msg.isStatusMsg then (processStatusMessage s world msg).map fun r => .done r.1 r.2
    else if msg.isEventLogMsg then (processEventLogMessage s world msg).map fun r => .done r.1 r.2
    else .ok (.done s .ignored)

def continueConfig (s : Shared) (world : World) (loop : ConfigLoop) : Except Fault Progress :=
  if loop.index < loop.arraySize then (configItem s.client loop).map .loop
  else (endConfig world).map (.done s)

/-- `configMonitorThreadEntry`, with the rows that it finds in the database. -/
def Client.monitorConfig (c : Client) (rows : List PluginConfigurationParameterEntry) : Client :=
  if c.registered then
    { c with
      configValues := (c.configValues.map fun entry =>
          match rows.find? (·.key = entry.key) with
          | some row => if row.value ≠ entry.value then row else entry
          | none => entry) ++
        rows.filter fun row => !c.hasConfigValue row.key }
  else c

/-- A connection in the core. The raw messages that could not be parsed, and the messages with what became of
them, are kept for the statements. -/
structure Core where
  shared : Shared
  queue : Which → List IvpMessage
  loop : Option ConfigLoop
  fault : Option Fault
  refused : List Str
  done : Which → List (IvpMessage × Outcome)

/-- The client sends a message, a processor does its next step, the configuration is reloaded, or a message of
another connection makes a type known to the profiler. -/
inductive CoreEvent where
  | receive (rawMessage : Str)
  | processor (w : Which) (world : World)
  | configMonitor (rows : List PluginConfigurationParameterEntry)
  | profiled (entry : MessageTypeEntry)

namespace Core

/-- The loop that the thread is in. -/
def current (s : Core) (w : Which) : Option ConfigLoop :=
  match w with
  | .fast => s.loop
  | .slow => none

theorem eq_fast {s : Core} {w : Which} {loop : ConfigLoop} (h : s.current w = some loop) : w = .fast := by
  cases w with
  | fast => rfl
  | slow => nomatch h

/-- The state after a handler has come to its end, has done one round or has been left by an exception. -/
def proceed (s : Core) (w : Which) (msg : IvpMessage) (result : Except Fault Progress) : Core :=
  match result with
  | .error fault => { s with fault := some fault }
  | .ok (.loop loop) => { s with loop := some loop }
  | .ok (.done shared outcome) =>
    { s with
      shared := shared
      loop := match w with
        | .fast => none
        | .slow => s.loop
      done := Function.update s.done w (s.done w ++ [(msg, outcome)]) }

/-- A core that has failed does nothing any more. -/
def step (libc : Libc) (s : Core) (e : CoreEvent) : Option Core :=
  if s.fault.isSome then none
  else
    match e with
    | .receive rawMessage =>
      match IvpMessage.parse libc rawMessage with
      | some msg => some { s with queue := Function.update s.queue (route msg) (s.queue (route msg) ++ [msg]) }
      | none => some { s with refused := s.refused ++ [rawMessage] }
    | .processor w world =>
      match s.current w with
      | some loop => some (s.proceed w loop.msg (continueConfig s.shared world loop))
      | none =>
        match s.queue w with
        | [] => none
        | msg :: rest =>
          some (proceed { s with queue := Function.update s.queue w rest } w msg (process w s.shared world msg))
    | .configMonitor rows => some { s with shared := { s.shared with client := s.shared.client.monitorConfig rows } }
    | .profiled entry =>
      if entry.id = 0 then none
      else some { s with shared := { s.shared with messageTypes := s.shared.messageTypes ++ [entry] } }

/-- All runs of a connection, from the types that the profiler knows already. -/
def machine (libc : Libc) (messageTypes : List MessageTypeEntry) : Machine Core CoreEvent where
  init := ⟨⟨⟨false, [], 0, []⟩, messageTypes⟩, fun _ => [], none, none, [], fun _ => []⟩
  step := step libc

/-! ### The condition -/

/-- The message is not one of those that the handlers cannot take in this state. -/
def HarmlessMsg (w : Which) (s : Shared) (world : World) (msg : IvpMessage) : Prop :=
  match w with
  | .fast =>
    if msg.isRegistrationMsg then msg.payload.isSome = true
    else if msg.isSubscribeMsg then True
    else if msg.isConfigMsg then (∀ p ∈ msg.payload, p.isArray) ∧ world.configContext
    else s.client.registered → Profiled s world msg
  | .slow =>
    if msg.isStatusMsg then
      ∃ items, Collection.getItems IvpPluginStatus.readItem msg.payload = some items ∧
        ∀ item ∈ items, item.value.isSome ∨ item.key.isSome
    else if msg.isEventLogMsg then
      (∃ p ∈ msg.payload, (p.tryGetStr IvpEventLog.descriptionField).getD [] ≠ []) ∧ s.client.registered
    else True

/-- The next round of the loop, or what follows the loop. -/
def HarmlessRound (s : Shared) (world : World) (loop : ConfigLoop) : Prop :=
  if loop.index < loop.arraySize then
    ∃ item, IvpConfig.getItem loop.msg.payload loop.index = some item ∧ ItemFits s.client loop.msg.source item
  else world.initializePluginConfigParameters

def Harmless (s : Core) : CoreEvent → Prop
  | .processor w world =>
    match s.current w with
    | some loop => HarmlessRound s.shared world loop
    | none => ∀ msg ∈ (s.queue w).head?, HarmlessMsg w s.shared world msg
  | _ => True

variable {libc : Libc} {messageTypes : List MessageTypeEntry} {s t : Core} {e : CoreEvent} {es : List CoreEvent}
  {w : Which} {world : World} {msg : IvpMessage} {sh : Shared} {loop : ConfigLoop}

theorem succeeds_process : Succeeds (process w sh world msg) ↔ HarmlessMsg w sh world msg := by
  cases w with
  | fast =>
    simp only [process, HarmlessMsg]
    split_ifs with hreg hsub hconfig
    · rw [succeeds_map, succeeds_processRegistrationMessage hreg]
    · exact iff_of_true (succeeds_map.2 succeeds_processSubscribeMessage) trivial
    · rw [succeeds_map, succeeds_beginConfig]
    · rw [succeeds_map, succeeds_routeMessage]
  | slow =>
    simp only [process, HarmlessMsg]
    split_ifs with hstatus hevent
    · rw [succeeds_map, succeeds_processStatusMessage]
    · rw [succeeds_map, succeeds_processEventLogMessage hevent]
    · exact iff_of_true succeeds_ok trivial

theorem succeeds_continueConfig : Succeeds (continueConfig sh world loop) ↔ HarmlessRound sh world loop := by
  rw [continueConfig, HarmlessRound]
  split_ifs
  · rw [succeeds_map, succeeds_configItem]
  · rw [succeeds_map, succeeds_endConfig]

theorem proceed_fault {result : Except Fault Progress} (h : s.fault = none) :
    (s.proceed w msg result).fault = none ↔ Succeeds result := by
  match result with
  | .error fault => exact iff_of_false (fun h => nomatch h) not_succeeds_error
  | .ok (.loop loop) => exact iff_of_true h succeeds_ok
  | .ok (.done shared outcome) => exact iff_of_true h succeeds_ok

/-- What a step is, of a core that has not failed. -/
inductive Stepped (libc : Libc) (s : Core) : CoreEvent → Core → Prop
  | parsed {rawMessage : Str} {msg : IvpMessage} : IvpMessage.parse libc rawMessage = some msg →
    Stepped libc s (.receive rawMessage)
      { s with queue := Function.update s.queue (route msg) (s.queue (route msg) ++ [msg]) }
  | refused {rawMessage : Str} : IvpMessage.parse libc rawMessage = none →
    Stepped libc s (.receive rawMessage) { s with refused := s.refused ++ [rawMessage] }
  | round {w : Which} {world : World} {loop : ConfigLoop} : s.current w = some loop →
    Stepped libc s (.processor w world) (s.proceed w loop.msg (continueConfig s.shared world loop))
  | take {w : Which} {world : World} {msg : IvpMessage} {rest : List IvpMessage} : s.current w = none →
    s.queue w = msg :: rest →
    Stepped libc s (.processor w world)
      (proceed { s with queue := Function.update s.queue w rest } w msg (process w s.shared world msg))
  | configMonitor {rows : List PluginConfigurationParameterEntry} :
    Stepped libc s (.configMonitor rows)
      { s with shared := { s.shared with client := s.shared.client.monitorConfig rows } }
  | profiled {entry : MessageTypeEntry} : entry.id ≠ 0 →
    Stepped libc s (.profiled entry)
      { s with shared := { s.shared with messageTypes := s.shared.messageTypes ++ [entry] } }

theorem stepped_of_step (h : s.step libc e = some t) : s.fault = none ∧ Stepped libc s e t := by
  unfold step at h
  split_ifs at h with hfault
  refine ⟨Option.not_isSome_iff_eq_none.1 hfault, ?_⟩
  cases e with
  | receive rawMessage =>
    dsimp only at h
    cases hparse : IvpMessage.parse libc rawMessage with
    | some msg =>
      rw [hparse] at h
      obtain rfl := Option.some.inj h
      exact .parsed hparse
    | none =>
      rw [hparse] at h
      obtain rfl := Option.some.inj h
      exact .refused hparse
  | processor w world =>
    dsimp only at h
    cases hcurrent : s.current w with
    | some loop =>
      rw [hcurrent] at h
      obtain rfl := Option.some.inj h
      exact .round hcurrent
    | none =>
      rw [hcurrent] at h
      dsimp only at h
      cases hqueue : s.queue w with
      | nil =>
        rw [hqueue] at h
        nomatch h
      | cons msg rest =>
        rw [hqueue] at h
        obtain rfl := Option.some.inj h
        exact .take hcurrent hqueue
  | configMonitor rows =>
    obtain rfl := Option.some.inj h
    exact .configMonitor
  | profiled entry =>
    dsimp only at h
    split_ifs at h with hid
    obtain rfl := Option.some.inj h
    exact .profiled hid

theorem fault_step (h : s.step libc e = some t) : t.fault = none ↔ s.Harmless e := by
  obtain ⟨hfault, hstep⟩ := stepped_of_step h
  cases hstep with
  | round hcurrent =>
    rw [proceed_fault hfault, succeeds_continueConfig, Harmless, hcurrent]
  | take hcurrent hqueue =>
    rw [proceed_fault (by exact hfault), succeeds_process, Harmless, hcurrent, hqueue]
    simp
  | _ => exact iff_of_true hfault trivial

/-! ### No message is lost -/

/-- The messages that the client has sent, and the raw messages that are none. -/
def messages (libc : Libc) (es : List CoreEvent) : List IvpMessage :=
  es.filterMap fun e =>
    match e with
    | .receive rawMessage => IvpMessage.parse libc rawMessage
    | _ => none

def unparsed (libc : Libc) (es : List CoreEvent) : List Str :=
  es.filterMap fun e =>
    match e with
    | .receive rawMessage => if (IvpMessage.parse libc rawMessage).isNone then some rawMessage else none
    | _ => none

/-- The message that the thread is at. -/
def inHand (s : Core) (w : Which) : List IvpMessage := ((s.current w).map ConfigLoop.msg).toList

/-- Every message that was sent: handled, in hand or on its queue. -/
def account (s : Core) (w : Which) : List IvpMessage := (s.done w).map Prod.fst ++ s.inHand w ++ s.queue w

/-- The steps that a message takes on its thread. -/
def steps (w : Which) (msg : IvpMessage) : Nat :=
  match w with
  | .fast =>
    if !msg.isRegistrationMsg && !msg.isSubscribeMsg && msg.isConfigMsg then
      (IvpConfig.getItemCount msg.payload).getD 0 + 2
    else 1
  | .slow => 1

/-- The steps that the thread is away from having nothing to do. -/
def work (s : Core) (w : Which) : Nat := (s.current w).elim 0 ConfigLoop.rounds + ((s.queue w).map (steps w)).sum

theorem configItem_ok {c : Client} {loop' : ConfigLoop} (h : configItem c loop = .ok loop') :
    loop'.msg = loop.msg ∧ loop'.arraySize = loop.arraySize ∧ loop'.index = loop.index + 1 := by
  simp only [configItem, bind_eq_ok] at h
  obtain ⟨item, -, key, -, value, -, h⟩ := h
  cases hsource : loop.msg.source with
  | none =>
    rw [hsource] at h
    cases h
  | some source =>
    rw [hsource] at h
    dsimp only at h
    split_ifs at h
    · obtain ⟨defaultValue, -, h⟩ := bind_eq_ok.1 h
      obtain rfl := Except.ok.inj h
      exact ⟨rfl, rfl, rfl⟩
    · cases hset : c.setConfigValue key with
      | none =>
        rw [hset] at h
        obtain rfl := Except.ok.inj h
        exact ⟨rfl, rfl, rfl⟩
      | some e =>
        rw [hset] at h
        cases h

theorem beginConfig_ok (h : beginConfig world msg = .ok loop) :
    loop.msg = msg ∧ IvpConfig.getItemCount msg.payload = some loop.arraySize ∧ loop.index = 0 := by
  simp only [beginConfig, bind_eq_ok, assertSome_eq_ok] at h
  obtain ⟨arraySize, hcount, h⟩ := h
  split_ifs at h
  obtain rfl := Except.ok.inj h
  exact ⟨rfl, hcount, rfl⟩

theorem process_ok {p : Progress} (h : process w sh world msg = .ok p) : p.At w msg ∧ p.rounds + 1 = steps w msg := by
  cases w with
  | fast =>
    simp only [process] at h
    simp only [steps]
    split_ifs at h with hreg hsub hconfig
    · obtain ⟨r, -, rfl⟩ := map_eq_ok.1 h
      exact ⟨trivial, by simp [hreg, Progress.rounds]⟩
    · obtain ⟨r, -, rfl⟩ := map_eq_ok.1 h
      exact ⟨trivial, by simp [hsub, Progress.rounds]⟩
    · obtain ⟨loop, hloop, rfl⟩ := map_eq_ok.1 h
      obtain ⟨hmsg, hcount, hindex⟩ := beginConfig_ok hloop
      exact ⟨⟨rfl, hmsg⟩, by simp [hreg, hsub, hconfig, Progress.rounds, ConfigLoop.rounds, hcount, hindex]⟩
    · obtain ⟨r, -, rfl⟩ := map_eq_ok.1 h
      exact ⟨trivial, by simp [hconfig, Progress.rounds]⟩
  | slow =>
    simp only [process] at h
    split_ifs at h with hstatus hevent
    · obtain ⟨r, -, rfl⟩ := map_eq_ok.1 h
      exact ⟨trivial, rfl⟩
    · obtain ⟨r, -, rfl⟩ := map_eq_ok.1 h
      exact ⟨trivial, rfl⟩
    · obtain rfl := Except.ok.inj h
      exact ⟨trivial, rfl⟩

theorem continueConfig_ok {p : Progress} (h : continueConfig sh world loop = .ok p) :
    p.At .fast loop.msg ∧ p.rounds + 1 = loop.rounds := by
  rw [continueConfig] at h
  split_ifs at h with hindex
  · obtain ⟨loop', hloop, rfl⟩ := map_eq_ok.1 h
    obtain ⟨hmsg, hsize, hnext⟩ := configItem_ok hloop
    refine ⟨⟨rfl, hmsg⟩, ?_⟩
    simp only [Progress.rounds, ConfigLoop.rounds]
    omega
  · obtain ⟨outcome, -, rfl⟩ := map_eq_ok.1 h
    refine ⟨trivial, ?_⟩
    simp only [Progress.rounds, ConfigLoop.rounds]
    omega

theorem account_proceed {p : Progress} (h : p.At w msg) (w' : Which) :
    (s.proceed w msg (.ok p)).account w' =
      if w' = w then (s.done w).map Prod.fst ++ msg :: s.queue w else s.account w' := by
  cases p with
  | done shared outcome =>
    cases w <;> cases w' <;> simp [proceed, account, inHand, current]
  | loop l =>
    obtain ⟨rfl, rfl⟩ := h
    cases w' <;> simp [proceed, account, inHand, current]

theorem work_proceed {p : Progress} (h : p.At w msg) :
    (s.proceed w msg (.ok p)).work w = p.rounds + ((s.queue w).map (steps w)).sum := by
  cases p with
  | done shared outcome => cases w <;> rfl
  | loop l =>
    obtain ⟨rfl, rfl⟩ := h
    rfl

theorem succeeds_of_fault {result : Except Fault Progress} (h : (s.proceed w msg result).fault = none) :
    ∃ p, result = .ok p := by
  cases result with
  | error fault => nomatch h
  | ok p => exact ⟨p, rfl⟩

theorem account_step (h : s.step libc e = some t) (ht : t.fault = none) (w : Which) :
    t.account w = s.account w ++ (messages libc [e]).filter (route · = w) := by
  obtain ⟨-, hstep⟩ := stepped_of_step h
  cases hstep with
  | @parsed rawMessage msg hparse =>
    have hmessages : messages libc [.receive rawMessage] = [msg] := by simp [messages, hparse]
    rw [hmessages]
    by_cases hw : route msg = w
    · subst hw
      simp [account, inHand, current, Function.update_self]
    · simp [account, inHand, current, Function.update_of_ne (Ne.symm hw), hw]
  | @refused rawMessage hparse =>
    have hmessages : messages libc [.receive rawMessage] = [] := by simp [messages, hparse]
    rw [hmessages, List.filter_nil, List.append_nil]
    rfl
  | @round w₁ world loop hcurrent =>
    obtain ⟨p, hp⟩ := succeeds_of_fault ht
    obtain ⟨hat, -⟩ := continueConfig_ok hp
    obtain rfl := eq_fast hcurrent
    rw [hp, account_proceed hat]
    split_ifs with hw
    · subst hw
      simp [account, inHand, hcurrent, messages]
    · simp [messages]
  | @take w₁ world msg rest hcurrent hqueue =>
    obtain ⟨p, hp⟩ := succeeds_of_fault ht
    obtain ⟨hat, -⟩ := process_ok hp
    rw [hp, account_proceed hat]
    split_ifs with hw
    · subst hw
      simp [account, inHand, hcurrent, hqueue, messages]
    · simp [account, inHand, current, messages, Function.update_of_ne hw]
  | configMonitor => exact (List.append_nil _).symm
  | profiled => exact (List.append_nil _).symm

theorem proceed_refused {result : Except Fault Progress} : (s.proceed w msg result).refused = s.refused := by
  match result with
  | .error fault => rfl
  | .ok (.loop loop) => rfl
  | .ok (.done shared outcome) => rfl

theorem refused_step (h : s.step libc e = some t) : t.refused = s.refused ++ unparsed libc [e] := by
  obtain ⟨-, hstep⟩ := stepped_of_step h
  cases hstep with
  | parsed hparse => simp [unparsed, hparse]
  | refused hparse => simp [unparsed, hparse]
  | round => exact proceed_refused.trans (List.append_nil _).symm
  | take => exact proceed_refused.trans (List.append_nil _).symm
  | configMonitor => exact (List.append_nil _).symm
  | profiled => exact (List.append_nil _).symm

/-- Each step of a thread brings it closer to the end of its work. -/
theorem work_step (h : s.step libc (.processor w world) = some t) (ht : t.fault = none) : t.work w + 1 = s.work w := by
  obtain ⟨-, hstep⟩ := stepped_of_step h
  cases hstep with
  | @round _ _ loop hcurrent =>
    obtain ⟨p, hp⟩ := succeeds_of_fault ht
    obtain ⟨hat, hrounds⟩ := continueConfig_ok hp
    have hwork : s.work w = loop.rounds + ((s.queue w).map (steps w)).sum := by rw [work, hcurrent, Option.elim_some]
    obtain rfl := eq_fast hcurrent
    rw [hp, work_proceed hat, hwork, ← hrounds]
    omega
  | @take _ _ msg rest hcurrent hqueue =>
    obtain ⟨p, hp⟩ := succeeds_of_fault ht
    obtain ⟨hat, hrounds⟩ := process_ok hp
    have hwork : s.work w = steps w msg + (rest.map (steps w)).sum := by
      rw [work, hcurrent, hqueue, Option.elim_none, List.map_cons, List.sum_cons, Nat.zero_add]
    rw [hp, work_proceed hat, hwork, ← hrounds]
    simp only [Function.update_self]
    omega

/-- A thread with a message goes on. -/
theorem exists_step (hs : s.fault = none) (hmsg : s.inHand w ++ s.queue w ≠ []) :
    ∃ t, s.step libc (.processor w world) = some t := by
  unfold step
  rw [hs, if_neg (by decide)]
  dsimp only
  cases hcurrent : s.current w with
  | some loop => exact ⟨_, rfl⟩
  | none =>
    cases hqueue : s.queue w with
    | nil => simp [inHand, hcurrent, hqueue] at hmsg
    | cons msg rest => exact ⟨_, rfl⟩

theorem messages_append (es fs : List CoreEvent) : messages libc (es ++ fs) = messages libc es ++ messages libc fs :=
  List.filterMap_append

theorem unparsed_append (es fs : List CoreEvent) : unparsed libc (es ++ fs) = unparsed libc es ++ unparsed libc fs :=
  List.filterMap_append

theorem account_exec (h : (machine libc messageTypes).exec (machine libc messageTypes).init es = some s)
    (hs : s.fault = none) (w : Which) : s.account w = (messages libc es).filter (route · = w) := by
  refine Machine.invariant_trace (M := machine libc messageTypes)
    (I := fun es s => s.fault = none → s.account w = (messages libc es).filter (route · = w)) ?_ ?_ h hs
  · intro _
    cases w <;> rfl
  · intro es s e t hi hst ht
    rw [account_step hst ht, hi (stepped_of_step hst).1, messages_append, List.filter_append]

theorem refused_exec (h : (machine libc messageTypes).exec (machine libc messageTypes).init es = some s) :
    s.refused = unparsed libc es := by
  refine Machine.invariant_trace (M := machine libc messageTypes) (I := fun es s => s.refused = unparsed libc es) rfl ?_ h
  intro es s e t hi hst
  rw [refused_step hst, hi, unparsed_append]

/-- The core is alive behind a run if and only if every step of it is harmless. Then each message that a client
has sent is handled, in hand or on its queue, in order, what is not a message has been refused, and a thread
with a message goes on and comes to the end of its work. -/
theorem core_survives_iff (libc : Libc) (messageTypes : List MessageTypeEntry) (es : List CoreEvent) (s : Core)
    (h : (machine libc messageTypes).exec (machine libc messageTypes).init es = some s) :
    (s.fault = none ↔ (machine libc messageTypes).Meets Harmless (machine libc messageTypes).init es) ∧
    (s.fault = none →
      (∀ w, s.account w = (messages libc es).filter (route · = w)) ∧ s.refused = unparsed libc es ∧
      ∀ w world, s.inHand w ++ s.queue w ≠ [] →
        ∃ t, s.step libc (.processor w world) = some t ∧ (t.fault = none → t.work w + 1 = s.work w)) := by
  refine ⟨Machine.iff_meets (P := fun s => s.fault = none) rfl (fun s e t hst => fault_step hst)
    (fun s e t hst => (stepped_of_step hst).1) h, ?_⟩
  intro hs
  refine ⟨account_exec h hs, refused_exec h, fun w world hmsg => ?_⟩
  obtain ⟨t, ht⟩ := exists_step hs hmsg
  exact ⟨t, ht, work_step ht⟩

/-- Nothing fails in this world. -/
def quiet : World := ⟨0, 0, false, true, 1, [], true, true, true, true, true, some 1⟩

theorem step_receive {rawMessage : Str} (hs : s.fault = none) (h : IvpMessage.parse libc rawMessage = some msg) :
    s.step libc (.receive rawMessage) =
      some { s with queue := Function.update s.queue (route msg) (s.queue (route msg) ++ [msg]) } := by
  unfold step
  rw [hs, if_neg (by decide)]
  dsimp only
  rw [h]

theorem step_take (libc : Libc) (world : World) {rest : List IvpMessage} (hs : s.fault = none) (hcurrent : s.current w = none)
    (hqueue : s.queue w = msg :: rest) :
    s.step libc (.processor w world) =
      some (proceed { s with queue := Function.update s.queue w rest } w msg (process w s.shared world msg)) := by
  unfold step
  rw [hs, if_neg (by decide)]
  dsimp only
  rw [hcurrent]
  dsimp only
  rw [hqueue]

/-- The event log entry of a client that is not registered ends the core. -/
theorem fault_eventLog (libc : Libc) (messageTypes : List MessageTypeEntry) {rawMessage : Str} {entry : IvpEventLogEntry}
    (h : IvpMessage.parse libc rawMessage = some msg) (hstatus : ¬ msg.isStatusMsg) (hevent : msg.isEventLogMsg)
    (hentry : IvpEventLog.getEventLogEntry world.level msg = some entry) (hdescription : entry.description.getD [] ≠ []) :
    ∃ s, (machine libc messageTypes).exec (machine libc messageTypes).init
        [.receive rawMessage, .processor .slow world] = some s ∧
      s.fault = some (.exception .pluginNotRegistered) := by
  have hroute : route msg = .slow := by rw [route, hevent, Bool.or_true, if_pos rfl]
  have hprocess : process .slow (machine libc messageTypes).init.shared world msg =
      .error (.exception .pluginNotRegistered) := by
    simp only [process]
    rw [if_neg hstatus, if_pos hevent, processEventLogMessage, hentry]
    show (if entry.description.getD [] = [] then _ else _ : Except Fault (Shared × Outcome)).map _ = _
    rw [if_neg hdescription]
    rfl
  have hreceive := step_receive (s := (machine libc messageTypes).init) rfl h
  rw [hroute] at hreceive
  have htake := step_take libc world (w := .slow)
    (s := { (machine libc messageTypes).init with
      queue := Function.update (machine libc messageTypes).init.queue .slow ([] ++ [msg]) }) rfl rfl rfl
  rw [hprocess] at htake
  exact ⟨_, Machine.exec_cons.2 ⟨_, hreceive, Machine.exec_cons.2 ⟨_, htake, rfl⟩⟩, rfl⟩

/-- A client that is not registered subscribes. -/
def subscription : IvpMessage := IvpSubscribe.createMsg 0 none

theorem core_survives_iff_subscription :
    ∃ s, (machine Libc.rounding []).exec (machine Libc.rounding []).init
        [.receive (subscription.createJsonString false), .processor .fast quiet] = some s ∧
      (machine Libc.rounding []).Meets Harmless (machine Libc.rounding []).init
        [.receive (subscription.createJsonString false), .processor .fast quiet] ∧
      (s.done .fast).length = 1 := by
  have hparse : IvpMessage.parse Libc.rounding (subscription.createJsonString false) = some subscription.normal :=
    (IvpMessage.sendable_create (by decide) (by decide) (by decide) (by rintro p ⟨⟩)).parse_eq false
  have hexec : (machine Libc.rounding []).exec (machine Libc.rounding []).init
      [.receive (subscription.createJsonString false), .processor .fast quiet] = some _ :=
    Machine.exec_cons.2 ⟨_, step_receive (s := (machine Libc.rounding []).init) rfl hparse, rfl⟩
  exact ⟨_, hexec, (core_survives_iff _ _ _ _ hexec).1.1 rfl, rfl⟩

/-- The event log entry of a client that is not registered ends the core. -/
theorem eventLog_unregistered :
    ∃ msg s, IvpEventLog.createMsg 0 IvpLogLevel_info (some (CString.lit "started")) = some msg ∧
      (machine Libc.rounding []).exec (machine Libc.rounding []).init
        [.receive (msg.createJsonString false), .processor .slow quiet] = some s ∧
      s.fault = some (.exception .pluginNotRegistered) := by
  let entry : IvpEventLogEntry := ⟨IvpLogLevel_info, some (CString.lit "started")⟩
  have hcreate : IvpEventLog.createMsg 0 entry.level entry.description = some (IvpMessage.create 0
      (some IVPMSG_TYPE_APIRESV_EVENTLOG) none (some IVP_ENCODING_JSON) 0
      (some (.objectOf (IvpEventLog.payloadFields entry)))) := if_neg (by decide)
  have hsendable : (IvpMessage.create 0 (some IVPMSG_TYPE_APIRESV_EVENTLOG) none (some IVP_ENCODING_JSON) 0
      (some (.objectOf (IvpEventLog.payloadFields entry)))).Sendable := by
    refine IvpMessage.sendable_create (by decide) (by decide) (by decide) ?_
    rintro p ⟨⟩
    exact IvpEventLog.plain_payload (by decide)
  have hread := IvpEventLog.getEventLogEntry_createMsg quiet.level hcreate
  obtain ⟨s, hs, hfault⟩ := fault_eventLog Libc.rounding [] (hsendable.parse_eq false)
    (by decide) (by decide) hread (by decide)
  exact ⟨_, s, hcreate, hs, hfault⟩

end Core

end V2xHub.PluginConnection
