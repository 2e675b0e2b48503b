import V2xHub.Connection.Handlers
import V2xHub.Lib.Succeeds

/-!
# When a handler comes to its end

For each handler, the exact condition on the message and on the state under which nothing escapes it. A
registration needs a payload and nothing else (`succeeds_processRegistrationMessage`): what a valid manifest
lacks is never looked at, and whatever the registration throws is caught.
-/

namespace V2xHub.PluginConnection

variable {s : Shared} {w : World} {msg : IvpMessage} {c : Client}

@[simp] theorem assertSome_eq_ok {α : Type*} {o : Option α} {a : α} : assertSome o = .ok a ↔ o = some a := by
  cases o <;> simp [assertSome]

@[simp] theorem string_eq_ok {o : Option Str} {t : Str} : string o = .ok t ↔ o = some t := by
  cases o <;> simp [string]

theorem succeeds_tryCatch {α : Type*} {thrown : Option Exception} {normal caught : α} :
    Succeeds (tryCatch thrown normal caught) ↔ ∀ e ∈ thrown, e.isPlugin := by
  cases thrown with
  | none => simp [tryCatch]
  | some e => cases e <;> simp [tryCatch, Exception.isPlugin]

/-! ### Registration and subscription -/

theorem isPlugin_registerPlugin {info : RegistrationInformation} : ∀ e ∈ (c.registerPlugin w info).2, e.isPlugin := by
  rw [Client.registerPlugin]
  split_ifs <;> simp [Exception.isPlugin]

theorem succeeds_configDefaultEntry {item : IvpConfigItem} (h : item.key.isSome ∧ item.defaultValue.isSome) :
    Succeeds (configDefaultEntry item) := by
  obtain ⟨key, hkey⟩ := Option.isSome_iff_exists.1 h.1
  obtain ⟨defaultValue, hdefault⟩ := Option.isSome_iff_exists.1 h.2
  simp only [configDefaultEntry, succeeds_bind, string_eq_ok]
  exact ⟨key, hkey, defaultValue, hdefault, succeeds_pure⟩

theorem succeeds_messageTypeEntry {entry : IvpMessageTypeEntry} (h : entry.type.isSome ∧ entry.subtype.isSome) :
    Succeeds (messageTypeEntry entry) := by
  obtain ⟨type, htype⟩ := Option.isSome_iff_exists.1 h.1
  obtain ⟨subtype, hsubtype⟩ := Option.isSome_iff_exists.1 h.2
  simp only [messageTypeEntry, succeeds_bind, string_eq_ok]
  exact ⟨type, htype, subtype, hsubtype, succeeds_pure⟩

theorem succeeds_registrationInformation {manifest : IvpManifest}
    (h : (IvpRegister.validateManifest manifest).error = IvpError_none) :
    Succeeds (registrationInformation manifest) := by
  obtain ⟨-, hconfig, htypes⟩ := IvpRegister.validateManifest_spec h
  obtain ⟨items, hitems, hitem⟩ := Collection.exists_getItems IvpConfig.readItem
    (P := fun item => item.key.isSome ∧ item.defaultValue.isSome) (IvpConfig.validate_spec hconfig)
  obtain ⟨entries, hentries, hentry⟩ := Collection.exists_getItems IvpMsgType.readEntry
    (P := fun entry => entry.type.isSome ∧ entry.subtype.isSome) (IvpMsgType.validateCollection_spec htypes)
  obtain ⟨configDefaultEntries, hconfigs⟩ := succeeds_mapM fun item h => succeeds_configDefaultEntry (hitem item h)
  obtain ⟨messageTypeEntries, htypes⟩ := succeeds_mapM fun entry h => succeeds_messageTypeEntry (hentry entry h)
  simp only [registrationInformation, succeeds_bind, assertSome_eq_ok]
  exact ⟨items, hitems, configDefaultEntries, hconfigs, entries, hentries, messageTypeEntries, htypes, succeeds_pure⟩

theorem succeeds_processRegistrationMessage (h : msg.isRegistrationMsg) :
    Succeeds (processRegistrationMessage s w msg) ↔ msg.payload.isSome := by
  simp only [processRegistrationMessage, succeeds_bind, assertSome_eq_ok, IvpRegister.getManifest, if_pos h,
    Option.map_eq_some_iff]
  constructor
  · rintro ⟨_, ⟨payload, hpayload, rfl⟩, -⟩
    exact Option.isSome_of_eq_some hpayload
  · intro hsome
    obtain ⟨payload, hpayload⟩ := Option.isSome_iff_exists.1 hsome
    refine ⟨_, ⟨payload, hpayload, rfl⟩, ?_⟩
    split_ifs with hvalid
    · exact succeeds_pure
    · obtain ⟨info, hinfo⟩ := succeeds_registrationInformation (not_not.1 hvalid)
      exact succeeds_bind.2 ⟨info, hinfo, succeeds_tryCatch.2 isPlugin_registerPlugin⟩

theorem succeeds_processSubscribeMessage : Succeeds (processSubscribeMessage s w) := by
  rw [processSubscribeMessage, succeeds_tryCatch, Client.subscribeForMessages]
  split_ifs <;> simp [Exception.isPlugin]

/-! ### Messages for the router -/

/-- The identifier that the profiler ends up with for the type of the message is not 0. -/
def Profiled (s : Shared) (w : World) (msg : IvpMessage) : Prop :=
  ∀ type ∈ msg.type, s.client.name ≠ [] → s.client.id ≠ 0 →
    ((s.messageTypes.find? (·.same type (msg.subtype.getD []))).map MessageTypeEntry.id).getD (w.insertMessageType.getD 0) ≠ 0

theorem succeeds_routeMessage : Succeeds (routeMessage s w msg) ↔ (s.client.registered → Profiled s w msg) := by
  rw [routeMessage]
  by_cases hreg : s.client.registered
  · rw [if_pos hreg, succeeds_map, profile, Profiled, imp_iff_right hreg]
    cases htype : msg.type with
    | none => simp [succeeds_ok]
    | some type =>
      simp only [Option.getD_some, Option.mem_some_iff, forall_eq']
      by_cases hsource : s.client.name = [] ∨ s.client.id = 0
      · rw [if_pos hsource]
        refine iff_of_true succeeds_ok fun hname hid => ?_
        exact absurd hsource (not_or.2 ⟨hname, hid⟩)
      · obtain ⟨hname, hid⟩ := not_or.1 hsource
        rw [if_neg hsource, imp_iff_right hname, imp_iff_right hid]
        cases s.messageTypes.find? (·.same type (msg.subtype.getD [])) with
        | none =>
          dsimp only
          split_ifs with h <;> simp [h]
        | some entry =>
          dsimp only
          split_ifs with h <;> simp [h]
  · rw [if_neg hreg, succeeds_tryCatch]
    simp [hreg, Exception.isPlugin]

/-! ### Configuration -/

theorem succeeds_beginConfig : Succeeds (beginConfig w msg) ↔ (∀ p ∈ msg.payload, p.isArray) ∧ w.configContext := by
  have hcount : (∃ n, IvpConfig.getItemCount msg.payload = some n) ↔ ∀ p ∈ msg.payload, p.isArray := by
    cases msg.payload <;> simp [IvpConfig.getItemCount, Collection.getItemCount]
  have hcontext : ∀ n, Succeeds (if w.configContext = true then pure ⟨msg, n, 0, []⟩ else throw (.exception .db) :
      Except Fault ConfigLoop) ↔ w.configContext := by
    intro n
    split_ifs with h <;> simp [h]
  simp only [beginConfig, succeeds_bind, assertSome_eq_ok, hcontext, exists_and_right, hcount]

/-- The item has a key and a value, the message a source; a global parameter has a default, and any other
is one of the client's, which is registered. -/
def ItemFits (c : Client) (source : Option Str) (item : IvpConfigItem) : Prop :=
  item.key.isSome ∧ item.value.isSome ∧ source.isSome ∧
    if source = some globalSource then item.defaultValue.isSome
    else c.registered ∧ c.hasConfigValue (item.key.getD [])

theorem succeeds_configItem {loop : ConfigLoop} :
    Succeeds (configItem c loop) ↔
      ∃ item, IvpConfig.getItem loop.msg.payload loop.index = some item ∧ ItemFits c loop.msg.source item := by
  simp only [configItem, succeeds_bind, assertSome_eq_ok]
  refine exists_congr fun item => and_congr_right fun _ => ?_
  rw [ItemFits]
  cases hkey : item.key with
  | none => simp
  | some key =>
    cases hvalue : item.value with
    | none => simp
    | some value =>
      cases hsource : loop.msg.source with
      | none => simp
      | some source =>
        by_cases hglobal : source = globalSource
        · cases hdefault : item.defaultValue <;> simp [hglobal, string, Functor.map, Except.map]
        · by_cases hreg : c.registered
          · by_cases hhas : c.hasConfigValue key
            · simp [hglobal, Client.setConfigValue, hreg, hhas]
            · simp [hglobal, Client.setConfigValue, hreg, hhas]
          · simp [hglobal, Client.setConfigValue, hreg]

theorem succeeds_endConfig : Succeeds (endConfig w) ↔ w.initializePluginConfigParameters := by
  rw [endConfig]
  split_ifs with h <;> simp [h]

/-! ### Status and events -/

theorem succeeds_processStatusMessage :
    Succeeds (processStatusMessage s w msg) ↔
      ∃ items, Collection.getItems IvpPluginStatus.readItem msg.payload = some items ∧
        ∀ item ∈ items, item.value.isSome ∨ item.key.isSome := by
  have hcaught : ∀ e ∈ (s.client.setStatusItems w).or (s.client.removeStatusItems w), e.isPlugin := by
    rw [Client.setStatusItems, Client.removeStatusItems]
    split_ifs <;> simp [Exception.isPlugin]
  simp only [processStatusMessage, succeeds_bind, assertSome_eq_ok]
  refine exists_congr fun items => and_congr_right fun _ => ?_
  split_ifs with hall
  · refine iff_of_true (succeeds_tryCatch.2 hcaught) fun item hitem => ?_
    simpa using List.all_eq_true.1 hall item hitem
  · refine iff_of_false not_succeeds_throw fun h => hall (List.all_eq_true.2 fun item hitem => ?_)
    simpa using h item hitem

theorem succeeds_processEventLogMessage (h : msg.isEventLogMsg) :
    Succeeds (processEventLogMessage s w msg) ↔
      (∃ p ∈ msg.payload, (p.tryGetStr IvpEventLog.descriptionField).getD [] ≠ []) ∧ s.client.registered := by
  simp only [processEventLogMessage, succeeds_bind, assertSome_eq_ok, IvpEventLog.getEventLogEntry, if_pos h]
  cases msg.payload with
  | none => simp
  | some p =>
    by_cases hdescription : (p.tryGetStr IvpEventLog.descriptionField).getD [] = []
    · simp [hdescription]
    · by_cases hreg : s.client.registered
      · simp [hdescription, Client.addEventLogEntry, hreg]
      · simp [hdescription, Client.addEventLogEntry, hreg]

end V2xHub.PluginConnection
