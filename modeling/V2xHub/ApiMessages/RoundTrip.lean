import V2xHub.ApiMessages.Config
import V2xHub.ApiMessages.PluginStatus
import V2xHub.ApiMessages.EventLog
import V2xHub.ApiMessages.Subscribe

/-!
# Control messages through their text

What the getter of a control message returns, after the message has been through its text, is what the
message was created with, except for the system error number of an error (`control_round_trip`).
-/

namespace V2xHub.ApiMessages

/-- What goes into a control message. -/
inductive Content where
  | error (err : IvpError)
  | config (items : List IvpConfigItem)
  | status (items : List IvpPluginStatusItem)
  | eventLog (entry : IvpEventLogEntry)
  | subscribe (entries : List (Option Str × Option Str × IvpMsgFlags))
deriving DecidableEq

/-- The message that a create function makes. A collection is the array of its items; a `NULL` collection
has none. -/
inductive Created (now : Nat) : Content → IvpMessage → Prop where
  | error (err : IvpError) : Created now (.error err) (IvpError.createMsg now err)
  | config {collection : Option CJson} {items : List IvpConfigItem} (h : Collection.Holds IvpConfig.ofItem collection items) :
    Created now (.config items) (IvpConfig.createMsg now collection)
  | status {collection : Option CJson} {items : List IvpPluginStatusItem}
    (h : Collection.Holds IvpPluginStatus.ofItem collection items) :
    Created now (.status items) (IvpPluginStatus.createMsg now collection)
  | eventLog {entry : IvpEventLogEntry} {msg : IvpMessage}
    (h : IvpEventLog.createMsg now entry.level entry.description = some msg) : Created now (.eventLog entry) msg
  | subscribe {filter : Option CJson} {entries : List (Option Str × Option Str × IvpMsgFlags)}
    (h : Collection.Holds IvpSubscribe.ofEntry filter entries) :
    Created now (.subscribe entries) (IvpSubscribe.createMsg now filter)

namespace Content

def strings : Content → List Str
  | error _ => []
  | config items => items.flatMap fun item =>
      item.key.toList ++ item.value.toList ++ item.defaultValue.toList ++ item.description.toList
  | status items => items.flatMap fun item => item.key.toList ++ item.value.toList
  | eventLog entry => entry.description.toList
  | subscribe entries => entries.flatMap fun entry => entry.1.toList ++ entry.2.1.toList

/-- What the getter of this kind of message reads; `level` is the level of an entry that has none. -/
def reread (level : IvpLogLevel) : Content → IvpMessage → Option Content
  | error _, msg => (IvpError.getError msg).map error
  | config _, msg => (Collection.getItems IvpConfig.readItem msg.payload).map config
  | status _, msg => (Collection.getItems IvpPluginStatus.readItem msg.payload).map status
  | eventLog _, msg => (IvpEventLog.getEventLogEntry level msg).map eventLog
  | subscribe _, msg => some (subscribe (IvpSubscribe.getFilterEntries msg))

/-- What comes back. -/
def returned : Content → Content
  | error err => error { err with sysErrNo := err.error }
  | content => content

end Content

namespace Created

variable {now : Nat} {content : Content} {msg : IvpMessage}

theorem sendable (h : Created now content msg) (htime : now < 2 ^ 53) (hs : ∀ s ∈ content.strings, 0 ∉ s) :
    msg.Sendable := by
  cases h with
  | error err =>
    refine IvpMessage.sendable_create htime (by decide) (by decide) ?_
    rintro p ⟨⟩
    exact IvpError.plain_payload
  | config h =>
    refine IvpMessage.sendable_create htime (by decide) (by decide) (h.plain fun item hitem => ?_)
    have hstring : ∀ s, s ∈ item.key ∨ s ∈ item.value ∨ s ∈ item.defaultValue ∨ s ∈ item.description → 0 ∉ s := by
      intro s h
      refine hs s (List.mem_flatMap.2 ⟨item, hitem, ?_⟩)
      simpa [or_assoc] using h
    exact IvpConfig.plain_ofItem (fun s h => hstring s (by simp [h])) (fun s h => hstring s (by simp [h]))
      (fun s h => hstring s (by simp [h])) fun s h => hstring s (by simp [h])
  | status h =>
    refine IvpMessage.sendable_create htime (by decide) (by decide) (h.plain fun item hitem => ?_)
    have hstring : ∀ s, s ∈ item.key ∨ s ∈ item.value → 0 ∉ s := by
      intro s h
      refine hs s (List.mem_flatMap.2 ⟨item, hitem, ?_⟩)
      simpa using h
    exact IvpPluginStatus.plain_ofItem (fun s h => hstring s (.inl h)) fun s h => hstring s (.inr h)
  | @eventLog entry msg h =>
    rw [IvpEventLog.createMsg] at h
    split_ifs at h
    obtain rfl := Option.some.inj h
    refine IvpMessage.sendable_create htime (by decide) (by decide) ?_
    rintro p ⟨⟩
    exact IvpEventLog.plain_payload fun s h => hs s (by simpa [Content.strings] using h)
  | subscribe h =>
    refine IvpMessage.sendable_create htime (by decide) (by decide) (h.plain fun entry hentry => ?_)
    have hstring : ∀ s, s ∈ entry.1 ∨ s ∈ entry.2.1 → 0 ∉ s := by
      intro s h
      refine hs s (List.mem_flatMap.2 ⟨entry, hentry, ?_⟩)
      simpa using h
    exact IvpSubscribe.plain_ofEntry (fun s h => hstring s (.inl h)) fun s h => hstring s (.inr h)

theorem reread_normal (h : Created now content msg) (level : IvpLogLevel) :
    content.reread level msg.normal = some content.returned := by
  cases h with
  | error err => exact congrArg (Option.map Content.error) (IvpError.getError_createMsg now err)
  | config h =>
    exact congrArg (Option.map Content.config) (h.getItems_normal fun item _ => IvpConfig.readItem_normal)
  | status h =>
    exact congrArg (Option.map Content.status) (h.getItems_normal fun item _ => IvpPluginStatus.readItem_normal)
  | eventLog h => exact congrArg (Option.map Content.eventLog) (IvpEventLog.getEventLogEntry_createMsg level h)
  | subscribe h => exact congrArg (some ∘ Content.subscribe) (IvpSubscribe.getFilterEntries_normal now h)

/-- What is read from the text. -/
theorem reread_text (h : Created now content msg) (libc : Libc) (level : IvpLogLevel) (formatted : Bool)
    (htime : now < 2 ^ 53) (hs : ∀ s ∈ content.strings, 0 ∉ s) :
    (IvpMessage.parse libc (msg.createJsonString formatted)).bind (content.reread level) = some content.returned := by
  rw [(h.sendable htime hs).parse_eq formatted, Option.bind_some, h.reread_normal level]

end Created

variable {content : Content}

theorem exists_created (now : Nat) (h : ∀ entry, content = .eventLog entry → entry.description.getD [] ≠ []) :
    ∃ msg, Created now content msg := by
  cases content with
  | error err => exact ⟨_, .error err⟩
  | config items => exact ⟨_, .config (Or.inl rfl)⟩
  | status items => exact ⟨_, .status (Or.inl rfl)⟩
  | eventLog entry => exact ⟨_, .eventLog (if_neg (h entry rfl))⟩
  | subscribe entries => exact ⟨_, .subscribe (Or.inl rfl)⟩

theorem returned_eq_iff : content.returned = content ↔ ∀ err, content = .error err → err.sysErrNo = err.error := by
  cases content with
  | error err =>
    constructor
    · rintro h _ ⟨⟩
      exact (congrArg IvpError.sysErrNo (Content.error.inj h)).symm
    · intro h
      exact congrArg (fun n => Content.error { err with sysErrNo := n }) (h err rfl).symm
  | _ => exact ⟨fun _ _ h => (nomatch h), fun _ => rfl⟩

/-- Every control message comes back, but an error only where its two numbers are the same. There is a message
for everything but an event without a description. -/
theorem control_round_trip (libc : Libc) (level : IvpLogLevel) (now : Nat) (formatted : Bool) (content : Content)
    (htime : now < 2 ^ 53) (hs : ∀ s ∈ content.strings, 0 ∉ s) :
    ((∀ entry, content = .eventLog entry → entry.description.getD [] ≠ []) → ∃ msg, Created now content msg) ∧
    ((∀ msg, Created now content msg →
        (IvpMessage.parse libc (msg.createJsonString formatted)).bind (content.reread level) = some content) ↔
      ∀ err, content = .error err → err.sysErrNo = err.error) := by
  refine ⟨exists_created now, ?_⟩
  rw [← returned_eq_iff]
  constructor
  · intro h
    cases content with
    | error err =>
      have hmsg : Created now (.error err) (IvpError.createMsg now err) := .error err
      exact Option.some.inj ((hmsg.reread_text libc level formatted htime hs).symm.trans (h _ hmsg))
    | _ => rfl
  · intro h msg hmsg
    rw [hmsg.reread_text libc level formatted htime hs, h]

/-- A refused connection. -/
def connectFail : IvpError := IvpError.createError IvpLogLevel_error IvpError_connectFail 111

/-- The system error number of a refused connection comes back as the number of the error. -/
theorem sysErrNo_lost :
    ∃ msg, Created 0 (.error connectFail) msg ∧
      (IvpMessage.parse Libc.rounding (msg.createJsonString false)).bind (Content.reread 0 (.error connectFail)) =
        some (.error ⟨IvpLogLevel_error, IvpError_connectFail, 9⟩) ∧
      (IvpMessage.parse Libc.rounding (msg.createJsonString false)).bind (Content.reread 0 (.error connectFail)) ≠
        some (.error connectFail) := by
  have h := (@Created.error 0 connectFail).reread_text Libc.rounding 0 false (by decide) (by decide)
  refine ⟨_, .error connectFail, h, ?_⟩
  rw [h]
  decide

/-- A parameter without a value and one without a default. -/
def parameters : Content :=
  .config [⟨some (CString.lit "a"), none, some (CString.lit "1"), none⟩, ⟨some (CString.lit "b"), some [34], none, none⟩]

theorem control_round_trip_parameters :
    ∃ msg, Created 1600000000000 parameters msg ∧
      (IvpMessage.parse Libc.rounding (msg.createJsonString false)).bind (parameters.reread 0) = some parameters := by
  obtain ⟨hexists, hback⟩ := control_round_trip Libc.rounding 0 1600000000000 false parameters (by decide) (by decide)
  obtain ⟨msg, hmsg⟩ := hexists fun entry h => nomatch h
  exact ⟨msg, hmsg, hback.2 (fun err h => nomatch h) msg hmsg⟩

end V2xHub.ApiMessages
