import V2xHub.ApiMessages.Error

/-!
# Event log messages

`IvpEventLog.c`: the payload is an object with the level and the description of one entry.
-/

namespace V2xHub

structure IvpEventLogEntry where
  level : IvpLogLevel
  description : Option Str
deriving DecidableEq

namespace IvpEventLog

def levelField : Str := CString.lit "level"
def descriptionField : Str := CString.lit "description"

def payloadFields (entry : IvpEventLogEntry) : List (Str × Option CJson) :=
  [(levelField, some (.createNumber (.ofInt entry.level.toNat))), (descriptionField, entry.description.map .string)]

/-- There is no message where an assertion fails: for a `NULL` or an empty description. -/
def createMsg (now : Nat) (level : IvpLogLevel) (description : Option Str) : Option IvpMessage :=
  if description.getD [] = [] then none
  else some (.create now (some IVPMSG_TYPE_APIRESV_EVENTLOG) none (some IVP_ENCODING_JSON) 0
    (some (.objectOf (payloadFields ⟨level, description⟩))))

/-- `level` is what the variable held before, where the payload has no level. No entry: an assertion fails. -/
def getEventLogEntry (level : IvpLogLevel) (msg : IvpMessage) : Option IvpEventLogEntry :=
  if msg.isEventLogMsg then
    msg.payload.map fun payload =>
      { level := ((payload.tryGetInt levelField).map (BitVec.ofInt 32)).getD level
        description := payload.tryGetStr descriptionField }
  else none

variable {entry : IvpEventLogEntry}

theorem distinct_payloadFields (entry : IvpEventLogEntry) : CJson.Distinct ((payloadFields entry).map Prod.fst) := by
  show CJson.Distinct [levelField, descriptionField]
  decide

theorem plain_payload (h : ∀ s ∈ entry.description, 0 ∉ s) : (CJson.objectOf (payloadFields entry)).Plain := by
  refine CJson.plain_objectOf ?_ ?_
  · show ∀ name ∈ [levelField, descriptionField], 0 ∉ name
    decide
  · simp only [payloadFields, List.forall_mem_cons, List.not_mem_nil, Option.mem_some_iff, forall_eq', false_imp_iff,
      implies_true, and_true]
    exact ⟨CJson.plain_createNumber (CJson.abs_toNat_lt entry.level), CJson.plain_map_string h⟩

theorem getEventLogEntry_createMsg {now : Nat} {msg : IvpMessage} (level : IvpLogLevel)
    (h : createMsg now entry.level entry.description = some msg) : getEventLogEntry level msg.normal = some entry := by
  rw [createMsg] at h
  split_ifs at h
  obtain rfl := Option.some.inj h
  have hlevel := CJson.tryGetInt_normal (CJson.abs_toNat_lt entry.level)
    (CJson.getObjectItem_objectOf (distinct_payloadFields entry) (List.mem_cons_self ..))
  have hdescription : (CJson.objectOf (payloadFields entry)).normal.tryGetStr descriptionField = entry.description :=
    CJson.tryGetStr_normal (distinct_payloadFields entry) (by simp [payloadFields])
  show some (IvpEventLogEntry.mk _ _) = _
  rw [hlevel, hdescription, Option.map_some, Option.getD_some, CJson.ofInt_bmod, CJson.ofInt_toNat]

end IvpEventLog

end V2xHub
