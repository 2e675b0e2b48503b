import V2xHub.IvpMessage.Basic
import V2xHub.IvpMessage.Envelope

/-!
# Error messages

`IvpError.c`: the payload is an object with the members of an `IvpError`. Two of its members have the same
name, so that only the first of them is ever looked up (`getError_createMsg`).
-/

namespace V2xHub

/-- The enumerations are as wide as an `unsigned int`; what is read from a message is not checked. -/
abbrev IvpLogLevel := BitVec 32

def IvpLogLevel_debug : IvpLogLevel := 0
def IvpLogLevel_info : IvpLogLevel := 1
def IvpLogLevel_warn : IvpLogLevel := 2
def IvpLogLevel_error : IvpLogLevel := 3
def IvpLogLevel_fatal : IvpLogLevel := 4

abbrev IvpErrorNumber := BitVec 32

def IvpError_none : IvpErrorNumber := 0
def IvpError_pluginNoName : IvpErrorNumber := 4
def IvpError_configFormat : IvpErrorNumber := 5
def IvpError_configDuplicateKey : IvpErrorNumber := 6
def IvpError_configMissingKey : IvpErrorNumber := 7
def IvpError_configMissingDefault : IvpErrorNumber := 8
def IvpError_connectFail : IvpErrorNumber := 9
def IvpError_messageParse : IvpErrorNumber := 12
def IvpError_msgTypeCollectionFormat : IvpErrorNumber := 14
def IvpError_msgTypeCollectionMissingType : IvpErrorNumber := 15
def IvpError_msgTypeCollectionMissingSubType : IvpErrorNumber := 16
def IvpError_msgTypeCollectionDuplicate : IvpErrorNumber := 17

structure IvpError where
  level : IvpLogLevel
  error : IvpErrorNumber
  sysErrNo : BitVec 32
deriving DecidableEq

def IVP_ERROR_INITIALIZER : IvpError := ⟨IvpLogLevel_debug, IvpError_none, 0⟩

namespace IvpError

def levelField : Str := CString.lit "level"
def errorField : Str := CString.lit "error"
def systemErrorNumberField : Str := CString.lit "error"

def createError (level : IvpLogLevel) (error : IvpErrorNumber) (sysErrNo : BitVec 32) : IvpError := ⟨level, error, sysErrNo⟩

def payloadFields (err : IvpError) : List (Str × Option CJson) :=
  [(levelField, some (.createNumber (.ofInt err.level.toNat))), (errorField, some (.createNumber (.ofInt err.error.toNat))),
    (systemErrorNumberField, some (.createNumber (.ofInt err.sysErrNo.toInt)))]

def createMsg (now : Nat) (err : IvpError) : IvpMessage :=
  .create now (some IVPMSG_TYPE_APIRESV_ERROR) none (some IVP_ENCODING_JSON) 0 (some (.objectOf (payloadFields err)))

/-- `none` where the assertion about the type fails. -/
def getError (msg : IvpMessage) : Option IvpError :=
  if msg.isErrMsg then
    match msg.payload with
    | some payload =>
      some { level := BitVec.ofInt 32 ((payload.tryGetInt levelField).getD 0)
             error := BitVec.ofInt 32 ((payload.tryGetInt errorField).getD 0)
             sysErrNo := BitVec.ofInt 32 ((payload.tryGetInt systemErrorNumberField).getD 0) }
    | none => some IVP_ERROR_INITIALIZER
  else none

variable {err : IvpError}

theorem plain_payload : (CJson.objectOf (payloadFields err)).Plain := by
  refine CJson.plain_objectOf ?_ ?_
  · show ∀ name ∈ [levelField, errorField, systemErrorNumberField], 0 ∉ name
    decide
  · simp only [payloadFields, List.forall_mem_cons, List.not_mem_nil, Option.mem_some_iff, forall_eq', false_imp_iff,
      implies_true, and_true]
    exact ⟨CJson.plain_createNumber (CJson.abs_toNat_lt err.level), CJson.plain_createNumber (CJson.abs_toNat_lt err.error),
      CJson.plain_createNumber (CJson.abs_toInt_lt err.sysErrNo)⟩

/-- The error number comes back in both members. -/
theorem getError_createMsg (now : Nat) (err : IvpError) :
    getError (createMsg now err).normal = some ⟨err.level, err.error, err.error⟩ := by
  have hlevel : (CJson.objectOf (payloadFields err)).getObjectItem levelField =
      some (.createNumber (.ofInt err.level.toNat)) := CJson.getObjectItem_cons_self
  have herror : (CJson.objectOf (payloadFields err)).getObjectItem errorField =
      some (.createNumber (.ofInt err.error.toNat)) := by
    rw [payloadFields, CJson.getObjectItem_cons_of_ne (by decide), CJson.getObjectItem_cons_self]
  have hsys : (CJson.objectOf (payloadFields err)).getObjectItem systemErrorNumberField =
      some (.createNumber (.ofInt err.error.toNat)) := herror
  show some _ = _
  rw [CJson.tryGetInt_normal (CJson.abs_toNat_lt err.level) hlevel,
    CJson.tryGetInt_normal (CJson.abs_toNat_lt err.error) herror,
    CJson.tryGetInt_normal (CJson.abs_toNat_lt err.error) hsys]
  rw [Option.getD_some, Option.getD_some, CJson.ofInt_bmod, CJson.ofInt_bmod, CJson.ofInt_toNat, CJson.ofInt_toNat]

end IvpError

end V2xHub
