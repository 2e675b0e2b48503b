import V2xHub.ApiMessages.Collection

/-!
# Collections of message types

`IvpMessageType.c`: what a manifest says about the messages of a plugin.
-/

namespace V2xHub

structure IvpMessageTypeEntry where
  type : Option Str
  subtype : Option Str
  description : Option Str
deriving DecidableEq

namespace IvpMsgType

def typeField : Str := CString.lit "type"
def subtypeField : Str := CString.lit "subtype"
def descriptionField : Str := CString.lit "description"

def readEntry (item : CJson) : IvpMessageTypeEntry :=
  ⟨item.tryGetStr typeField, item.tryGetStr subtypeField, item.tryGetStr descriptionField⟩

/-- The checks of one entry. -/
def checkEntry (item : CJson) : Except IvpErrorNumber (Str × Str) :=
  match item.tryGetStr typeField, item.tryGetStr subtypeField with
  | none, _ => .error IvpError_msgTypeCollectionMissingType
  | some _, none => .error IvpError_msgTypeCollectionMissingSubType
  | some type, some subtype =>
    if (item.getObjectItem descriptionField).any (·.stringValue?.isNone) then .error IvpError_msgTypeCollectionFormat
    else .ok (type, subtype)

def validateCollection (collection : Option CJson) : IvpError :=
  Collection.validate checkEntry IvpError_msgTypeCollectionFormat IvpError_msgTypeCollectionDuplicate collection

/-- The entries of a collection without an error have types and subtypes. -/
theorem validateCollection_spec {collection : Option CJson} (h : (validateCollection collection).error = IvpError_none) :
    ∀ c ∈ collection, ∃ child, c = .array child ∧
      ∀ item ∈ child, (readEntry item).type.isSome ∧ (readEntry item).subtype.isSome := by
  intro c hc
  have hcheck : ∀ item, checkEntry item ≠ .error IvpError_none := by
    intro item h
    rw [checkEntry] at h
    split at h
    · exact absurd (Except.error.inj h) (by decide)
    · exact absurd (Except.error.inj h) (by decide)
    · split_ifs at h
      exact absurd (Except.error.inj h) (by decide)
  obtain ⟨child, rfl, hchild⟩ := Collection.validate_spec hcheck (by decide) (by decide) h c hc
  refine ⟨child, rfl, fun item hitem => ?_⟩
  obtain ⟨key, hkey⟩ := hchild item hitem
  rw [checkEntry] at hkey
  split at hkey
  · nomatch hkey
  · nomatch hkey
  · rename_i type subtype htype hsubtype
    exact ⟨Option.isSome_of_eq_some htype, Option.isSome_of_eq_some hsubtype⟩

end IvpMsgType

end V2xHub
