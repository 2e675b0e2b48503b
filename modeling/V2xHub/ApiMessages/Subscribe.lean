import V2xHub.IvpMessage.Basic
import V2xHub.ApiMessages.Collection
import V2xHub.IvpMessage.Envelope

/-!
# Subscribe messages

`IvpSubscribe.c`: the payload is an array with an object for each filter entry.
-/

namespace V2xHub.IvpSubscribe

def typeField : Str := CString.lit "type"
def subtypeField : Str := CString.lit "subtype"
def flagmaskField : Str := CString.lit "flagmask"

def createMsg (now : Nat) (filter : Option CJson) : IvpMessage :=
  .create now (some IVPMSG_TYPE_APIRESV_SUBSCRIBE) none none 0 filter

def entryFields (entry : Option Str × Option Str × IvpMsgFlags) : List (Str × Option CJson) :=
  [(typeField, entry.1.map .string), (subtypeField, entry.2.1.map .string),
    (flagmaskField, if entry.2.2 ≠ 0 then some (.createNumber (.ofInt entry.2.2.toNat)) else none)]

def ofEntry (entry : Option Str × Option Str × IvpMsgFlags) : CJson := .objectOf (entryFields entry)

def addFilterEntryWithFlagMask (filter : Option CJson) (type subtype : Option Str) (flags : IvpMsgFlags) : Option CJson :=
  Collection.addItem filter (if type.isSome then some (ofEntry (type, subtype, flags)) else none)

def addFilterEntry (filter : Option CJson) (type subtype : Option Str) : Option CJson :=
  addFilterEntryWithFlagMask filter type subtype 0

def getFilterEntryCount (msg : IvpMessage) : Nat :=
  match msg.payload with
  | some payload => if payload.isArray then payload.getArraySize else 0
  | none => 0

/-- The type, the subtype and the flag mask of entry `index`; a member of another type counts as
missing. -/
def getFilterEntry (msg : IvpMessage) (index : Nat) : Option Str × Option Str × IvpMsgFlags :=
  match if index < getFilterEntryCount msg then msg.payload.bind (·.getArrayItem index) else none with
  | some entry =>
    ((entry.getObjectItem typeField).bind CJson.stringValue?,
      (entry.getObjectItem subtypeField).bind CJson.stringValue?,
      match (entry.getObjectItem flagmaskField).bind CJson.intValue? with
      | some flagmask => BitVec.ofInt 32 flagmask
      | none => 0)
  | none => (none, none, 0)

variable {entry : Option Str × Option Str × IvpMsgFlags} {filter : Option CJson}
  {entries : List (Option Str × Option Str × IvpMsgFlags)}

theorem distinct_entryFields : CJson.Distinct ((entryFields entry).map Prod.fst) := by
  show CJson.Distinct [typeField, subtypeField, flagmaskField]
  decide

theorem plain_ofEntry (htype : ∀ s ∈ entry.1, 0 ∉ s) (hsubtype : ∀ s ∈ entry.2.1, 0 ∉ s) : (ofEntry entry).Plain := by
  refine CJson.plain_objectOf ?_ ?_
  · show ∀ name ∈ [typeField, subtypeField, flagmaskField], 0 ∉ name
    decide
  · simp only [entryFields, List.forall_mem_cons, List.not_mem_nil, false_imp_iff, implies_true, and_true]
    refine ⟨CJson.plain_map_string htype, CJson.plain_map_string hsubtype, fun item hitem => ?_⟩
    split_ifs at hitem
    · obtain rfl := Option.some.inj hitem
      exact CJson.plain_createNumber (CJson.abs_toNat_lt entry.2.2)
    · nomatch hitem

/-- What the getter makes of an entry. -/
def readEntry (entry : CJson) : Option Str × Option Str × IvpMsgFlags :=
  (entry.tryGetStr typeField, entry.tryGetStr subtypeField,
    match (entry.getObjectItem flagmaskField).bind CJson.intValue? with
    | some flagmask => BitVec.ofInt 32 flagmask
    | none => 0)

theorem readEntry_normal : readEntry (ofEntry entry).normal = entry := by
  have htype : (ofEntry entry).normal.tryGetStr typeField = entry.1 :=
    CJson.tryGetStr_normal distinct_entryFields (by simp [entryFields])
  have hsubtype : (ofEntry entry).normal.tryGetStr subtypeField = entry.2.1 :=
    CJson.tryGetStr_normal distinct_entryFields (by simp [entryFields])
  rw [readEntry, htype, hsubtype]
  rcases eq_or_ne entry.2.2 0 with h0 | hne
  · have hnone : (flagmaskField, none) ∈ entryFields entry := by simp [entryFields, h0]
    rw [ofEntry, CJson.getObjectItem_normal_objectOf distinct_entryFields hnone]
    simp [h0, Prod.ext_iff]
  · have hsome : (flagmaskField, some (.createNumber (.ofInt entry.2.2.toNat))) ∈ entryFields entry := by
      rw [entryFields, if_pos hne]
      simp
    rw [ofEntry, CJson.intItem_normal distinct_entryFields (CJson.abs_toNat_lt entry.2.2) hsome]
    simp only [CJson.ofInt_toNat]

/-- An entry with a type is added to the others. -/
theorem addFilterEntryWithFlagMask_holds (h : Collection.Holds ofEntry filter entries) (htype : entry.1.isSome) :
    ∃ c, addFilterEntryWithFlagMask filter entry.1 entry.2.1 entry.2.2 = some c ∧
      Collection.Holds ofEntry (some c) (entries ++ [entry]) := by
  obtain ⟨c, hc, hholds⟩ := h.addItem (some entry)
  refine ⟨c, ?_, hholds⟩
  rw [addFilterEntryWithFlagMask, if_pos htype]
  exact hc

/-- The entries in order, as a loop up to the count reads them. -/
def getFilterEntries (msg : IvpMessage) : List (Option Str × Option Str × IvpMsgFlags) :=
  (List.range (getFilterEntryCount msg)).map fun index => getFilterEntry msg index

theorem getFilterEntry_eq {msg : IvpMessage} {child : List CJson} {index : Nat} (h : msg.payload = some (.array child))
    (hindex : index < child.length) : getFilterEntry msg index = readEntry (child.get ⟨index, hindex⟩) := by
  have hcount : getFilterEntryCount msg = child.length := by rw [getFilterEntryCount, h]; rfl
  have hentry : (CJson.array child).getArrayItem index = some (child.get ⟨index, hindex⟩) :=
    List.getElem?_eq_getElem hindex
  rw [getFilterEntry, hcount, if_pos hindex, h, Option.bind_some, hentry]
  rfl

theorem getFilterEntries_normal (now : Nat) (h : Collection.Holds ofEntry filter entries) :
    getFilterEntries (createMsg now filter).normal = entries := by
  rcases h with rfl | ⟨rfl, rfl⟩
  · have hpayload : (createMsg now (some (.array (entries.map ofEntry)))).normal.payload =
        some (.array ((entries.map ofEntry).map CJson.normal)) := by
      show some (CJson.normal _) = _
      rw [CJson.normal, CJson.normalItems_eq_map]
    have hcount : getFilterEntryCount (createMsg now (some (.array (entries.map ofEntry)))).normal = entries.length := by
      rw [getFilterEntryCount, hpayload]
      simp [CJson.isArray, CJson.getArraySize, CJson.items]
    rw [getFilterEntries, hcount]
    refine List.ext_getElem (by simp) fun index hindex hindex' => ?_
    rw [List.getElem_map, List.getElem_range, getFilterEntry_eq hpayload (by simpa using hindex')]
    simp [readEntry_normal]
  · rfl

end V2xHub.IvpSubscribe
