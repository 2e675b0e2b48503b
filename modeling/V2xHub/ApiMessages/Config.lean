import V2xHub.IvpMessage.Basic
import V2xHub.ApiMessages.Collection
import V2xHub.IvpMessage.Envelope

/-!
# Configuration messages

`IvpConfig.c`: the payload is a collection of configuration parameters.
-/

namespace V2xHub

structure IvpConfigItem where
  key : Option Str
  value : Option Str
  defaultValue : Option Str
  description : Option Str
deriving DecidableEq

namespace IvpConfig

def keyField : Str := CString.lit "key"
def valueField : Str := CString.lit "value"
def defaultField : Str := CString.lit "default"
def descriptionField : Str := CString.lit "description"

def createMsg (now : Nat) (collection : Option CJson) : IvpMessage :=
  .create now (some IVPMSG_TYPE_APIRESV_CONFIG) none (some IVP_ENCODING_JSON) 0 collection

def itemFields (item : IvpConfigItem) : List (Str × Option CJson) :=
  [(keyField, item.key.map .string), (valueField, item.value.map .string), (defaultField, item.defaultValue.map .string),
    (descriptionField, item.description.map .string)]

def ofItem (item : IvpConfigItem) : CJson := .objectOf (itemFields item)

/-- The key is not `NULL`. -/
def addItemToCollection (collection : Option CJson) (key : Str) (value defaultValue : Option Str) : Option CJson :=
  Collection.addItem collection
    (if value.isSome || defaultValue.isSome then some (ofItem ⟨some key, value, defaultValue, none⟩) else none)

def getItemCount (collection : Option CJson) : Option Nat := Collection.getItemCount collection

def readItem (item : CJson) : IvpConfigItem :=
  ⟨item.tryGetStr keyField, item.tryGetStr valueField, item.tryGetStr defaultField, item.tryGetStr descriptionField⟩

def getItem (collection : Option CJson) (index : Nat) : Option IvpConfigItem := Collection.getItem readItem collection index

/-- The checks of one item. -/
def checkItem (item : CJson) : Except IvpErrorNumber Str :=
  match item.tryGetStr keyField with
  | none => .error IvpError_configMissingKey
  | some key =>
    if (item.tryGetStr defaultField).isNone then .error IvpError_configMissingDefault
    else if (item.getObjectItem descriptionField).any (·.stringValue?.isNone) then .error IvpError_configFormat
    else .ok key

def validate (collection : Option CJson) : IvpError :=
  Collection.validate checkItem IvpError_configFormat IvpError_configDuplicateKey collection

variable {item : IvpConfigItem}

theorem distinct_itemFields : CJson.Distinct ((itemFields item).map Prod.fst) := by
  show CJson.Distinct [keyField, valueField, defaultField, descriptionField]
  decide

theorem readItem_normal : readItem (ofItem item).normal = item := by
  rw [readItem, ofItem, CJson.tryGetStr_normal distinct_itemFields (s := item.key) (by simp [itemFields]),
    CJson.tryGetStr_normal distinct_itemFields (s := item.value) (by simp [itemFields]),
    CJson.tryGetStr_normal distinct_itemFields (s := item.defaultValue) (by simp [itemFields]),
    CJson.tryGetStr_normal distinct_itemFields (s := item.description) (by simp [itemFields])]

theorem plain_ofItem (hkey : ∀ s ∈ item.key, 0 ∉ s) (hvalue : ∀ s ∈ item.value, 0 ∉ s)
    (hdefault : ∀ s ∈ item.defaultValue, 0 ∉ s) (hdescription : ∀ s ∈ item.description, 0 ∉ s) :
    (ofItem item).Plain := by
  refine CJson.plain_objectOf ?_ ?_
  · show ∀ name ∈ [keyField, valueField, defaultField, descriptionField], 0 ∉ name
    decide
  · simp only [itemFields, List.forall_mem_cons, List.not_mem_nil, false_imp_iff, implies_true, and_true]
    exact ⟨CJson.plain_map_string hkey, CJson.plain_map_string hvalue, CJson.plain_map_string hdefault,
      CJson.plain_map_string hdescription⟩

/-- A parameter with a value or a default is added to the others, without a description. -/
theorem addItemToCollection_holds {collection : Option CJson} {items : List IvpConfigItem} {key : Str}
    {value defaultValue : Option Str} (h : Collection.Holds ofItem collection items)
    (hvalue : value.isSome ∨ defaultValue.isSome) :
    ∃ c, addItemToCollection collection key value defaultValue = some c ∧
      Collection.Holds ofItem (some c) (items ++ [⟨some key, value, defaultValue, none⟩]) := by
  obtain ⟨c, hc, hholds⟩ := h.addItem (some ⟨some key, value, defaultValue, none⟩)
  refine ⟨c, ?_, hholds⟩
  rw [addItemToCollection, if_pos (by simpa using hvalue)]
  exact hc

/-- The items of a collection without an error have keys and defaults. -/
theorem validate_spec {collection : Option CJson} (h : (validate collection).error = IvpError_none) :
    ∀ c ∈ collection, ∃ child, c = .array child ∧
      ∀ item ∈ child, (readItem item).key.isSome ∧ (readItem item).defaultValue.isSome := by
  intro c hc
  have hcheck : ∀ item, checkItem item ≠ .error IvpError_none := by
    intro item h
    rw [checkItem] at h
    split at h
    · exact absurd (Except.error.inj h) (by decide)
    · split_ifs at h
      · exact absurd (Except.error.inj h) (by decide)
      · exact absurd (Except.error.inj h) (by decide)
  obtain ⟨child, rfl, hchild⟩ := Collection.validate_spec hcheck (by decide) (by decide) h c hc
  refine ⟨child, rfl, fun item hitem => ?_⟩
  obtain ⟨key, hkey⟩ := hchild item hitem
  rw [checkItem] at hkey
  split at hkey
  · nomatch hkey
  · rename_i key' hkey'
    split_ifs at hkey with hdefault
    exact ⟨Option.isSome_of_eq_some hkey', by simpa [readItem, Option.isSome_iff_ne_none] using hdefault⟩

end IvpConfig

end V2xHub
