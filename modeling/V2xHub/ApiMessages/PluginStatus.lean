import V2xHub.IvpMessage.Basic
import V2xHub.ApiMessages.Collection
import V2xHub.IvpMessage.Envelope

/-!
# Status messages

`IvpPluginStatus.c`: the payload is a collection of keys with values.
-/

namespace V2xHub

structure IvpPluginStatusItem where
  key : Option Str
  value : Option Str
deriving DecidableEq

namespace IvpPluginStatus

def keyField : Str := CString.lit "key"
def valueField : Str := CString.lit "value"

def createMsg (now : Nat) (collection : Option CJson) : IvpMessage :=
  .create now (some IVPMSG_TYPE_APIRESV_STATUS) none (some IVP_ENCODING_JSON) 0 collection

def itemFields (item : IvpPluginStatusItem) : List (Str × Option CJson) :=
  [(keyField, item.key.map .string), (valueField, item.value.map .string)]

def ofItem (item : IvpPluginStatusItem) : CJson := .objectOf (itemFields item)

def addStatusItem (collection : Option CJson) (key value : Option Str) : Option CJson :=
  Collection.addItem collection (if value.isSome || key.isSome then some (ofItem ⟨key, value⟩) else none)

def getItemCount (collection : Option CJson) : Option Nat := Collection.getItemCount collection

def readItem (item : CJson) : IvpPluginStatusItem := ⟨item.tryGetStr keyField, item.tryGetStr valueField⟩

def getItem (collection : Option CJson) (index : Nat) : Option IvpPluginStatusItem :=
  Collection.getItem readItem collection index

variable {item : IvpPluginStatusItem}

theorem distinct_itemFields : CJson.Distinct ((itemFields item).map Prod.fst) := by
  show CJson.Distinct [keyField, valueField]
  decide

theorem readItem_normal : readItem (ofItem item).normal = item := by
  rw [readItem, ofItem, CJson.tryGetStr_normal distinct_itemFields (s := item.key) (by simp [itemFields]),
    CJson.tryGetStr_normal distinct_itemFields (s := item.value) (by simp [itemFields])]

theorem plain_ofItem (hkey : ∀ s ∈ item.key, 0 ∉ s) (hvalue : ∀ s ∈ item.value, 0 ∉ s) : (ofItem item).Plain := by
  refine CJson.plain_objectOf ?_ ?_
  · show ∀ name ∈ [keyField, valueField], 0 ∉ name
    decide
  · simp only [itemFields, List.forall_mem_cons, List.not_mem_nil, false_imp_iff, implies_true, and_true]
    exact ⟨CJson.plain_map_string hkey, CJson.plain_map_string hvalue⟩

/-- An item with a key or a value is added to the others. -/
theorem addStatusItem_holds {collection : Option CJson} {items : List IvpPluginStatusItem}
    (h : Collection.Holds ofItem collection items) (hitem : item.value.isSome ∨ item.key.isSome) :
    ∃ c, addStatusItem collection item.key item.value = some c ∧ Collection.Holds ofItem (some c) (items ++ [item]) := by
  obtain ⟨c, hc, hholds⟩ := h.addItem (some item)
  refine ⟨c, ?_, hholds⟩
  rw [addStatusItem, if_pos (by simpa using hitem)]
  exact hc

end IvpPluginStatus

end V2xHub
