import V2xHub.ApiMessages.Error

/-!
# Collections

`IvpConfigCollection` and `IvpPluginStatusCollection` are arrays with an object for each item. The functions
of `IvpConfig.c` and `IvpPluginStatus.c` that count, read and add items differ in what they read of an
object and put into one, those that validate a collection in what they check of an object. An assertion that
fails is `none`; a `NULL` collection is `none` as an argument.
-/

namespace V2xHub.Collection
variable {α : Type*}

def getItemCount (collection : Option CJson) : Option Nat :=
  match collection with
  | some collection => if collection.isArray then some collection.getArraySize else none
  | none => some 0

def getItem (read : CJson → α) (collection : Option CJson) (index : Nat) : Option α :=
  match collection with
  | some collection =>
    if collection.isArray ∧ index < collection.getArraySize then (collection.getArrayItem index).map read else none
  | none => none

/-- The items in order, as a loop up to the count reads them. -/
def getItems (read : CJson → α) (collection : Option CJson) : Option (List α) :=
  (getItemCount collection).bind fun count => (List.range count).mapM fun index => getItem read collection index

/-- Where there is no item, the collection is only created. -/
def addItem (collection : Option CJson) (item : Option CJson) : Option CJson :=
  match collection with
  | none => some (.array item.toList)
  | some (.array child) => some (.array (child ++ item.toList))
  | some _ => none

/-- The loop over the items: the check of the fields of one, and that no item before it has the same key. -/
def validateItems {κ : Type*} [DecidableEq κ] (check : CJson → Except IvpErrorNumber κ) (duplicate : IvpErrorNumber) :
    List κ → List CJson → IvpError
  | _, [] => IVP_ERROR_INITIALIZER
  | keys, item :: items =>
    match check item with
    | .error error => .createError IvpLogLevel_fatal error 0
    | .ok key =>
      if key ∈ keys then .createError IvpLogLevel_fatal duplicate 0
      else validateItems check duplicate (keys ++ [key]) items

def validate {κ : Type*} [DecidableEq κ] (check : CJson → Except IvpErrorNumber κ) (format duplicate : IvpErrorNumber)
    (collection : Option CJson) : IvpError :=
  match collection with
  | none => IVP_ERROR_INITIALIZER
  | some collection =>
    if collection.isArray then validateItems check duplicate [] collection.items
    else .createError IvpLogLevel_fatal format 0

/-- The collection of the items; one without items may not have been created yet. -/
def Holds (ofItem : α → CJson) (collection : Option CJson) (items : List α) : Prop :=
  collection = some (.array (items.map ofItem)) ∨ collection = none ∧ items = []

variable {ofItem : α → CJson} {read : CJson → α} {collection : Option CJson} {items : List α}

theorem mapM_range {f : Nat → Option α} {l : List α}
    (h : ∀ index (hindex : index < l.length), f index = some (l.get ⟨index, hindex⟩)) :
    (List.range l.length).mapM f = some l := by
  induction l generalizing f with
  | nil => rfl
  | cons a l ih =>
    have htail : (List.range l.length).mapM (fun index => f (index + 1)) = some l :=
      ih fun index hindex => h (index + 1) (Nat.succ_lt_succ hindex)
    rw [List.length_cons, List.range_succ_eq_map, List.mapM_cons, h 0 (Nat.succ_pos _), List.mapM_map]
    show ((List.range l.length).mapM fun index => f (index + 1)).bind (fun l => some (a :: l)) = _
    rw [htail]
    rfl

theorem getItems_array (child : List CJson) : getItems read (some (.array child)) = some (child.map read) := by
  have hcount : getItemCount (some (.array child)) = some (child.map read).length := by
    rw [List.length_map]
    rfl
  rw [getItems, hcount, Option.bind_some]
  refine mapM_range fun index hindex => ?_
  rw [List.length_map] at hindex
  have hentry : (CJson.array child).getArrayItem index = some (child.get ⟨index, hindex⟩) :=
    List.getElem?_eq_getElem hindex
  rw [getItem, if_pos ⟨rfl, hindex⟩, hentry, Option.map_some, List.get_eq_getElem, List.get_eq_getElem, List.getElem_map]

theorem exists_getItems (read : CJson → α) {P : α → Prop}
    (h : ∀ c ∈ collection, ∃ child, c = .array child ∧ ∀ item ∈ child, P (read item)) :
    ∃ items, getItems read collection = some items ∧ ∀ item ∈ items, P item := by
  cases collection with
  | none => exact ⟨[], rfl, fun item hitem => absurd hitem List.not_mem_nil⟩
  | some c =>
    obtain ⟨child, rfl, hchild⟩ := h c rfl
    exact ⟨child.map read, getItems_array child, List.forall_mem_map.2 hchild⟩

namespace Holds

theorem addItem (h : Holds ofItem collection items) (item : Option α) :
    ∃ c, addItem collection (item.map ofItem) = some c ∧ Holds ofItem (some c) (items ++ item.toList) := by
  have hmap : (item.map ofItem).toList = item.toList.map ofItem := by cases item <;> rfl
  rcases h with rfl | ⟨rfl, rfl⟩
  · refine ⟨_, rfl, Or.inl ?_⟩
    rw [hmap, List.map_append]
  · refine ⟨_, rfl, Or.inl ?_⟩
    rw [hmap, List.nil_append]

theorem plain (h : Holds ofItem collection items) (hplain : ∀ item ∈ items, (ofItem item).Plain) :
    ∀ c ∈ collection, c.Plain := by
  rcases h with rfl | ⟨rfl, -⟩
  · rintro c ⟨⟩
    refine .array fun entry hentry => ?_
    obtain ⟨item, hitem, rfl⟩ := List.mem_map.1 hentry
    exact hplain item hitem
  · rintro c ⟨⟩

/-- What is read back behind the parser, if each item is read back. -/
theorem getItems_normal (h : Holds ofItem collection items) (hread : ∀ item ∈ items, read (ofItem item).normal = item) :
    getItems read (collection.map CJson.normal) = some items := by
  rcases h with rfl | ⟨rfl, rfl⟩
  · rw [Option.map_some, CJson.normal, CJson.normalItems_eq_map, getItems_array, List.map_map, List.map_map]
    exact congrArg some ((List.map_congr_left hread).trans items.map_id)
  · rfl

end Holds

/-! ### Validation -/

section validate

variable {κ : Type*} [DecidableEq κ] {check : CJson → Except IvpErrorNumber κ} {format duplicate : IvpErrorNumber}

theorem validateItems_spec (hcheck : ∀ item, check item ≠ .error IvpError_none) (hduplicate : duplicate ≠ IvpError_none)
    {keys : List κ} {child : List CJson} (h : (validateItems check duplicate keys child).error = IvpError_none) :
    ∀ item ∈ child, ∃ key, check item = .ok key := by
  induction child generalizing keys with
  | nil => exact fun item hitem => absurd hitem List.not_mem_nil
  | cons item child ih =>
    rw [validateItems] at h
    cases hitem : check item with
    | error error =>
      rw [hitem] at h
      have herror : error = IvpError_none := h
      exact absurd (herror ▸ hitem) (hcheck item)
    | ok key =>
      rw [hitem] at h
      dsimp only at h
      split_ifs at h with hkey
      · exact absurd h hduplicate
      · exact List.forall_mem_cons.2 ⟨⟨key, hitem⟩, ih h⟩

/-- What a collection without an error is: an array in which the fields of every item are right. -/
theorem validate_spec (hcheck : ∀ item, check item ≠ .error IvpError_none) (hformat : format ≠ IvpError_none)
    (hduplicate : duplicate ≠ IvpError_none) (h : (validate check format duplicate collection).error = IvpError_none) :
    ∀ c ∈ collection, ∃ child, c = .array child ∧ ∀ item ∈ child, ∃ key, check item = .ok key := by
  rintro c ⟨⟩
  rw [validate] at h
  split_ifs at h with harray
  · cases c with
    | array child => exact ⟨child, rfl, validateItems_spec hcheck hduplicate h⟩
    | _ => nomatch harray
  · exact absurd h hformat

end validate

end V2xHub.Collection
