import V2xHub.ApiMessages.Config
import V2xHub.Connection.Handlers
import V2xHub.PluginClient.Configuration

/-!
# The collections of a plugin

Where a plugin keeps its configuration: the collection of the manifest and `_sysConfig` are trees of JSON in which the items of a
message are looked up one by one (`ivp_onMessageReceived`, `OnConfigChanged`). They do what the maps of `PluginConfig` do
(`collections_refine`), from the text of a message on.

The calls of `OnConfigChanged` are kept beside the collections. The lock is held over a whole message.
-/

namespace V2xHub

open PluginClient (Manifest PluginConfig ConfigMessage)

/-! ### Members that change -/

namespace CJson

/-- `cJSON_AddItemToObject`. What is no object has no member to be looked up and is not added to. -/
def addItemToObject (root : CJson) (name : Str) (item : CJson) : CJson :=
  match root with
  | object child => object (child ++ [(name, item)])
  | _ => root

def replaceMember (name : Str) (newitem : CJson) : List (Str × CJson) → List (Str × CJson)
  | [] => []
  | m :: child => if strcasecmp m.1 name = 0 then (name, newitem) :: child else m :: replaceMember name newitem child

/-- `cJSON_ReplaceItemInObject`: the first member with the name, which takes over the spelling as well. -/
def replaceItemInObject (root : CJson) (name : Str) (newitem : CJson) : CJson :=
  match root with
  | object child => object (replaceMember name newitem child)
  | _ => root

variable {root item : CJson} {child : List (Str × CJson)} {name other : Str}

theorem exists_object (h : root.getObjectItem name = some item) : ∃ child, root = object child := by
  cases root with
  | object child => exact ⟨child, rfl⟩
  | _ => nomatch h

theorem getObjectItem_add_of_some (h : root.getObjectItem other = some item) (newitem : CJson) :
    (root.addItemToObject name newitem).getObjectItem other = some item := by
  obtain ⟨child, rfl⟩ := exists_object h
  obtain ⟨m, hm, rfl⟩ := Option.map_eq_some_iff.1 h
  simp only [addItemToObject, getObjectItem, List.find?_append, hm, Option.some_or, Option.map_some]

theorem getObjectItem_add_self (h : (object child).getObjectItem name = none) (newitem : CJson) :
    ((object child).addItemToObject name newitem).getObjectItem name = some newitem := by
  have hnone := Option.map_eq_none_iff.1 h
  simp [addItemToObject, getObjectItem, List.find?_append, hnone]

theorem getObjectItem_replace_self (h : root.getObjectItem name = some item) (newitem : CJson) :
    (root.replaceItemInObject name newitem).getObjectItem name = some newitem := by
  obtain ⟨child, rfl⟩ := exists_object h
  induction child with
  | nil => nomatch h
  | cons m child ih =>
    by_cases hm : strcasecmp m.1 name = 0
    · simp [replaceItemInObject, replaceMember, getObjectItem, hm]
    · simp only [getObjectItem, replaceItemInObject, replaceMember, List.find?_cons, hm, if_false, decide_false] at ih h ⊢
      exact ih h

/-- A name that is not the replaced one to any spelling of it is looked up as before. -/
theorem getObjectItem_replace_of_ne (hne : ∀ n, strcasecmp n name = 0 → strcasecmp n other ≠ 0) (newitem : CJson) :
    (root.replaceItemInObject name newitem).getObjectItem other = root.getObjectItem other := by
  cases root with
  | object child =>
    induction child with
    | nil => rfl
    | cons m child ih =>
      have hself : strcasecmp name other ≠ 0 := hne name (strcasecmp_self name)
      by_cases hm : strcasecmp m.1 name = 0
      · simp [replaceItemInObject, replaceMember, getObjectItem, hm, hself, hne m.1 hm]
      · simp only [replaceItemInObject, replaceMember, getObjectItem, List.find?_cons, hm, if_false] at ih ⊢
        split
        · rfl
        · exact ih
  | _ => rfl

/-- Two names whose first letters differ are not spellings of each other. -/
theorem strcasecmp_of_head {c d : UInt8} {s t : Str} (hc : CString.tolower c ≠ 0) (hcd : CString.tolower c ≠ CString.tolower d)
    (n : Str) (h : strcasecmp n (c :: s) = 0) : strcasecmp n (d :: t) ≠ 0 := by
  have heq : ∀ a b : UInt8, ((a.toNat : Int) - b.toNat = 0) → a = b := fun a b hab => UInt8.toNat_inj.1 (by omega)
  cases n with
  | nil =>
    rw [strcasecmp] at h
    exact absurd (UInt8.toNat_inj.1 (by simpa using h)) hc
  | cons x n =>
    rw [strcasecmp] at h ⊢
    have hx : CString.tolower x = CString.tolower c := by
      by_contra hx
      rw [if_neg hx] at h
      exact hx (heq _ _ h)
    rw [hx, if_neg hcd]
    exact fun h => hcd (heq _ _ h)

end CJson

/-! ### The collections -/

namespace IvpConfig

/-- The value of the item with the key, unless it has it already. -/
def updateItem (value : Str) (item : CJson) : CJson :=
  match item.getObjectItem valueField with
  | none => item.addItemToObject valueField (.string value)
  | some existingItem =>
    if existingItem.stringValue? = some value then item else item.replaceItemInObject valueField (.string value)

/-- The loop up to the first item with the key; `none` where an assertion fails. -/
def updateItems (key value : Str) : List CJson → Option (List CJson)
  | [] => some []
  | item :: items =>
    match item.tryGetStr keyField with
    | none => none
    | some keyString =>
      if key = keyString then some (updateItem value item :: items) else (updateItems key value items).map (item :: ·)

/-- The collection afterwards, and what is returned: always 1. Without a collection nothing is done. -/
def updateValueInCollection (collection : Option CJson) (key value : Str) : Option (Option CJson × Bool) :=
  match collection with
  | none => some (none, true)
  | some (.array child) => (updateItems key value child).map fun child => (some (.array child), true)
  | some _ => none

def copyOfValue (key : Str) : List CJson → Option (Option Str)
  | [] => some none
  | item :: items =>
    match item.tryGetStr keyField with
    | none => none
    | some keyString =>
      if keyString ≠ key then copyOfValue key items
      else match item.getObjectItem valueField with
        | some value => value.stringValue?.map some
        | none => (item.tryGetStr defaultField).map some

/-- The inner option is the result, the outer one the assertions. -/
def getCopyOfValueFromCollection (collection : Option CJson) (key : Str) : Option (Option Str) :=
  match collection with
  | some (.array child) => copyOfValue key child
  | _ => none

/-- A collection is only asked where there is one. -/
def valueIn (collection : Option CJson) (key : Str) : Option (Option Str) :=
  match collection with
  | some c => getCopyOfValueFromCollection (some c) key
  | none => some none

/-- What a collection is, item by item: a key, the value if it has been set, and the default. -/
structure Entry where
  key : Str
  value : Option Str
  defaultValue : Str

namespace Entry

def current (e : Entry) : Str := e.value.getD e.defaultValue

/-- Entries in which the value of the first one with the key is set. -/
def put (key value : Str) : List Entry → List Entry
  | [] => []
  | e :: entries => if key = e.key then { e with value := some value } :: entries else e :: put key value entries

/-- The value that is read for the key. -/
def get (entries : List Entry) (key : Str) : Option Str := (entries.find? fun e => e.key = key).map current

end Entry

def Reads (e : Entry) (item : CJson) : Prop :=
  item.tryGetStr keyField = some e.key ∧ item.getObjectItem valueField = e.value.map .string ∧
    item.tryGetStr defaultField = some e.defaultValue

/-- A collection without entries may not have been created. -/
def Lists (entries : List Entry) (collection : Option CJson) : Prop :=
  (∃ child, collection = some (.array child) ∧ List.Forall₂ Reads entries child) ∨ collection = none ∧ entries = []

variable {e : Entry} {entries : List Entry} {item : CJson} {child : List CJson} {collection : Option CJson} {key value : Str}

theorem Reads.updateItem (h : Reads e item) (value : Str) : Reads { e with value := some value } (updateItem value item) := by
  obtain ⟨hkey, hvalue, hdefault⟩ := h
  have hkeep : ∀ name, (∀ n, CJson.strcasecmp n valueField = 0 → CJson.strcasecmp n name ≠ 0) →
      ∀ s, item.tryGetStr name = some s → (IvpConfig.updateItem value item).tryGetStr name = some s := by
    intro name hne s hs
    obtain ⟨member, hmember, hstring⟩ := Option.bind_eq_some_iff.1 hs
    rw [CJson.tryGetStr, IvpConfig.updateItem]
    split
    · rw [CJson.getObjectItem_add_of_some hmember]
      exact hstring
    · split_ifs
      · exact hs
      · rw [CJson.getObjectItem_replace_of_ne hne]
        exact hs
  refine ⟨hkeep keyField (CJson.strcasecmp_of_head (by decide) (by decide)) _ hkey, ?_,
    hkeep defaultField (CJson.strcasecmp_of_head (by decide) (by decide)) _ hdefault⟩
  obtain ⟨member, hmember, -⟩ := Option.bind_eq_some_iff.1 hkey
  obtain ⟨members, rfl⟩ := CJson.exists_object hmember
  rw [IvpConfig.updateItem, hvalue]
  cases hset : e.value with
  | none =>
    rw [hset] at hvalue
    exact CJson.getObjectItem_add_self hvalue _
  | some old =>
    rw [hset] at hvalue
    rw [Option.map_some]
    dsimp only
    by_cases heq : (CJson.string old).stringValue? = some value
    · rw [if_pos heq, hvalue, Option.some.inj heq, Option.map_some]
    · rw [if_neg heq]
      exact CJson.getObjectItem_replace_self hvalue _

theorem updateItems_reads (h : List.Forall₂ Reads entries child) (key value : Str) :
    ∃ child', updateItems key value child = some child' ∧ List.Forall₂ Reads (Entry.put key value entries) child' := by
  induction h with
  | nil => exact ⟨[], rfl, .nil⟩
  | @cons e item entries child he hentries ih =>
    rw [updateItems, he.1, Entry.put]
    dsimp only
    split_ifs with hkey
    · exact ⟨_, rfl, .cons (he.updateItem value) hentries⟩
    · obtain ⟨child', hchild, hreads⟩ := ih
      exact ⟨item :: child', by rw [hchild, Option.map_some], .cons he hreads⟩

theorem Lists.update (h : Lists entries collection) (key value : Str) :
    ∃ collection', updateValueInCollection collection key value = some (collection', true) ∧
      Lists (Entry.put key value entries) collection' := by
  rcases h with ⟨child, rfl, hchild⟩ | ⟨rfl, rfl⟩
  · obtain ⟨child', hupdate, hreads⟩ := updateItems_reads hchild key value
    exact ⟨some (.array child'), by rw [updateValueInCollection, hupdate, Option.map_some], Or.inl ⟨child', rfl, hreads⟩⟩
  · exact ⟨none, rfl, Or.inr ⟨rfl, rfl⟩⟩

theorem copyOfValue_reads (h : List.Forall₂ Reads entries child) (key : Str) :
    copyOfValue key child = some (Entry.get entries key) := by
  induction h with
  | nil => rfl
  | @cons e item entries child he hentries ih =>
    obtain ⟨hkey, hvalue, hdefault⟩ := he
    rw [copyOfValue, hkey]
    dsimp only
    by_cases heq : e.key = key
    · rw [if_neg (not_not.2 heq), hvalue, hdefault, Entry.get, List.find?_cons_of_pos (by simpa using heq), Option.map_some]
      cases hset : e.value <;> simp [Entry.current, hset, CJson.stringValue?]
    · rw [if_pos heq, ih, Entry.get, Entry.get, List.find?_cons_of_neg (by simpa using heq)]

/-- The value of a key is that of its first entry. -/
theorem Lists.get (h : Lists entries collection) (key : Str) : valueIn collection key = some (Entry.get entries key) := by
  rcases h with ⟨child, rfl, hchild⟩ | ⟨rfl, rfl⟩
  · exact copyOfValue_reads hchild key
  · rfl

theorem Lists.add (h : Lists entries collection) (key value defaultValue : Str) :
    ∃ c, addItemToCollection collection key (some value) (some defaultValue) = some c ∧
      Lists (entries ++ [⟨key, some value, defaultValue⟩]) (some c) := by
  have hreads : Reads ⟨key, some value, defaultValue⟩ (ofItem ⟨some key, some value, some defaultValue, none⟩) := by
    refine ⟨CJson.tryGetStr_objectOf distinct_itemFields (by simp [itemFields]),
      CJson.getObjectItem_objectOf distinct_itemFields (by simp [itemFields]),
      CJson.tryGetStr_objectOf distinct_itemFields (by simp [itemFields])⟩
  rcases h with ⟨child, rfl, hchild⟩ | ⟨rfl, rfl⟩
  · exact ⟨_, rfl, Or.inl ⟨_, rfl, List.rel_append hchild (.cons hreads .nil)⟩⟩
  · exact ⟨_, rfl, Or.inl ⟨_, rfl, .cons hreads .nil⟩⟩

namespace Entry

theorem map_put (key value : Str) (entries : List Entry) :
    (put key value entries).map (fun e => (e.key, e.defaultValue)) = entries.map fun e => (e.key, e.defaultValue) := by
  induction entries with
  | nil => rfl
  | cons e entries ih =>
    rw [put]
    split_ifs
    · rfl
    · rw [List.map_cons, ih, List.map_cons]

theorem get_put (k : Str) :
    get (put key value entries) k = if k = key ∧ (get entries k).isSome then some value else get entries k := by
  induction entries with
  | nil => simp [put, get]
  | cons e entries ih =>
    by_cases hkey : key = e.key
    · subst hkey
      by_cases hk : k = e.key
      · subst hk
        simp [put, get, current]
      · simp [put, get, Ne.symm hk, hk]
    · by_cases hk : e.key = k
      · subst hk
        simp [put, get, hkey, Ne.symm hkey]
      · rw [put, if_neg hkey, get, List.find?_cons_of_neg (by simpa using hk), ← get, ih]
        simp [get, hk]

theorem get_append (k : Str) (defaultValue : Str) :
    get (entries ++ [⟨key, some value, defaultValue⟩]) k = (get entries k).or (if k = key then some value else none) := by
  rw [get, List.find?_append, Option.map_or, ← get]
  by_cases hk : k = key
  · subst hk
    simp [current]
  · simp [hk, Ne.symm hk]

end Entry

end IvpConfig

namespace PluginClient

open IvpConfig (Entry Lists valueIn)

/-! ### The plugin -/

/-- `_plugin->config` and `_sysConfig`, and the calls of `OnConfigChanged`. -/
structure Collections where
  config : Option CJson
  sysConfig : Option CJson
  changed : List (Str × Str)

namespace Collections

/-- What the manifest does not have is taken for a system parameter (`SetSystemConfigValue`). -/
def onConfigChanged (p : Collections) (key value : Str) : Option Collections := do
  let p := { p with changed := p.changed ++ [(key, value)] }
  let results ← valueIn p.sysConfig key
  if results.isSome then
    let (sysConfig, _) ← IvpConfig.updateValueInCollection p.sysConfig key value
    return { p with sysConfig := sysConfig }
  let results ← valueIn p.config key
  if results.isSome then return p
  let sysConfig ← IvpConfig.addItemToCollection p.sysConfig key (some value) (some value)
  return { p with sysConfig := some sysConfig }

/-- One round of the loop in `ivp_onMessageReceived`; the callback reaches the object of the plugin once it is attached. -/
def onConfigItem (attached : Bool) (p : Collections) (item : IvpConfigItem) : Option Collections := do
  let key ← item.key
  match item.value with
  | none => return p
  | some value =>
    let (config, updated) ← IvpConfig.updateValueInCollection p.config key value
    let p := { p with config := config }
    if updated && attached then p.onConfigChanged key value else return p

def onMessageReceived (attached : Bool) (p : Collections) (msg : IvpMessage) : Option Collections :=
  if msg.isErrMsg then some p
  else if msg.isConfigMsg then do
    let items ← Collection.getItems IvpConfig.readItem msg.payload
    items.foldlM (onConfigItem attached) p
  else some p

/-- The text that arrives; what is no message is dropped. -/
def receive (libc : Libc) (attached : Bool) (p : Collections) (text : Str) : Option Collections :=
  match IvpMessage.parse libc text with
  | some msg => p.onMessageReceived attached msg
  | none => some p

/-- The text that `GetConfigValue` converts. The key is not empty. -/
def getConfigValue (p : Collections) (key : Str) : Option (Option Str) := do
  if key = [] then failure
  match ← valueIn p.config key with
  | some text => return some text
  | none => valueIn p.sysConfig key

end Collections

/-- The value that comes last with the key. -/
def messageOf (items : List (Str × Str)) : ConfigMessage := fun key => items.reverse.lookup key

/-- What the core puts into its messages. -/
def itemOf (item : Str × Str) : IvpConfigItem := ⟨some item.1, some item.2, none, none⟩

/-- The keys and defaults of a manifest. -/
def parameters (collection : Option CJson) : List (Str × Str) :=
  (collection.elim [] CJson.items).map fun item =>
    ((item.tryGetStr IvpConfig.keyField).getD [], (item.tryGetStr IvpConfig.defaultField).getD [])

variable {m : Manifest} {p : Collections} {q : PluginConfig} {attached : Bool} {key value : Str}

theorem messageOf_append (items items' : List (Str × Str)) (k : Str) :
    messageOf (items ++ items') k = (messageOf items' k).or (messageOf items k) := by
  rw [messageOf, List.reverse_append, List.lookup_append]
  rfl

theorem messageOf_singleton (k : Str) : messageOf [(key, value)] k = if k = key then some value else none := by
  by_cases hk : k = key
  · subst hk
    simp [messageOf]
  · have hbeq : (k == key) = false := by simpa using hk
    simp [messageOf, hbeq, hk]

/-- Two messages one after the other are one message in which the values of the second come first. -/
theorem onMessageReceived_twice (msg msg' : ConfigMessage) :
    (q.onMessageReceived m attached msg).onMessageReceived m attached msg' =
      q.onMessageReceived m attached fun k => (msg' k).or (msg k) := by
  rw [PluginConfig.onMessageReceived, PluginConfig.onMessageReceived, PluginConfig.onMessageReceived, PluginConfig.mk.injEq]
  refine ⟨?_, ?_, ?_⟩
  · funext k
    by_cases hdefault : (m.default k).isSome <;> simp [hdefault, Option.or_assoc]
  · funext k
    dsimp only
    by_cases hsystem : attached ∧ ((q.sysConfig k).isSome ∨ (m.default k).isNone)
    · have hset : ((msg k).or (q.sysConfig k)).isSome ∨ (m.default k).isNone := by
        rcases hsystem.2 with hsome | hnone
        · exact .inl (by simp [hsome])
        · exact .inr hnone
      simp only [if_pos hsystem, if_pos (And.intro hsystem.1 hset), Option.or_assoc]
    · simp only [if_neg hsystem]
  · funext k
    cases attached <;> simp [Option.or_assoc]

/-! ### The collections as maps -/

/-- The collections have the values of the maps. -/
structure Represents (m : Manifest) (p : Collections) (q : PluginConfig) : Prop where
  config : ∃ entries, Lists entries p.config ∧ entries.map (fun e => (e.key, e.defaultValue)) = m.configuration ∧
    ∀ k, Entry.get entries k = (m.default k).map fun d => (q.config k).getD d
  sysConfig : ∃ entries, Lists entries p.sysConfig ∧ ∀ k, Entry.get entries k = q.sysConfig k
  changed : ∀ k, messageOf p.changed k = q.told k

namespace Represents

theorem valueIn_config (h : Represents m p q) (k : Str) :
    valueIn p.config k = some ((m.default k).map fun d => (q.config k).getD d) := by
  obtain ⟨entries, hlists, -, hget⟩ := h.config
  rw [hlists.get, hget]

theorem valueIn_sysConfig (h : Represents m p q) (k : Str) : valueIn p.sysConfig k = some (q.sysConfig k) := by
  obtain ⟨entries, hlists, hget⟩ := h.sysConfig
  rw [hlists.get, hget]

theorem getConfigValue (h : Represents m p q) (hkey : key ≠ []) :
    p.getConfigValue key = some (q.getConfigValue m key) := by
  rw [Collections.getConfigValue, PluginConfig.getConfigValue, if_neg hkey, if_neg hkey, h.valueIn_config,
    h.valueIn_sysConfig]
  cases m.default key <;> rfl

/-- One call of `OnConfigChanged`; the manifest's collection has the value already. -/
theorem onConfigChanged (h : Represents m p (q.onMessageReceived m false (messageOf [(key, value)]))) :
    ∃ p', p.onConfigChanged key value = some p' ∧ Represents m p' (q.onMessageReceived m true (messageOf [(key, value)])) := by
  obtain ⟨entries, hlists, hget⟩ := h.sysConfig
  have hold : ∀ k, Entry.get entries k = q.sysConfig k := fun k => by rw [hget]; simp [PluginConfig.onMessageReceived]
  have hchanged : ∀ k, messageOf (p.changed ++ [(key, value)]) k =
      (q.onMessageReceived m true (messageOf [(key, value)])).told k := by
    intro k
    rw [messageOf_append, h.changed]
    simp [PluginConfig.onMessageReceived]
  rw [Collections.onConfigChanged]
  simp only [hlists.get, hold, Option.bind_eq_bind, Option.bind_some]
  cases hsystem : q.sysConfig key with
  | some old =>
    obtain ⟨sysConfig, hupdate, hlists'⟩ := hlists.update key value
    refine ⟨⟨p.config, sysConfig, p.changed ++ [(key, value)]⟩, by simp [hupdate], h.config, ⟨_, hlists', fun k => ?_⟩, hchanged⟩
    rw [Entry.get_put, hold]
    by_cases hk : k = key
    · subst hk
      simp [PluginConfig.onMessageReceived, messageOf_singleton, hsystem]
    · simp [PluginConfig.onMessageReceived, messageOf_singleton, hk]
  | none =>
    cases hdefault : m.default key with
    | some defaultValue =>
      refine ⟨⟨p.config, p.sysConfig, p.changed ++ [(key, value)]⟩, ?_, h.config, ⟨entries, hlists, fun k => ?_⟩, hchanged⟩
      · simp [h.valueIn_config, hdefault]
      · rw [hold]
        by_cases hk : k = key
        · subst hk
          simp [PluginConfig.onMessageReceived, hsystem, hdefault]
        · simp [PluginConfig.onMessageReceived, messageOf_singleton, hk]
    | none =>
      obtain ⟨c, hadd, hlists'⟩ := hlists.add key value value
      refine ⟨⟨p.config, some c, p.changed ++ [(key, value)]⟩, ?_, h.config, ⟨_, hlists', fun k => ?_⟩, hchanged⟩
      · simp [h.valueIn_config, hdefault, hadd]
      · rw [Entry.get_append, hold]
        by_cases hk : k = key
        · subst hk
          simp [PluginConfig.onMessageReceived, messageOf_singleton, hsystem, hdefault]
        · simp [PluginConfig.onMessageReceived, messageOf_singleton, hk]

/-- One item of a message. -/
theorem onConfigItem (h : Represents m p q) (attached : Bool) (key value : Str) :
    ∃ p', Collections.onConfigItem attached p (itemOf (key, value)) = some p' ∧
      Represents m p' (q.onMessageReceived m attached (messageOf [(key, value)])) := by
  obtain ⟨entries, hlists, hmanifest, hget⟩ := h.config
  obtain ⟨config, hupdate, hlists'⟩ := hlists.update key value
  have hstored : Represents m ⟨config, p.sysConfig, p.changed⟩ (q.onMessageReceived m false (messageOf [(key, value)])) := by
    refine ⟨⟨_, hlists', (Entry.map_put key value entries).trans hmanifest, fun k => ?_⟩, ?_, ?_⟩
    · rw [Entry.get_put, hget]
      by_cases hk : k = key
      · subst hk
        cases hdefault : m.default k <;> simp [PluginConfig.onMessageReceived, messageOf_singleton, hdefault]
      · cases hdefault : m.default k <;> simp [PluginConfig.onMessageReceived, messageOf_singleton, hk, hdefault]
    · simpa [PluginConfig.onMessageReceived] using h.sysConfig
    · simpa [PluginConfig.onMessageReceived] using h.changed
  rw [Collections.onConfigItem, itemOf]
  simp only [hupdate, Option.bind_eq_bind, Option.bind_some, Bool.true_and]
  cases attached with
  | false => exact ⟨_, rfl, hstored⟩
  | true => exact hstored.onConfigChanged

/-- The items of a message one after the other. -/
theorem onConfigItems (h : Represents m p q) (attached : Bool) (items : List (Str × Str)) :
    ∃ p', (items.map itemOf).foldlM (Collections.onConfigItem attached) p = some p' ∧
      Represents m p' (q.onMessageReceived m attached (messageOf items)) := by
  induction items generalizing p q with
  | nil =>
    refine ⟨p, rfl, ?_⟩
    have hq : q.onMessageReceived m attached (messageOf []) = q := by
      rw [PluginConfig.onMessageReceived]
      simp [messageOf]
    rwa [hq]
  | cons item items ih =>
    obtain ⟨p', hitem, hp'⟩ := h.onConfigItem attached item.1 item.2
    obtain ⟨p'', hitems, hp''⟩ := ih hp'
    refine ⟨p'', ?_, ?_⟩
    · rw [List.map_cons, List.foldlM_cons, hitem]
      exact hitems
    · rw [onMessageReceived_twice] at hp''
      simpa only [← messageOf_append, List.singleton_append] using hp''

end Represents

/-! ### The messages of the core -/

/-- The answer to a registration, and `PluginConnection::onConfigChanged`. -/
inductive Sent where
  | answer (w : PluginConnection.World) (entries : List PluginConnection.PluginConfigurationParameterEntry)
  | changed (now : Nat) (key value : Str)

namespace Sent

def message : Sent → IvpMessage
  | answer w entries => PluginConnection.configAnswer w entries
  | changed now key value => IvpConfig.createMsg now (IvpConfig.addItemToCollection none key (some value) none)

/-- The same message as a map. -/
def configMessage : Sent → ConfigMessage
  | answer _ entries => ConfigState.initialMessage fun key =>
      (entries.find? fun e => e.key = key).map fun e => ⟨e.key, e.value, e.defaultValue⟩
  | changed _ key value => fun k => if k = key then some value else none

def now : Sent → Nat
  | answer w _ => w.now
  | changed now _ _ => now

def items : Sent → List (Str × Str)
  | answer _ entries => (entries.filter fun e => e.value ≠ e.defaultValue).map fun e => (e.key, e.value)
  | changed _ key value => [(key, value)]

/-- The entries come from a `map`, and the texts end with their first zero. -/
structure Proper (s : Sent) : Prop where
  now : s.now < 2 ^ 53
  nodup : ∀ w entries, s = answer w entries → (entries.map PluginConnection.PluginConfigurationParameterEntry.key).Nodup
  text : ∀ item ∈ s.items, 0 ∉ item.1 ∧ 0 ∉ item.2

variable {s : Sent}

theorem exists_message (s : Sent) : ∃ collection, s.message = IvpConfig.createMsg s.now collection ∧
    Collection.Holds IvpConfig.ofItem collection (s.items.map itemOf) := by
  have hfold : ∀ (items : List (Str × Str)) collection held, Collection.Holds IvpConfig.ofItem collection held →
      Collection.Holds IvpConfig.ofItem
        (items.foldl (fun collection item => IvpConfig.addItemToCollection collection item.1 (some item.2) none) collection)
        (held ++ items.map itemOf) := by
    intro items
    induction items with
    | nil => simp
    | cons item items ih =>
      intro collection held h
      obtain ⟨c, hc, hholds⟩ : ∃ c, IvpConfig.addItemToCollection collection item.1 (some item.2) none = some c ∧
          Collection.Holds IvpConfig.ofItem (some c) (held ++ [itemOf item]) :=
        IvpConfig.addItemToCollection_holds h (.inl rfl)
      rw [List.foldl_cons, hc, List.map_cons, ← List.singleton_append, ← List.append_assoc]
      exact ih _ _ hholds
  cases s with
  | answer w entries =>
    have h := hfold (items (answer w entries)) none [] (Or.inr ⟨rfl, rfl⟩)
    rw [items, List.foldl_map] at h
    exact ⟨_, rfl, h⟩
  | changed now key value => exact ⟨_, rfl, hfold [(key, value)] none [] (Or.inr ⟨rfl, rfl⟩)⟩

theorem messageOf_items (h : s.Proper) : messageOf s.items = s.configMessage := by
  funext k
  cases s with
  | changed now key value => exact messageOf_singleton k
  | answer w entries =>
    have hnodup := h.nodup w entries rfl
    clear h
    show messageOf ((entries.filter fun e => e.value ≠ e.defaultValue).map fun e => (e.key, e.value)) k = _
    rw [configMessage, ConfigState.initialMessage]
    induction entries with
    | nil => rfl
    | cons e entries ih =>
      rw [List.map_cons, List.nodup_cons] at hnodup
      obtain ⟨he, htail⟩ := hnodup
      have hfirst := ih htail
      by_cases hk : e.key = k
      · subst hk
        have hnone : entries.find? (fun e' => e'.key = e.key) = none := by
          rw [List.find?_eq_none]
          intro e' he' heq
          exact he (of_decide_eq_true heq ▸ List.mem_map_of_mem he')
        rw [hnone] at hfirst
        rw [List.find?_cons_of_pos (by simp), List.filter_cons]
        split_ifs with hvalue
        · rw [List.map_cons, ← List.singleton_append, messageOf_append, hfirst, messageOf_singleton]
          simpa using hvalue
        · rw [hfirst]
          simpa using hvalue
      · rw [List.find?_cons_of_neg (by simpa using hk), ← hfirst, List.filter_cons]
        split_ifs
        · rw [List.map_cons, ← List.singleton_append, messageOf_append, messageOf_singleton, if_neg (Ne.symm hk), Option.or_none]
        · rfl

theorem sendable (h : s.Proper) : s.message.Sendable := by
  obtain ⟨collection, hmessage, hholds⟩ := s.exists_message
  rw [hmessage]
  refine IvpMessage.sendable_create h.now (by decide) (by decide) (hholds.plain fun item hitem => ?_)
  obtain ⟨pair, hpair, rfl⟩ := List.mem_map.1 hitem
  refine IvpConfig.plain_ofItem ?_ ?_ (by simp [itemOf]) (by simp [itemOf])
  · rintro s ⟨⟩
    exact (h.text pair hpair).1
  · rintro s ⟨⟩
    exact (h.text pair hpair).2

end Sent

/-- A message of the core, from its text to the maps. -/
theorem Represents.receive {s : Sent} (h : Represents m p q) (hs : s.Proper) (libc : Libc) (attached : Bool) :
    ∃ p', p.receive libc attached (s.message.createJsonString false) = some p' ∧
      Represents m p' (q.onMessageReceived m attached s.configMessage) := by
  obtain ⟨p', hitems, hp'⟩ := h.onConfigItems attached s.items
  refine ⟨p', ?_, Sent.messageOf_items hs ▸ hp'⟩
  obtain ⟨collection, hmessage, hholds⟩ := s.exists_message
  rw [Collections.receive, (Sent.sendable hs).parse_eq false, hmessage]
  have hread : Collection.getItems IvpConfig.readItem (IvpConfig.createMsg s.now collection).normal.payload =
      some (s.items.map itemOf) := hholds.getItems_normal fun item _ => IvpConfig.readItem_normal
  have herror : (IvpConfig.createMsg s.now collection).normal.isErrMsg = false :=
    decide_eq_false (show some IVPMSG_TYPE_APIRESV_CONFIG ≠ some IVPMSG_TYPE_APIRESV_ERROR by decide)
  have hconfig : (IvpConfig.createMsg s.now collection).normal.isConfigMsg = true :=
    decide_eq_true (show some IVPMSG_TYPE_APIRESV_CONFIG = some IVPMSG_TYPE_APIRESV_CONFIG from rfl)
  dsimp only
  rw [Collections.onMessageReceived, herror, hconfig, hread]
  exact hitems

/-! ### The manifest -/

theorem nodup_of_validate {κ : Type*} [DecidableEq κ] {check : CJson → Except IvpErrorNumber κ} {duplicate : IvpErrorNumber}
    {keys : List κ} (child : List CJson) (hcheck : ∀ item, check item ≠ .error IvpError_none) (hduplicate : duplicate ≠ IvpError_none)
    (hkeys : keys.Nodup) (h : (Collection.validateItems check duplicate keys child).error = IvpError_none) :
    ∃ ks, List.Forall₂ (fun item k => check item = .ok k) child ks ∧ (keys ++ ks).Nodup := by
  induction child generalizing keys with
  | nil => exact ⟨[], .nil, by simpa using hkeys⟩
  | cons item child ih =>
    rw [Collection.validateItems] at h
    cases hitem : check item with
    | error error =>
      rw [hitem] at h
      have herror : error = IvpError_none := h
      exact absurd (herror ▸ hitem) (hcheck item)
    | ok key =>
      rw [hitem] at h
      dsimp only at h
      split_ifs at h with hkey
      · exact absurd h hduplicate
      · obtain ⟨ks, hks, hnodup⟩ := ih (List.nodup_append.2 ⟨hkeys, List.nodup_singleton key, by
          rintro k hk _ hmem rfl
          exact hkey (List.mem_singleton.1 hmem ▸ hk)⟩) h
        exact ⟨key :: ks, .cons hitem hks, by simpa using hnodup⟩

theorem exists_entries {child : List CJson} {keys : List Str}
    (hkeys : List.Forall₂ (fun item key => IvpConfig.checkItem item = .ok key) child keys)
    (hfresh : ∀ item ∈ child, item.getObjectItem IvpConfig.valueField = none) :
    ∃ entries : List Entry, List.Forall₂ IvpConfig.Reads entries child ∧
      entries.map (fun e => (e.key, e.defaultValue)) = parameters (some (.array child)) ∧ entries.map Entry.key = keys ∧
      ∀ e ∈ entries, e.value = none := by
  induction hkeys with
  | nil => exact ⟨[], .nil, rfl, rfl, by simp⟩
  | @cons item key child keys hitem hkeys ih =>
    obtain ⟨entries, hreads, hparameters, hentries, hvalues⟩ := ih fun i hi => hfresh i (List.mem_cons_of_mem item hi)
    rw [IvpConfig.checkItem] at hitem
    split at hitem
    · cases hitem
    · rename_i k hk
      split_ifs at hitem with hdefault
      obtain rfl := Except.ok.inj hitem
      obtain ⟨d, hd⟩ := Option.ne_none_iff_exists'.1 (by simpa using hdefault)
      have hread : IvpConfig.Reads ⟨k, none, d⟩ item := ⟨hk, hfresh item (List.mem_cons_self ..), hd⟩
      refine ⟨⟨k, none, d⟩ :: entries, .cons hread hreads, ?_, by rw [List.map_cons, hentries], List.forall_mem_cons.2 ⟨rfl, hvalues⟩⟩
      rw [List.map_cons, hparameters]
      simp [parameters, CJson.items, hk, hd]

theorem get_of_fresh {entries : List Entry} (h : ∀ e ∈ entries, e.value = none) (k : Str) :
    Entry.get entries k = (entries.map fun e => (e.key, e.defaultValue)).lookup k := by
  induction entries with
  | nil => rfl
  | cons e entries ih =>
    obtain ⟨he, htail⟩ := List.forall_mem_cons.1 h
    by_cases hk : e.key = k
    · subst hk
      simp [Entry.get, Entry.current, he]
    · have hbeq : (k == e.key) = false := by simpa using Ne.symm hk
      rw [Entry.get, List.find?_cons_of_neg (by simpa using hk), ← Entry.get, ih htail]
      rw [List.map_cons, List.lookup_cons, hbeq]

/-- A collection that is accepted, without values, is a manifest of which nothing has been set. -/
theorem exists_manifest {c : Option CJson} (hvalid : (IvpConfig.validate c).error = IvpError_none)
    (hfresh : ∀ child, c = some (.array child) → ∀ item ∈ child, item.getObjectItem IvpConfig.valueField = none) :
    ∃ m : Manifest, m.configuration = parameters c ∧ Represents m ⟨c, none, []⟩ .init := by
  have hsystem : ∃ entries, Lists entries none ∧ ∀ k, Entry.get entries k = PluginConfig.init.sysConfig k :=
    ⟨[], Or.inr ⟨rfl, rfl⟩, fun _ => rfl⟩
  cases c with
  | none => exact ⟨⟨[], List.nodup_nil⟩, rfl, ⟨[], Or.inr ⟨rfl, rfl⟩, rfl, fun _ => rfl⟩, hsystem, fun _ => rfl⟩
  | some c =>
    obtain ⟨child, rfl, -⟩ := IvpConfig.validate_spec hvalid c rfl
    have hcheck : ∀ item, IvpConfig.checkItem item ≠ .error IvpError_none := by
      intro item h
      rw [IvpConfig.checkItem] at h
      split at h
      · exact absurd (Except.error.inj h) (by decide)
      · split_ifs at h <;> exact absurd (Except.error.inj h) (by decide)
    obtain ⟨keys, hkeys, hnodup⟩ := nodup_of_validate child hcheck (by decide) List.nodup_nil hvalid
    obtain ⟨entries, hreads, hparameters, hentries, hvalues⟩ := exists_entries hkeys (hfresh child rfl)
    have hfst : (parameters (some (.array child))).map Prod.fst = keys := by
      rw [← hparameters, List.map_map, ← hentries]
      rfl
    refine ⟨⟨parameters (some (.array child)), by rw [hfst]; simpa using hnodup⟩, rfl,
      ⟨entries, Or.inl ⟨child, rfl, hreads⟩, hparameters, fun k => ?_⟩, hsystem, fun _ => rfl⟩
    rw [get_of_fresh hvalues, hparameters, Manifest.default]
    exact Option.map_id'.symm

/-- From a manifest that was accepted, whatever messages the core has sent and whenever the object of the plugin was attached,
no assertion fails and the plugin reads of its collections what the maps have that took the same messages, and `OnConfigChanged`
was last called with the same values. -/
theorem collections_refine (libc : Libc) {c : Option CJson} (hvalid : (IvpConfig.validate c).error = IvpError_none)
    (hfresh : ∀ child, c = some (.array child) → ∀ item ∈ child, item.getObjectItem IvpConfig.valueField = none) :
    ∃ m : Manifest, m.configuration = parameters c ∧
      ∀ sent : List (Bool × Sent), (∀ s ∈ sent, s.2.Proper) →
        let q := sent.foldl (fun q s => q.onMessageReceived m s.1 s.2.configMessage) PluginConfig.init
        ∃ p, sent.foldlM (fun p s => Collections.receive libc s.1 p (s.2.message.createJsonString false)) ⟨c, none, []⟩ = some p ∧
          (∀ key ≠ [], p.getConfigValue key = some (q.getConfigValue m key)) ∧ ∀ key, messageOf p.changed key = q.told key := by
  obtain ⟨m, hm, hinit⟩ := exists_manifest hvalid hfresh
  have hrun : ∀ (sent : List (Bool × Sent)) p q, (∀ s ∈ sent, s.2.Proper) → Represents m p q →
      ∃ p', sent.foldlM (fun p s => Collections.receive libc s.1 p (s.2.message.createJsonString false)) p = some p' ∧
        Represents m p' (sent.foldl (fun q s => q.onMessageReceived m s.1 s.2.configMessage) q) := by
    intro sent
    induction sent with
    | nil => exact fun p q _ h => ⟨p, rfl, h⟩
    | cons s sent ih =>
      intro p q hproper h
      obtain ⟨hs, htail⟩ := List.forall_mem_cons.1 hproper
      obtain ⟨p', hp', hrepresents⟩ := h.receive hs libc s.1
      obtain ⟨p'', hp'', hrepresents'⟩ := ih p' _ htail hrepresents
      exact ⟨p'', by rw [List.foldlM_cons, hp']; exact hp'', hrepresents'⟩
  refine ⟨m, hm, fun sent hsent => ?_⟩
  obtain ⟨p, hp, hrepresents⟩ := hrun sent _ _ hsent hinit
  exact ⟨p, hp, fun key hkey => hrepresents.getConfigValue hkey, hrepresents.changed⟩

/-- The manifest of a plugin with two parameters. -/
def speeds : Option CJson :=
  some (.array [IvpConfig.ofItem ⟨some (CString.lit "Low"), none, some (CString.lit "5"), none⟩,
    IvpConfig.ofItem ⟨some (CString.lit "High"), none, some (CString.lit "40"), some (CString.lit "mph")⟩])

/-- One value differs from its default at the registration; then another changes, and one that is not in the manifest. -/
def speedsSent : List (Bool × Sent) :=
  [(false, .answer ⟨0, 0, false, true, 1, [], true, true, true, true, true, none⟩
      [⟨CString.lit "High", CString.lit "40", CString.lit "40", []⟩, ⟨CString.lit "Low", CString.lit "10", CString.lit "5", []⟩]),
    (true, .changed 0 (CString.lit "High") (CString.lit "55")),
    (true, .changed 0 (CString.lit "TZ") (CString.lit "UTC"))]

theorem speedsSent_proper : ∀ s ∈ speedsSent, s.2.Proper := by
  simp only [speedsSent, List.forall_mem_cons, List.not_mem_nil, false_imp_iff, implies_true, and_true]
  refine ⟨⟨by decide, ?_, by decide⟩, ⟨by decide, ?_, by decide⟩, ⟨by decide, ?_, by decide⟩⟩
  · rintro w entries ⟨⟩
    decide
  · rintro w entries ⟨⟩
  · rintro w entries ⟨⟩

theorem collections_refine_speeds : ∃ p, speedsSent.foldlM (fun p s =>
      Collections.receive Libc.rounding s.1 p (s.2.message.createJsonString false)) ⟨speeds, none, []⟩ = some p ∧
    p.getConfigValue (CString.lit "Low") = some (some (CString.lit "10")) ∧
    p.getConfigValue (CString.lit "High") = some (some (CString.lit "55")) ∧
    p.getConfigValue (CString.lit "TZ") = some (some (CString.lit "UTC")) ∧
    messageOf p.changed (CString.lit "Low") = none := by
  have hfresh : ∀ child, speeds = some (.array child) → ∀ item ∈ child, item.getObjectItem IvpConfig.valueField = none := by
    rintro child ⟨⟩
    simp only [List.forall_mem_cons, List.not_mem_nil, false_imp_iff, implies_true, and_true]
    exact ⟨rfl, rfl⟩
  obtain ⟨m, hm, hrun⟩ := collections_refine Libc.rounding (c := speeds) (by decide) hfresh
  obtain ⟨p, hp, hvalue, htold⟩ := hrun speedsSent speedsSent_proper
  have hdefault : ∀ key, m.default key = (parameters speeds).lookup key := fun key => by rw [Manifest.default, hm]
  refine ⟨p, hp, ?_, ?_, ?_, ?_⟩
  · rw [hvalue _ (by decide)]
    simp only [PluginConfig.getConfigValue, hdefault, PluginConfig.onMessageReceived, speedsSent, List.foldl_cons, List.foldl_nil]
    decide
  · rw [hvalue _ (by decide)]
    simp only [PluginConfig.getConfigValue, hdefault, PluginConfig.onMessageReceived, speedsSent, List.foldl_cons, List.foldl_nil]
    decide
  · rw [hvalue _ (by decide)]
    simp only [PluginConfig.getConfigValue, hdefault, PluginConfig.onMessageReceived, speedsSent, List.foldl_cons, List.foldl_nil]
    decide
  · rw [htold]
    rfl

end PluginClient

end V2xHub
