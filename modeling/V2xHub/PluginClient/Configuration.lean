import V2xHub.IvpPlugin.Basic
import V2xHub.Lib.Collation
import V2xHub.Lib.CString

/-!
# Configuration

A value of a configuration parameter is in the database, in `mConfigValues` of the core and in the plugin, there in the
collection of the manifest or, for a key that the manifest does not have, in `_sysConfig`. The core sends the values of a
registered plugin that differ from their defaults, and from then on what its monitor finds changed. The steps of the thread that
registers, of the monitor and of the plugin are the events of one machine.

A configuration message is a map of keys to values. The core of another connection of the plugin plays no part: its messages do
not reach the plugin any more.
-/

namespace V2xHub.PluginClient

open IvpPlugin (IvpPluginState)

/-- The configuration of a manifest: keys with their defaults, each key once (`ivpConfig_validate`). -/
structure Manifest where
  configuration : List (Str × Str)
  nodup : (configuration.map Prod.fst).Nodup

def Manifest.default (m : Manifest) (key : Str) : Option Str := m.configuration.lookup key

/-- A row of `pluginConfigurationParameter`. -/
structure ConfigEntry where
  key : Str
  value : Str
  defaultValue : Str
deriving DecidableEq

/-- The rows of one `pluginId`, by the key of the unique index. -/
abbrev ConfigRows := List UInt8 → Option ConfigEntry

namespace ConfigRows

def Keyed (col : Collation) (rows : ConfigRows) : Prop := ∀ c entry, rows c = some entry → col.key entry.key = c

/-- The row with this spelling of the key. -/
def find (col : Collation) (rows : ConfigRows) (key : Str) : Option ConfigEntry := (rows (col.key key)).filter (·.key = key)

def put (col : Collation) (entry : ConfigEntry) (rows : ConfigRows) : ConfigRows :=
  Function.update rows (col.key entry.key) (some entry)

/-- `INSERT ... ON DUPLICATE KEY UPDATE defaultValue` for an entry of the manifest. -/
def insertDefault (col : Collation) (rows : ConfigRows) (item : Str × Str) : ConfigRows :=
  rows.put col (match rows (col.key item.1) with
    | some entry => { entry with defaultValue := item.2 }
    | none => ⟨item.1, item.2, item.2⟩)

/-- Rows of other keys than those of the entries are deleted. -/
def initializePluginConfigParameters (col : Collation) (entries : List (Str × Str)) (rows : ConfigRows) : ConfigRows := fun c =>
  if entries.any (col.key ·.1 = c) then entries.foldl (insertDefault col) rows c else none

end ConfigRows

/-- A configuration message: its keys and their values. -/
abbrev ConfigMessage := Str → Option Str

/-- The copies of the plugin: the values in the collection of the manifest and in `_sysConfig`; and the value that
`OnConfigChanged` was last called with. -/
structure PluginConfig where
  config : Str → Option Str
  sysConfig : Str → Option Str
  told : Str → Option Str

namespace PluginConfig

def init : PluginConfig := ⟨fun _ => none, fun _ => none, fun _ => none⟩

/-- `PluginClient::GetConfigValue`. -/
def getConfigValue (m : Manifest) (p : PluginConfig) (key : Str) : Option Str :=
  match if key = [] then none else m.default key with
  | some defaultValue => some ((p.config key).getD defaultValue)
  | none => p.sysConfig key

/-- `ivp_onMessageReceived` for a configuration message: `ivpConfig_updateValueInCollection` and, where the callbacks find the
object of the plugin, `OnConfigChanged`. -/
def onMessageReceived (m : Manifest) (attached : Bool) (msg : ConfigMessage) (p : PluginConfig) : PluginConfig where
  config key := if (m.default key).isSome then (msg key).or (p.config key) else p.config key
  sysConfig key :=
    if attached ∧ ((p.sysConfig key).isSome ∨ (m.default key).isNone) then (msg key).or (p.sysConfig key) else p.sysConfig key
  told key := if attached then (msg key).or (p.told key) else p.told key

end PluginConfig

/-- How far the registration of the connection is: `initialized` and `registered` follow the operations of `registerPlugin` on the
database, and `copied` has the copy from which the first message is made. -/
inductive Registration where
  | none
  | connected
  | initialized
  | registered
  | copied (configEntries : Str → Option ConfigEntry)
  | done

/-- The loop of `configMonitorThreadEntry`: it has read the database, or it holds the lock and compares. -/
inductive ConfigMonitor where
  | idle
  | read (configMap : Str → Option ConfigEntry)
  | comparing (configMap : Str → Option ConfigEntry)

structure ConfigState where
  state : IvpPluginState
  attached : Bool
  plugin : PluginConfig
  queue : List ConfigMessage
  registration : Registration
  mConfigValues : Str → Option ConfigEntry
  monitor : ConfigMonitor
  own : ConfigRows
  system : ConfigRows
  changed : Str → Bool

inductive ConfigEvent where
  | attach
  | connect
  | disconnect
  | initializeRows
  | read
  | copy
  | sendInitial
  | monitorRead
  | monitorLock
  | monitorCompare (key : Str)
  | monitorUnlock
  | deliver
  /-- A new value of one of the plugin's own keys, and one of a system-wide key. -/
  | changeOwn (key value : Str)
  | changeSystem (key value defaultValue : Str)

/-- A plugin and its core: the manifest, the collation of the database, what the database stores for a text that
`formatStringValue` writes into a statement (it leaves the backslashes to MySQL), and whether the plugin's own rows come behind
those of the system in a result. -/
structure ConfigSystem where
  manifest : Manifest
  collation : Collation
  stored : Str → Str
  ownLast : Bool

/-- The entries of the manifest as they are stored. -/
def ConfigSystem.entries (sys : ConfigSystem) : List (Str × Str) :=
  sys.manifest.configuration.map fun item => (sys.stored item.1, sys.stored item.2)

/-- The later row of a key replaces the other one in the map. -/
def ConfigSystem.getPluginConfigParameters (sys : ConfigSystem) (own system : ConfigRows) (key : Str) : Option ConfigEntry :=
  if sys.ownLast then (own.find sys.collation key).or (system.find sys.collation key)
  else (system.find sys.collation key).or (own.find sys.collation key)

namespace ConfigState

def init (own system : ConfigRows) : ConfigState where
  state := .disconnected
  attached := false
  plugin := .init
  queue := []
  registration := .none
  mConfigValues _ := none
  monitor := .idle
  own := own
  system := system
  changed _ := false

variable (sys : ConfigSystem)

def getPluginConfigParameters (s : ConfigState) (key : Str) : Option ConfigEntry :=
  sys.getPluginConfigParameters s.own s.system key

/-- The first message: the values that differ from their defaults. -/
def initialMessage (configEntries : Str → Option ConfigEntry) : ConfigMessage := fun key =>
  (configEntries key).bind fun entry => if entry.value ≠ entry.defaultValue then some entry.value else none

def onConfigChanged (key value : Str) (s : ConfigState) : ConfigState :=
  { s with queue := s.queue ++ [fun k => if k = key then some value else none] }

def setChanged (key : Str) (changes : Bool) (s : ConfigState) : ConfigState :=
  { s with changed := Function.update s.changed key (s.changed key || changes) }

/-- The monitor compares the entry of a key that it has read. -/
def compare (configMap : Str → Option ConfigEntry) (key : Str) (s : ConfigState) : ConfigState :=
  match configMap key with
  | none => s
  | some entry =>
    if (s.mConfigValues key).map ConfigEntry.value = some entry.value then s
    else { s with mConfigValues := Function.update s.mConfigValues key (some entry) }.onConfigChanged key entry.value

/-- The entry of a system-wide key after a change; the spelling of the row stays. -/
def systemEntry (key value defaultValue : Str) (s : ConfigState) : ConfigEntry :=
  ⟨(s.system (sys.collation.key key)).elim key ConfigEntry.key, value, defaultValue⟩

def step (s : ConfigState) : ConfigEvent → Option ConfigState
  | .attach => some { s with attached := true }
  | .connect =>
    if s.state = .disconnected then
      some { s with
        state := .connected, queue := [], registration := .connected, mConfigValues := fun _ => none, monitor := .idle }
    else none
  | .disconnect =>
    if s.state.isOnline then some { s with state := .disconnected, queue := [], registration := .none, monitor := .idle } else none
  | .initializeRows =>
    match s.registration with
    | .connected => some { s with
        registration := .initialized
        own := s.own.initializePluginConfigParameters sys.collation sys.entries }
    | _ => none
  | .read =>
    match s.registration with
    | .initialized => some { s with registration := .registered, mConfigValues := s.getPluginConfigParameters sys }
    | _ => none
  | .copy =>
    match s.registration, s.monitor with
    | .registered, .comparing _ => none
    | .registered, _ => some { s with registration := .copied s.mConfigValues }
    | _, _ => none
  | .sendInitial =>
    match s.registration with
    | .copied configEntries => some { s with registration := .done, queue := s.queue ++ [initialMessage configEntries] }
    | _ => none
  | .monitorRead =>
    match s.registration, s.monitor with
    | .registered, .idle | .copied _, .idle | .done, .idle => some { s with monitor := .read (s.getPluginConfigParameters sys) }
    | _, _ => none
  | .monitorLock =>
    match s.monitor with
    | .read configMap => some { s with monitor := .comparing configMap }
    | _ => none
  | .monitorCompare key =>
    match s.monitor with
    | .comparing configMap => some (s.compare configMap key)
    | _ => none
  | .monitorUnlock =>
    match s.monitor with
    | .comparing _ => some { s with monitor := .idle }
    | _ => none
  | .deliver =>
    match s.queue with
    | msg :: msgs => some { s with
        queue := msgs
        plugin := s.plugin.onMessageReceived sys.manifest s.attached msg
        state := .registered }
    | [] => none
  | .changeOwn key value =>
    match s.own (sys.collation.key key) with
    | some entry => some ({ s with own := s.own.put sys.collation { entry with value := value } }.setChanged entry.key
        (entry.value ≠ value))
    | none => none
  | .changeSystem key value defaultValue =>
    let entry := s.systemEntry sys key value defaultValue
    some ({ s with system := s.system.put sys.collation entry }.setChanged entry.key
      ((s.system (sys.collation.key key)).map ConfigEntry.value ≠ some value))

/-- The core has seen the values of the database, and all its messages are delivered. -/
structure Settled (s : ConfigState) : Prop where
  registered : s.state = .registered
  done : s.registration = .done
  delivered : s.queue = []
  seen : ∀ key, (s.mConfigValues key).map ConfigEntry.value = (s.getPluginConfigParameters sys key).map ConfigEntry.value

/-- The plugin has the value of the database for every key of the manifest and every system-wide key, and `OnConfigChanged` was
last called with it if it ever changed. -/
def Converged (s : ConfigState) : Prop :=
  s.Settled sys →
    (∀ item ∈ sys.manifest.configuration, ∀ entry, s.own (sys.collation.key item.1) = some entry →
      s.plugin.getConfigValue sys.manifest item.1 = some entry.value) ∧
    (∀ c entry, s.system c = some entry → s.plugin.getConfigValue sys.manifest entry.key = some entry.value) ∧
    ∀ c entry, s.own c = some entry ∨ s.system c = some entry → s.changed entry.key = true →
      s.plugin.told entry.key = some entry.value

end ConfigState

/-- All runs of a plugin with its core, from the rows of the plugin and of the system in the database. -/
def configMachine (sys : ConfigSystem) (own system : ConfigRows) : Machine ConfigState ConfigEvent :=
  ⟨ConfigState.init own system, ConfigState.step sys⟩

variable {col : Collation} {rows : ConfigRows} {entry entry' : ConfigEntry} {key : Str} {m : Manifest} {msg : ConfigMessage}
  {p : PluginConfig} {sys : ConfigSystem} {s t : ConfigState} {own system : ConfigRows}

/-! ### Rows -/

namespace ConfigRows

theorem Keyed.put (h : Keyed col rows) : Keyed col (rows.put col entry) := by
  intro c entry' hrow
  by_cases hc : c = col.key entry.key
  · subst hc
    rw [ConfigRows.put, Function.update_self] at hrow
    rw [Option.some.inj hrow]
  · rw [ConfigRows.put, Function.update_of_ne hc] at hrow
    exact h c entry' hrow

theorem Keyed.initialized {entries : List (Str × Str)} (h : Keyed col rows) :
    Keyed col (rows.initializePluginConfigParameters col entries) := by
  have hfold : ∀ items : List (Str × Str), ∀ rows : ConfigRows, Keyed col rows → Keyed col (items.foldl (insertDefault col) rows) := by
    intro items
    induction items with
    | nil => exact fun rows h => h
    | cons item items ih => exact fun rows h => ih _ h.put
  intro c entry hrow
  unfold initializePluginConfigParameters at hrow
  split_ifs at hrow
  exact hfold _ _ h c entry hrow

theorem find_eq_some : rows.find col key = some entry ↔ rows (col.key key) = some entry ∧ entry.key = key := by
  rw [find, Option.filter_eq_some_iff, decide_eq_true_iff]

/-- A row takes the place of one with the same spelling of the key, or is new. -/
theorem find_put (h : ∀ entry', rows (col.key entry.key) = some entry' → entry'.key = entry.key) :
    (rows.put col entry).find col key = if key = entry.key then some entry else rows.find col key := by
  split_ifs with hkey
  · subst hkey
    exact find_eq_some.2 ⟨Function.update_self .., rfl⟩
  · ext entry'
    simp only [find_eq_some, ConfigRows.put]
    by_cases hc : col.key key = col.key entry.key
    · rw [hc, Function.update_self]
      constructor
      · rintro ⟨hentry, rfl⟩
        exact absurd (Option.some.inj hentry ▸ rfl) hkey
      · rintro ⟨hentry, rfl⟩
        exact absurd (h _ hentry) hkey
    · rw [Function.update_of_ne hc]

end ConfigRows

/-! ### Messages -/

namespace PluginConfig

/-- A message with a value for the key gives the value. -/
theorem getConfigValue_onMessageReceived (h : m.default [] = none) :
    (p.onMessageReceived m true msg).getConfigValue m key = (msg key).or (p.getConfigValue m key) := by
  unfold getConfigValue onMessageReceived
  by_cases hkey : key = []
  · subst hkey
    simp [h]
  · rw [if_neg hkey]
    rcases hdefault : m.default key with _ | defaultValue
    · simp [hdefault]
    · simp only [hdefault, Option.isSome_some, if_true]
      cases msg key <;> rfl

theorem told_onMessageReceived : (p.onMessageReceived m true msg).told key = (msg key).or (p.told key) := rfl

end PluginConfig

namespace ConfigState

/-- The copies of the plugin once what was sent is delivered. -/
def settled (m : Manifest) (s : ConfigState) : PluginConfig :=
  s.queue.foldl (fun p msg => p.onMessageReceived m true msg) s.plugin

theorem settled_append : settled m { s with queue := s.queue ++ [msg] } = (s.settled m).onMessageReceived m true msg := by
  rw [settled, List.foldl_append]
  rfl

theorem parameters_own (h : system.find sys.collation key = none) :
    sys.getPluginConfigParameters own system key = own.find sys.collation key := by
  rw [ConfigSystem.getPluginConfigParameters, h, Option.or_none, Option.none_or, ite_self]

theorem parameters_system (h : own.find sys.collation key = none) :
    sys.getPluginConfigParameters own system key = system.find sys.collation key := by
  rw [ConfigSystem.getPluginConfigParameters, h, Option.or_none, Option.none_or, ite_self]

/-! ### The condition and the invariant -/

/-- The keys of the manifest are those of the rows of the plugin, in the same spelling, and not those of rows of the system. -/
def Matches (sys : ConfigSystem) (own system : ConfigRows) : Prop :=
  ∀ item ∈ sys.manifest.configuration, item.1 ≠ [] ∧ (own (sys.collation.key item.1)).map ConfigEntry.key = some item.1 ∧
    system.find sys.collation item.1 = none

/-- What `OnConfigChanged` is told about a changed key: not the old value again, if it was never told that. -/
def Told (sys : ConfigSystem) (key value : Str) (changed : Bool) (s : ConfigState) : Prop :=
  changed = true → (s.settled sys.manifest).told key = some value

/-- The first message has the value that the core has now, or the plugin has it already. -/
def SoundInitial (sys : ConfigSystem) (initial : ConfigMessage) (s : ConfigState) : Prop :=
  ∀ key entry, s.mConfigValues key = some entry →
    match initial key with
    | some value => value = entry.value
    | none => (s.settled sys.manifest).getConfigValue sys.manifest key = some entry.value ∧
        ((s.getPluginConfigParameters sys key).map ConfigEntry.value = some entry.value → s.Told sys key entry.value (s.changed key))

/-- A value that the core has not seen changed does not change back to one that `OnConfigChanged` was not told. -/
def SoundChange (sys : ConfigSystem) (key value : Str) (changes : Bool) (s : ConfigState) : Prop :=
  s.registration = .done → (s.mConfigValues key).map ConfigEntry.value = some value →
    s.Told sys key value (s.changed key || changes)

def Sound (sys : ConfigSystem) (s : ConfigState) : ConfigEvent → Prop
  | .initializeRows => (∀ item ∈ sys.manifest.configuration, sys.stored item.1 = item.1) ∧
      Matches sys (s.own.initializePluginConfigParameters sys.collation sys.entries) s.system
  | .sendInitial => ∀ configEntries, s.registration = .copied configEntries → s.SoundInitial sys (initialMessage configEntries)
  | .deliver => s.attached = true
  | .changeOwn key value => ∀ entry, s.own (sys.collation.key key) = some entry →
      s.SoundChange sys entry.key value (entry.value ≠ value)
  | .changeSystem key value defaultValue =>
    sys.manifest.default (s.systemEntry sys key value defaultValue).key = none ∧
      s.SoundChange sys (s.systemEntry sys key value defaultValue).key value
        ((s.system (sys.collation.key key)).map ConfigEntry.value ≠ some value)
  | _ => True

def Initialized (s : ConfigState) : Prop := s.registration ≠ .none ∧ s.registration ≠ .connected

/-- Once what was sent is delivered the plugin has what the core has, and was told it where the core has the value of the database
and it ever changed. -/
structure Inv (sys : ConfigSystem) (s : ConfigState) : Prop where
  ownKeyed : s.own.Keyed sys.collation
  systemKeyed : s.system.Keyed sys.collation
  keys : s.Initialized → Matches sys s.own s.system ∧ ∀ c entry, s.own c = some entry → (sys.manifest.default entry.key).isSome
  has : s.registration = .done → ∀ key entry, s.mConfigValues key = some entry →
    (s.settled sys.manifest).getConfigValue sys.manifest key = some entry.value
  told : s.registration = .done → ∀ key entry, s.mConfigValues key = some entry →
    (s.getPluginConfigParameters sys key).map ConfigEntry.value = some entry.value → s.Told sys key entry.value (s.changed key)

theorem inv_init (hown : own.Keyed sys.collation) (hsystem : system.Keyed sys.collation) : Inv sys (init own system) where
  ownKeyed := hown
  systemKeyed := hsystem
  keys h := absurd rfl h.1
  has := nofun
  told := nofun

theorem default_isSome {item : Str × Str} (h : item ∈ m.configuration) : (m.default item.1).isSome = true := by
  rw [Manifest.default, List.lookup_isSome_iff]
  exact ⟨item, h, by simp⟩

/-- `OnConfigChanged` is never called for the empty key as one of the manifest. -/
theorem default_nil (h : Matches sys own system) : sys.manifest.default [] = none := by
  rw [Manifest.default, List.lookup_eq_none_iff]
  exact fun item hitem => by simpa using (h item hitem).1.symm

/-! ### What each step keeps -/

/-- What is in the tables after a change of one row: its key is spelled as before. -/
theorem find_changed (h : rows.Keyed col) (hrow : rows (col.key key) = some entry) (hkey : entry'.key = entry.key) (k : Str) :
    (rows.put col entry').find col k = if k = entry'.key then some entry' else rows.find col k := by
  refine ConfigRows.find_put fun old hold => ?_
  rw [hkey, h _ _ hrow, hrow] at hold
  rw [← Option.some.inj hold, hkey]

theorem put_changed (h : rows.Keyed col) (hrow : rows (col.key key) = some entry) (hkey : entry'.key = entry.key) {c : List UInt8} :
    ((rows.put col entry') c).map ConfigEntry.key = (rows c).map ConfigEntry.key := by
  have hc : col.key entry'.key = col.key key := by rw [hkey, h _ _ hrow]
  rw [ConfigRows.put, hc]
  by_cases hck : c = col.key key
  · subst hck
    rw [Function.update_self, hrow, Option.map_some, Option.map_some, hkey]
  · rw [Function.update_of_ne hck]

theorem Inv.initializeRows (h : Inv sys s)
    (hstored : ∀ item ∈ sys.manifest.configuration, sys.stored item.1 = item.1)
    (hsound : Matches sys (s.own.initializePluginConfigParameters sys.collation sys.entries) s.system) :
    Inv sys { s with
      registration := .initialized
      own := s.own.initializePluginConfigParameters sys.collation sys.entries } := by
  have hkeyed : ConfigRows.Keyed sys.collation (s.own.initializePluginConfigParameters sys.collation sys.entries) :=
    h.ownKeyed.initialized
  refine ⟨hkeyed, h.systemKeyed, fun _ => ⟨hsound, fun c entry hrow => ?_⟩, nofun, nofun⟩
  have hany : sys.entries.any (sys.collation.key ·.1 = c) = true := by
    simp only [ConfigRows.initializePluginConfigParameters, Option.ite_none_right_eq_some] at hrow
    exact hrow.1
  obtain ⟨entry', hentry', hc⟩ := List.any_eq_true.1 hany
  obtain ⟨item, hitem, rfl⟩ := List.mem_map.1 hentry'
  have hc : sys.collation.key item.1 = c := by rw [← of_decide_eq_true hc, hstored item hitem]
  have hspelled := (hsound item hitem).2.1
  rw [hc, show ConfigRows.initializePluginConfigParameters _ _ _ c = some entry from hrow] at hspelled
  rw [Option.some.inj hspelled]
  exact default_isSome hitem

theorem Inv.sendInitial {configEntries : Str → Option ConfigEntry} (h : Inv sys s)
    (hregistration : s.registration = .copied configEntries) (hsound : s.SoundInitial sys (initialMessage configEntries)) :
    Inv sys { s with registration := .done, queue := s.queue ++ [initialMessage configEntries] } := by
  have hkeys := h.keys ⟨hregistration ▸ nofun, hregistration ▸ nofun⟩
  have hnil := default_nil hkeys.1
  refine ⟨h.ownKeyed, h.systemKeyed, fun _ => hkeys, fun _ key entry hentry => ?_, fun _ key entry hentry hread hchanged => ?_⟩
  · have hinitial := hsound key entry hentry
    show (settled _ { s with queue := s.queue ++ _ }).getConfigValue _ _ = _
    rw [settled_append, PluginConfig.getConfigValue_onMessageReceived hnil]
    rcases hmsg : initialMessage configEntries key with _ | value
    · rw [hmsg] at hinitial
      exact hinitial.1
    · rw [hmsg] at hinitial
      exact congrArg some hinitial
  · have hinitial := hsound key entry hentry
    show (settled _ { s with queue := s.queue ++ _ }).told _ = _
    rw [settled_append, PluginConfig.told_onMessageReceived]
    rcases hmsg : initialMessage configEntries key with _ | value
    · rw [hmsg] at hinitial
      exact hinitial.2 hread hchanged
    · rw [hmsg] at hinitial
      exact congrArg some hinitial

theorem update_eq_some {values : Str → Option ConfigEntry} {k : Str} (h : Function.update values key (some entry) k = some entry') :
    k = key ∧ entry = entry' ∨ k ≠ key ∧ values k = some entry' := by
  by_cases hk : k = key
  · subst hk
    rw [Function.update_self] at h
    exact Or.inl ⟨rfl, Option.some.inj h⟩
  · rw [Function.update_of_ne hk] at h
    exact Or.inr ⟨hk, h⟩

theorem Inv.compare (h : Inv sys s) {configMap : Str → Option ConfigEntry} :
    Inv sys (s.compare configMap key) := by
  unfold ConfigState.compare
  split
  · exact h
  · rename_i entry hmap
    split_ifs with hsame
    · exact h
    · refine ⟨h.ownKeyed, h.systemKeyed, h.keys, fun hdone k e he => ?_, fun hdone k e he hread hchanged => ?_⟩
      · have hnil := default_nil (h.keys ⟨hdone ▸ nofun, hdone ▸ nofun⟩).1
        show (settled _ { s with queue := s.queue ++ _ }).getConfigValue _ _ = _
        rw [settled_append, PluginConfig.getConfigValue_onMessageReceived hnil]
        rcases update_eq_some he with ⟨rfl, rfl⟩ | ⟨hk, he⟩
        · rw [if_pos rfl, Option.some_or]
        · rw [if_neg hk, Option.none_or]
          exact h.has hdone k e he
      · show (settled _ { s with queue := s.queue ++ _ }).told _ = _
        rw [settled_append, PluginConfig.told_onMessageReceived]
        rcases update_eq_some he with ⟨rfl, rfl⟩ | ⟨hk, he⟩
        · rw [if_pos rfl, Option.some_or]
        · rw [if_neg hk, Option.none_or]
          exact h.told hdone k e he hread hchanged

theorem changed_self {changes : Bool} : (s.setChanged key changes).changed key = (s.changed key || changes) :=
  Function.update_self ..

theorem changed_of_ne {changes : Bool} {k : Str} (hk : k ≠ key) : (s.setChanged key changes).changed k = s.changed k :=
  Function.update_of_ne hk ..

/-- A change of the row of one key. -/
theorem Inv.change {value : Str} {changes : Bool} (own system : ConfigRows) (h : Inv sys s) (hown : own.Keyed sys.collation)
    (hsystem : system.Keyed sys.collation)
    (hkeys : s.Initialized → Matches sys own system ∧ ∀ c entry, own c = some entry → (sys.manifest.default entry.key).isSome)
    (hnew : s.Initialized → (sys.getPluginConfigParameters own system key).map ConfigEntry.value = some value)
    (hother : ∀ k, k ≠ key → sys.getPluginConfigParameters own system k = s.getPluginConfigParameters sys k)
    (hsound : s.SoundChange sys key value changes) :
    Inv sys ({ s with own := own, system := system }.setChanged key changes) := by
  refine ⟨hown, hsystem, hkeys, h.has, fun hdone k e he hread hchanged => ?_⟩
  by_cases hk : k = key
  · subst hk
    have hvalue : value = e.value := Option.some.inj ((hnew ⟨hdone ▸ nofun, hdone ▸ nofun⟩).symm.trans hread)
    subst hvalue
    refine hsound hdone ?_ ?_
    · rw [show s.mConfigValues k = some e from he, Option.map_some]
    · rwa [changed_self] at hchanged
  · refine h.told hdone k e he ?_ ?_
    · rw [← hother k hk]
      exact hread
    · rwa [changed_of_ne hk] at hchanged

theorem Matches.not_system (h : Matches sys own system) (hkey : (sys.manifest.default key).isSome = true) :
    system.find sys.collation key = none := by
  obtain ⟨item, hitem, heq⟩ := List.lookup_isSome_iff.1 hkey
  rw [beq_iff_eq.1 heq]
  exact (h item hitem).2.2

theorem Inv.changeOwn {value : Str} (h : Inv sys s) (hrow : s.own (sys.collation.key key) = some entry)
    (hsound : s.SoundChange sys entry.key value (entry.value ≠ value)) :
    Inv sys ({ s with own := s.own.put sys.collation { entry with value := value } }.setChanged entry.key (entry.value ≠ value)) := by
  have hkeys : ∀ c, ((s.own.put sys.collation { entry with value := value }) c).map ConfigEntry.key =
      (s.own c).map ConfigEntry.key := fun c =>
    put_changed h.ownKeyed hrow (show ConfigEntry.key { entry with value := value } = entry.key from rfl)
  have hfind : ∀ k, (s.own.put sys.collation { entry with value := value }).find sys.collation k =
      if k = entry.key then some { entry with value := value } else s.own.find sys.collation k :=
    find_changed h.ownKeyed hrow (show ConfigEntry.key { entry with value := value } = entry.key from rfl)
  refine h.change _ s.system h.ownKeyed.put h.systemKeyed (fun hinit => ?_) (fun hinit => ?_) (fun k hk => ?_) hsound
  · obtain ⟨hmatches, hdefault⟩ := h.keys hinit
    refine ⟨fun item hitem => ?_, fun c e he => ?_⟩
    · obtain ⟨hne, hspelled, hsystem⟩ := hmatches item hitem
      exact ⟨hne, (hkeys _).trans hspelled, hsystem⟩
    · have hold := hkeys c
      rw [he, Option.map_some] at hold
      obtain ⟨old, hold', hkey⟩ := Option.map_eq_some_iff.1 hold.symm
      exact hkey ▸ hdefault c old hold'
  · obtain ⟨hmatches, hdefault⟩ := h.keys hinit
    rw [parameters_own (hmatches.not_system (hdefault _ _ hrow)), hfind, if_pos rfl]
    rfl
  · simp only [getPluginConfigParameters, ConfigSystem.getPluginConfigParameters, hfind, if_neg hk]

theorem Inv.changeSystem {value defaultValue : Str} (h : Inv sys s)
    (hkey : sys.manifest.default (s.systemEntry sys key value defaultValue).key = none) {changes : Bool}
    (hsound : s.SoundChange sys (s.systemEntry sys key value defaultValue).key value changes) :
    Inv sys ({ s with system := s.system.put sys.collation (s.systemEntry sys key value defaultValue) }.setChanged
      (s.systemEntry sys key value defaultValue).key changes) := by
  have hfind : ∀ k, (s.system.put sys.collation (s.systemEntry sys key value defaultValue)).find sys.collation k =
      if k = (s.systemEntry sys key value defaultValue).key then some (s.systemEntry sys key value defaultValue)
      else s.system.find sys.collation k := by
    intro k
    rcases hrow : s.system (sys.collation.key key) with _ | entry
    · refine ConfigRows.find_put fun old hold => ?_
      rw [systemEntry, hrow] at hold
      exact nomatch hrow.symm.trans hold
    · exact find_changed h.systemKeyed hrow (by rw [systemEntry, hrow]; rfl) k
  refine h.change s.own _ h.ownKeyed h.systemKeyed.put (fun hinit => ?_) (fun hinit => ?_) (fun k hk => ?_) hsound
  · obtain ⟨hmatches, hdefault⟩ := h.keys hinit
    refine ⟨fun item hitem => ?_, hdefault⟩
    obtain ⟨hne, hspelled, hsystem⟩ := hmatches item hitem
    refine ⟨hne, hspelled, ?_⟩
    rw [hfind, if_neg, hsystem]
    intro heq
    have hsome := default_isSome hitem
    rw [heq, hkey] at hsome
    cases hsome
  · have hnone : s.own.find sys.collation (s.systemEntry sys key value defaultValue).key = none := by
      refine Option.eq_none_iff_forall_ne_some.2 fun entry hentry => ?_
      obtain ⟨hrow, heq⟩ := ConfigRows.find_eq_some.1 hentry
      have hsome := (h.keys hinit).2 _ _ hrow
      rw [heq, hkey] at hsome
      cases hsome
    rw [parameters_system hnone, hfind, if_pos rfl]
    rfl
  · simp only [getPluginConfigParameters, ConfigSystem.getPluginConfigParameters, hfind, if_neg hk]

theorem Inv.deliver {msgs : List ConfigMessage} (h : Inv sys s) (hqueue : s.queue = msg :: msgs) (hattached : s.attached = true)
    {state : IvpPluginState} : Inv sys { s with
      queue := msgs
      plugin := s.plugin.onMessageReceived sys.manifest s.attached msg
      state := state } := by
  have hsettled : settled sys.manifest { s with
      queue := msgs, plugin := s.plugin.onMessageReceived sys.manifest s.attached msg, state := state } =
      s.settled sys.manifest := by
    rw [settled, settled, hqueue, hattached, List.foldl_cons]
  refine ⟨h.ownKeyed, h.systemKeyed, h.keys, fun hdone k e he => ?_, fun hdone k e he hread hchanged => ?_⟩
  · rw [hsettled]
    exact h.has hdone k e he
  · rw [hsettled]
    exact h.told hdone k e he hread hchanged

theorem inv_step {e : ConfigEvent} (h : Inv sys s) (hsound : Sound sys s e) (hstep : s.step sys e = some t) : Inv sys t := by
  cases e with
  | attach =>
    cases hstep
    exact ⟨h.ownKeyed, h.systemKeyed, h.keys, h.has, h.told⟩
  | connect =>
    obtain ⟨-, hstep⟩ := Option.ite_none_right_eq_some.1 hstep
    cases hstep
    exact ⟨h.ownKeyed, h.systemKeyed, fun hinit => absurd rfl hinit.2, nofun, nofun⟩
  | disconnect =>
    obtain ⟨-, hstep⟩ := Option.ite_none_right_eq_some.1 hstep
    cases hstep
    exact ⟨h.ownKeyed, h.systemKeyed, fun hinit => absurd rfl hinit.1, nofun, nofun⟩
  | initializeRows =>
    simp only [step] at hstep
    split at hstep
    · cases hstep
      exact h.initializeRows hsound.1 hsound.2
    · cases hstep
  | read =>
    simp only [step] at hstep
    split at hstep
    · rename_i hregistration
      cases hstep
      exact ⟨h.ownKeyed, h.systemKeyed, fun _ => h.keys ⟨hregistration ▸ nofun, hregistration ▸ nofun⟩, nofun, nofun⟩
    · cases hstep
  | copy =>
    simp only [step] at hstep
    split at hstep
    · cases hstep
    · rename_i hregistration hmonitor
      cases hstep
      exact ⟨h.ownKeyed, h.systemKeyed, fun _ => h.keys ⟨hregistration ▸ nofun, hregistration ▸ nofun⟩, nofun, nofun⟩
    · cases hstep
  | sendInitial =>
    simp only [step] at hstep
    split at hstep
    · rename_i configEntries hregistration
      cases hstep
      exact h.sendInitial hregistration (hsound configEntries hregistration)
    · cases hstep
  | monitorRead =>
    simp only [step] at hstep
    split at hstep
    all_goals cases hstep
    all_goals exact ⟨h.ownKeyed, h.systemKeyed, h.keys, h.has, h.told⟩
  | monitorLock =>
    simp only [step] at hstep
    split at hstep
    all_goals cases hstep
    exact ⟨h.ownKeyed, h.systemKeyed, h.keys, h.has, h.told⟩
  | monitorCompare key =>
    simp only [step] at hstep
    split at hstep
    all_goals cases hstep
    exact h.compare
  | monitorUnlock =>
    simp only [step] at hstep
    split at hstep
    all_goals cases hstep
    exact ⟨h.ownKeyed, h.systemKeyed, h.keys, h.has, h.told⟩
  | deliver =>
    simp only [step] at hstep
    split at hstep
    · rename_i msg msgs hqueue
      cases hstep
      exact h.deliver hqueue hsound
    · cases hstep
  | changeOwn key value =>
    simp only [step] at hstep
    split at hstep
    · rename_i entry hrow
      cases hstep
      exact h.changeOwn hrow (hsound entry hrow)
    · cases hstep
  | changeSystem key value defaultValue =>
    cases hstep
    exact h.changeSystem hsound.1 hsound.2

/-- What the core has is in the plugin, and what the database has is in the core. -/
theorem Inv.value (h : Inv sys s) (hsettled : s.Settled sys) (hread : s.getPluginConfigParameters sys key = some entry) :
    s.plugin.getConfigValue sys.manifest key = some entry.value ∧ (s.changed key = true → s.plugin.told key = some entry.value) := by
  have hseen := hsettled.seen key
  rw [hread, Option.map_some] at hseen
  obtain ⟨e, he, hvalue⟩ := Option.map_eq_some_iff.1 hseen
  have hplugin : s.settled sys.manifest = s.plugin := by rw [settled, hsettled.delivered]; rfl
  have hhas := h.has hsettled.done key e he
  have htold := h.told hsettled.done key e he (by rw [hread, Option.map_some, hvalue])
  rw [Told, hplugin, hvalue] at htold
  rw [hplugin, hvalue] at hhas
  exact ⟨hhas, htold⟩

theorem Inv.read_own (h : Inv sys s) (hdone : s.registration = .done) {c : List UInt8} (hrow : s.own c = some entry) :
    s.getPluginConfigParameters sys entry.key = some entry := by
  obtain ⟨hmatches, hdefault⟩ := h.keys ⟨hdone ▸ nofun, hdone ▸ nofun⟩
  rw [getPluginConfigParameters, parameters_own (hmatches.not_system (hdefault c entry hrow))]
  exact ConfigRows.find_eq_some.2 ⟨by rw [h.ownKeyed c entry hrow, hrow], rfl⟩

theorem Inv.read_system (h : Inv sys s) (hdone : s.registration = .done) {c : List UInt8} (hrow : s.system c = some entry) :
    s.getPluginConfigParameters sys entry.key = some entry := by
  obtain ⟨hmatches, hdefault⟩ := h.keys ⟨hdone ▸ nofun, hdone ▸ nofun⟩
  have hfind : s.system.find sys.collation entry.key = some entry :=
    ConfigRows.find_eq_some.2 ⟨by rw [h.systemKeyed c entry hrow, hrow], rfl⟩
  rw [getPluginConfigParameters, parameters_system, hfind]
  refine Option.eq_none_iff_forall_ne_some.2 fun old hold => ?_
  obtain ⟨hrow', heq⟩ := ConfigRows.find_eq_some.1 hold
  exact nomatch (hmatches.not_system (heq ▸ hdefault _ _ hrow')).symm.trans hfind

theorem Inv.converged (h : Inv sys s) : s.Converged sys := by
  intro hsettled
  refine ⟨fun item hitem entry hrow => ?_, fun c entry hrow => ?_, fun c entry hrow => ?_⟩
  · obtain ⟨hmatches, -⟩ := h.keys ⟨hsettled.done ▸ nofun, hsettled.done ▸ nofun⟩
    have hkey := (hmatches item hitem).2.1
    rw [hrow] at hkey
    rw [← Option.some.inj hkey]
    exact (h.value hsettled (h.read_own hsettled.done hrow)).1
  · exact (h.value hsettled (h.read_system hsettled.done hrow)).1
  · rcases hrow with hrow | hrow
    · exact (h.value hsettled (h.read_own hsettled.done hrow)).2
    · exact (h.value hsettled (h.read_system hsettled.done hrow)).2

end ConfigState

open ConfigState

def level : Str := CString.lit "Level"
def one : Str := CString.lit "1"
def two : Str := CString.lit "2"

/-- The parameter `Level` with the default 1. -/
def levelSystem : ConfigSystem := ⟨⟨[(level, one)], List.nodup_singleton _⟩, .latin1_swedish_ci, id, true⟩

/-- The only row is that of `Level`. -/
def levelRows (value : Str) : ConfigRows := ConfigRows.put .latin1_swedish_ci ⟨level, value, one⟩ fun _ => none

theorem keyed_none {col : Collation} : ConfigRows.Keyed col fun _ => none := fun _ _ h => nomatch h

theorem keyed_levelRows {value : Str} : (levelRows value).Keyed .latin1_swedish_ci :=
  keyed_none.put

def registerRun : List ConfigEvent := [.attach, .connect, .initializeRows, .read, .copy, .sendInitial, .deliver]

theorem level_of_parameters (h : levelSystem.getPluginConfigParameters
    ((levelRows two).initializePluginConfigParameters .latin1_swedish_ci levelSystem.entries) (fun _ => none) key = some entry) :
    key = level ∧ entry = ⟨level, two, one⟩ := by
  obtain ⟨hrow, rfl⟩ := ConfigRows.find_eq_some.1 ((parameters_own rfl).symm.trans h)
  unfold ConfigRows.initializePluginConfigParameters at hrow
  split_ifs at hrow with hany
  simp only [ConfigSystem.entries, levelSystem, List.map_cons, List.map_nil, id_eq, List.any_cons, List.any_nil, Bool.or_false] at hany
  have hentry : entry = ⟨level, two, one⟩ := by
    rw [show levelSystem.collation.key entry.key = levelSystem.collation.key level from (of_decide_eq_true hany).symm] at hrow
    exact Option.some.inj (hrow.symm.trans rfl)
  exact ⟨congrArg ConfigEntry.key hentry, hentry⟩

theorem sound_changeOwn {value : Str} (entry : ConfigEntry) (hrow : s.own (sys.collation.key key) = some entry)
    (h : s.SoundChange sys entry.key value (entry.value ≠ value)) : ConfigState.Sound sys s (.changeOwn key value) := by
  intro entry' hrow'
  obtain rfl := Option.some.inj (hrow.symm.trans hrow')
  exact h

end V2xHub.PluginClient
