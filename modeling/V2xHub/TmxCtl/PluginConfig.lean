import V2xHub.Lib.Collation
import V2xHub.Lib.CString
import Mathlib.Data.List.Nodup

/-!
# The tables of plugins

`TmxControl::load_manifest`, `set`, `enable`, `disable` and `max_message_interval` over the rows of the tables `plugin`,
`installedPlugin` and `pluginConfigurationParameter`. Each is a sequence of statements, up to the first that throws. The rows of
a plugin are selected by `lower(name) like ?`, so a name is a pattern that may select other plugins; and the update of the
parameters of a manifest selects them by their own `id`, where it has that of the plugin.

The history has the rows that were written, by the plugin that they belong to.
-/

namespace V2xHub.TmxCtl

structure PluginRow where
  id : Nat
  name : Str
  description : Option Str
  version : Option Str
deriving DecidableEq

structure InstalledPluginRow where
  id : Nat
  pluginId : Nat
  path : Str
  exeName : Str
  manifestName : Str
  commandLineParameters : Str
  enabled : Nat
  maxMessageInterval : Nat
deriving DecidableEq

structure ParameterRow where
  id : Nat
  pluginId : Nat
  key : Str
  value : Str
  defaultValue : Str
  description : Str
deriving DecidableEq

/-! The widths of the columns: a row that does not fit is refused. -/

def text (s : Str) : Bool := s.length ≤ 65535

def PluginRow.fits (p : PluginRow) : Bool := p.name.length ≤ 100 ∧ p.description.all text ∧ p.version.all text

def InstalledPluginRow.fits (i : InstalledPluginRow) : Bool :=
  text i.path ∧ text i.exeName ∧ text i.manifestName ∧ text i.commandLineParameters ∧ i.maxMessageInterval < 2 ^ 32

def ParameterRow.fits (r : ParameterRow) : Bool :=
  r.key.length ≤ 255 ∧ text r.value ∧ text r.defaultValue ∧ text r.description

/-- A row that was written: of `plugin` by its name, else by the plugin it belongs to. -/
inductive Write where
  | plugin (name : Str)
  | installedPlugin (pluginId : Nat)
  | parameter (pluginId : Nat)
deriving DecidableEq

/-- The tables with their next ids, and the history. -/
structure Database where
  plugin : List PluginRow
  installedPlugin : List InstalledPluginRow
  parameter : List ParameterRow
  nextPlugin : Nat
  nextInstalled : Nat
  nextParameter : Nat
  writes : List Write
deriving DecidableEq

/-! ### Statements -/

section Rows
variable {ρ : Type*} (fits : ρ → Bool)

/-- `UPDATE ... SET ... WHERE`: none if it throws. -/
def changeRows (selects : ρ → Bool) (change : ρ → ρ) (rows : List ρ) : Option (List ρ) :=
  if ∃ r ∈ rows, selects r = true ∧ fits (change r) = false then none
  else some (rows.map fun r => if selects r then change r else r)

def insertRows (news rows : List ρ) : Option (List ρ) := if ∃ r ∈ news, fits r = false then none else some (rows ++ news)

end Rows

namespace Database

def updatePlugin (selects : PluginRow → Bool) (change : PluginRow → PluginRow) (db : Database) : Option Database :=
  (changeRows PluginRow.fits selects change db.plugin).map fun rows => { db with
    plugin := rows, writes := db.writes ++ (db.plugin.filter selects).map fun p => .plugin p.name }

def updateInstalled (selects : InstalledPluginRow → Bool) (change : InstalledPluginRow → InstalledPluginRow) (db : Database) :
    Option Database :=
  (changeRows InstalledPluginRow.fits selects change db.installedPlugin).map fun rows => { db with
    installedPlugin := rows
    writes := db.writes ++ (db.installedPlugin.filter selects).map fun i => .installedPlugin i.pluginId }

def updateParameter (selects : ParameterRow → Bool) (change : ParameterRow → ParameterRow) (db : Database) : Option Database :=
  (changeRows ParameterRow.fits selects change db.parameter).map fun rows => { db with
    parameter := rows, writes := db.writes ++ (db.parameter.filter selects).map fun r => .parameter r.pluginId }

def insertPlugin (name : Str) (description version : Option Str) (db : Database) : Option Database :=
  (insertRows PluginRow.fits [⟨db.nextPlugin, name, description, version⟩] db.plugin).map fun rows => { db with
    plugin := rows, nextPlugin := db.nextPlugin + 1, writes := db.writes ++ [.plugin name] }

/-- One row for each of the plugins. -/
def insertInstalled (pluginIds : List Nat) (row : Nat → Nat → InstalledPluginRow) (db : Database) : Option Database :=
  (insertRows InstalledPluginRow.fits (pluginIds.zipIdx.map fun p => row (db.nextInstalled + p.2) p.1) db.installedPlugin).map
    fun rows => { db with
      installedPlugin := rows, nextInstalled := db.nextInstalled + pluginIds.length
      writes := db.writes ++ pluginIds.map .installedPlugin }

def insertParameter (pluginIds : List Nat) (row : Nat → Nat → ParameterRow) (db : Database) : Option Database :=
  (insertRows ParameterRow.fits (pluginIds.zipIdx.map fun p => row (db.nextParameter + p.2) p.1) db.parameter).map
    fun rows => { db with
      parameter := rows, nextParameter := db.nextParameter + pluginIds.length
      writes := db.writes ++ pluginIds.map .parameter }

variable (col : Collation)

/-- `lower(name) like ?` -/
def selects (pattern : Str) (p : PluginRow) : Bool := col.like pattern (p.name.map col.lower)

/-- `SELECT id FROM IVP.plugin WHERE lower(name) like ?`: the list of plugins has one name. -/
def selectedIds (pattern : Str) (db : Database) : List Nat := (db.plugin.filter (selects col pattern)).map PluginRow.id

def sameKey (s t : Str) : Bool := col.key s = col.key t

/-- The selected plugins without a row for the key (`CFG_KEY_NE`). -/
def missingIds (pattern key : Str) (db : Database) : List Nat :=
  (db.selectedIds col pattern).filter fun pluginId => ¬ db.parameter.any fun r => r.pluginId = pluginId ∧ sameKey col r.key key

/-- `CFG_INSERT` -/
def cfgInsert (pattern key value defaultValue description : Str) (db : Database) : Option Database :=
  db.insertParameter (db.missingIds col pattern key) fun id pluginId => ⟨id, pluginId, key, value, defaultValue, description⟩

end Database

/-- The statements up to the first that throws, and whether none threw. -/
def runStatements : List (Database → Option Database) → Database → Database × Bool
  | [], db => (db, true)
  | f :: fs, db =>
    match f db with
    | some db => runStatements fs db
    | none => (db, false)

structure ManifestParameter where
  key : Str
  default : Str
  description : Str
deriving DecidableEq

/-- What `load_manifest` reads: of the manifest, and of the path of its file. -/
structure PluginManifest where
  name : Str
  description : Str
  version : Str
  exeLocation : Str
  configuration : List ManifestParameter
  pluginPath : Str
  manifestFile : Str

namespace PluginManifest
variable (col : Collation) (m : PluginManifest)

def pattern : Str := m.name.map CString.tolower

/-- `PLUGIN_UPDATE` -/
def pluginUpdate (db : Database) : Option Database :=
  db.updatePlugin (fun p => Database.sameKey col p.name m.name) fun p =>
    { p with description := some m.description, version := some m.version }

/-- `PLUGIN_INSERT` -/
def pluginInsert (db : Database) : Option Database :=
  if db.plugin.any fun p => Database.sameKey col p.name m.name then some db
  else db.insertPlugin m.name (some m.description) (some m.version)

/-- `IPLUGIN_UPDATE` -/
def ipluginUpdate (db : Database) : Option Database :=
  db.updateInstalled (fun i => i.pluginId ∈ db.selectedIds col m.pattern) fun i =>
    { i with path := m.pluginPath, exeName := m.exeLocation, manifestName := m.manifestFile }

/-- `IPLUGIN_INSERT` with `PLUGINID_NE` -/
def ipluginInsert (db : Database) : Option Database :=
  db.insertInstalled ((db.selectedIds col m.pattern).filter fun pluginId =>
      ¬ db.installedPlugin.any fun i => i.pluginId = pluginId)
    fun id pluginId => ⟨id, pluginId, m.pluginPath, m.exeLocation, m.manifestFile, [], 0, 500000⟩

/-- `CFG_INFO_UPDATE`: the constraint is on the `id` of the parameter. -/
def cfgInfoUpdate (c : ManifestParameter) (db : Database) : Option Database :=
  db.updateParameter (fun r => r.id ∈ db.selectedIds col m.pattern ∧ Database.sameKey col r.key c.key) fun r =>
    { r with defaultValue := c.default, description := c.description }

/-- The parameters with a key. -/
def parameters : List ManifestParameter := m.configuration.filter (·.key ≠ [])

def statements : List (Database → Option Database) :=
  [m.pluginUpdate col, m.pluginInsert col, m.ipluginUpdate col, m.ipluginInsert col] ++
    m.parameters.flatMap fun c => [m.cfgInfoUpdate col c,
      Database.cfgInsert col m.pattern c.key c.default c.default c.description]

end PluginManifest

/-- `TmxControl::load_manifest`: a manifest without a name is refused. -/
def load_manifest (col : Collation) (m : PluginManifest) (db : Database) : Database × Bool :=
  if m.name = [] then (db, false) else runStatements (m.statements col) db

/-- `TmxControl::enable` and `TmxControl::disable` -/
def setEnabled (col : Collation) (enabled : Nat) (plugin : Str) (db : Database) : Database × Bool :=
  runStatements [Database.updateInstalled (fun i => i.pluginId ∈ db.selectedIds col plugin) fun i => { i with enabled := enabled }] db

def enable (col : Collation) : Str → Database → Database × Bool := setEnabled col 1
def disable (col : Collation) : Str → Database → Database × Bool := setEnabled col 0

/-- `TmxControl::max_message_interval`, with the number that the server reads, or what it refuses. -/
def max_message_interval (col : Collation) (val : Nat) (plugin : Str) (db : Database) : Database × Bool :=
  runStatements [Database.updateInstalled (fun i => i.pluginId ∈ db.selectedIds col plugin) fun i =>
    { i with maxMessageInterval := val }] db

/-- `TmxControl::set` with the options of the command. -/
def set (col : Collation) (key value defaultValue description : Str) (plugin : Str) (db : Database) : Database × Bool :=
  if key = [] then (db, false)
  else runStatements
    [Database.updateParameter (fun r => r.pluginId ∈ db.selectedIds col plugin ∧ Database.sameKey col r.key key) fun r =>
        { r with value := value },
      Database.cfgInsert col plugin key value defaultValue description] db

/-! ### Which rows are written -/

/-- A row of the plugin with this name and id, if there is one. -/
def Write.isOf (name : Str) (pluginId : Option Nat) : Write → Prop
  | .plugin n => n = name
  | .installedPlugin i | .parameter i => some i = pluginId

/-- The rows of every other plugin are the same. -/
structure Unchanged (name : Str) (pluginId : Option Nat) (before after : Database) : Prop where
  plugin : after.plugin.filter (·.name ≠ name) = before.plugin.filter (·.name ≠ name)
  installedPlugin : after.installedPlugin.filter (fun i => some i.pluginId ≠ pluginId) =
    before.installedPlugin.filter fun i => some i.pluginId ≠ pluginId
  parameter : after.parameter.filter (fun r => some r.pluginId ≠ pluginId) =
    before.parameter.filter fun r => some r.pluginId ≠ pluginId

/-- Only rows of the plugin are written, and the rows of every other plugin are the same. -/
structure OnlyOf (name : Str) (pluginId : Option Nat) (before after : Database) : Prop
    extends Unchanged name pluginId before after where
  writes : ∀ w ∈ after.writes, w.isOf name pluginId

/-- The history tells which rows may have changed. -/
def Honest (before after : Database) : Prop :=
  ∃ writes, after.writes = before.writes ++ writes ∧
    ∀ name pluginId, (∀ w ∈ writes, w.isOf name pluginId) → Unchanged name pluginId before after

variable {db db' db'' : Database} {name pattern : Str} {pluginId : Option Nat} {col : Collation} {m : PluginManifest} {ρ : Type*}

theorem Honest.refl : Honest db db := ⟨[], (List.append_nil _).symm, fun _ _ _ => ⟨rfl, rfl, rfl⟩⟩

theorem Honest.trans (h : Honest db db') (h' : Honest db' db'') : Honest db db'' := by
  obtain ⟨ws, hws, hunchanged⟩ := h
  obtain ⟨ws', hws', hunchanged'⟩ := h'
  refine ⟨ws ++ ws', by rw [hws', hws, List.append_assoc], fun name pluginId hof => ?_⟩
  have h1 := hunchanged name pluginId fun w hw => hof w (List.mem_append_left _ hw)
  have h2 := hunchanged' name pluginId fun w hw => hof w (List.mem_append_right _ hw)
  exact ⟨h2.plugin.trans h1.plugin, h2.installedPlugin.trans h1.installedPlugin, h2.parameter.trans h1.parameter⟩

theorem filter_map_selected {keep selects : ρ → Bool} {change : ρ → ρ} {rows : List ρ} (hkeep : ∀ r, keep (change r) = keep r)
    (hselects : ∀ r ∈ rows, selects r = true → keep r = false) :
    (rows.map fun r => if selects r then change r else r).filter keep = rows.filter keep := by
  induction rows with
  | nil => rfl
  | cons r rows ih =>
    obtain ⟨hr, hrows⟩ := List.forall_mem_cons.1 hselects
    rw [List.map_cons, List.filter_cons, List.filter_cons, ih hrows]
    by_cases hsel : selects r = true
    · rw [if_pos hsel, hkeep, hr hsel]
      rfl
    · rw [if_neg hsel]

theorem filter_append_others {keep : ρ → Bool} {rows news : List ρ} (h : ∀ r ∈ news, keep r = false) :
    (rows ++ news).filter keep = rows.filter keep := by
  have hnews : news.filter keep = [] := List.filter_eq_nil_iff.2 fun r hr => by simp [h r hr]
  rw [List.filter_append, hnews, List.append_nil]

theorem honest_updatePlugin {selects : PluginRow → Bool} {change : PluginRow → PluginRow} (hchange : ∀ p, (change p).name = p.name)
    (h : db.updatePlugin selects change = some db') : Honest db db' := by
  obtain ⟨rows, hrows, rfl⟩ := Option.map_eq_some_iff.1 h
  obtain ⟨-, hrows⟩ := Option.ite_none_left_eq_some.1 hrows
  cases hrows
  refine ⟨_, rfl, fun name pluginId hof => ⟨?_, rfl, rfl⟩⟩
  refine filter_map_selected (fun p => by rw [hchange]) fun p hp hsel => ?_
  have hname : p.name = name := hof _ (List.mem_map_of_mem (List.mem_filter.2 ⟨hp, hsel⟩))
  simp [hname]

theorem honest_updateInstalled {selects : InstalledPluginRow → Bool} {change : InstalledPluginRow → InstalledPluginRow}
    (hchange : ∀ i, (change i).pluginId = i.pluginId) (h : db.updateInstalled selects change = some db') : Honest db db' := by
  obtain ⟨rows, hrows, rfl⟩ := Option.map_eq_some_iff.1 h
  obtain ⟨-, hrows⟩ := Option.ite_none_left_eq_some.1 hrows
  cases hrows
  refine ⟨_, rfl, fun name pluginId hof => ⟨rfl, ?_, rfl⟩⟩
  refine filter_map_selected (fun i => by rw [hchange]) fun i hi hsel => ?_
  have hid : some i.pluginId = pluginId := hof _ (List.mem_map_of_mem (List.mem_filter.2 ⟨hi, hsel⟩))
  simp [hid]

theorem honest_updateParameter {selects : ParameterRow → Bool} {change : ParameterRow → ParameterRow}
    (hchange : ∀ r, (change r).pluginId = r.pluginId) (h : db.updateParameter selects change = some db') : Honest db db' := by
  obtain ⟨rows, hrows, rfl⟩ := Option.map_eq_some_iff.1 h
  obtain ⟨-, hrows⟩ := Option.ite_none_left_eq_some.1 hrows
  cases hrows
  refine ⟨_, rfl, fun name pluginId hof => ⟨rfl, rfl, ?_⟩⟩
  refine filter_map_selected (fun r => by rw [hchange]) fun r hr hsel => ?_
  have hid : some r.pluginId = pluginId := hof _ (List.mem_map_of_mem (List.mem_filter.2 ⟨hr, hsel⟩))
  simp [hid]

theorem honest_insertPlugin {description version : Option Str} (h : db.insertPlugin name description version = some db') :
    Honest db db' := by
  obtain ⟨rows, hrows, rfl⟩ := Option.map_eq_some_iff.1 h
  obtain ⟨-, hrows⟩ := Option.ite_none_left_eq_some.1 hrows
  cases hrows
  refine ⟨_, rfl, fun n pluginId hof => ⟨filter_append_others fun p hp => ?_, rfl, rfl⟩⟩
  have hname : name = n := hof _ (List.mem_singleton_self _)
  simp [List.mem_singleton.1 hp, hname]

theorem honest_insertInstalled {pluginIds : List Nat} {row : Nat → Nat → InstalledPluginRow}
    (hrow : ∀ id i, (row id i).pluginId = i) (h : db.insertInstalled pluginIds row = some db') : Honest db db' := by
  obtain ⟨rows, hrows, rfl⟩ := Option.map_eq_some_iff.1 h
  obtain ⟨-, hrows⟩ := Option.ite_none_left_eq_some.1 hrows
  cases hrows
  refine ⟨_, rfl, fun n pluginId hof => ⟨rfl, filter_append_others fun i hi => ?_, rfl⟩⟩
  obtain ⟨p, hp, rfl⟩ := List.mem_map.1 hi
  have hid : some p.1 = pluginId := hof _ (List.mem_map_of_mem (List.fst_mem_of_mem_zipIdx hp))
  simp [hrow, hid]

theorem honest_insertParameter {pluginIds : List Nat} {row : Nat → Nat → ParameterRow}
    (hrow : ∀ id i, (row id i).pluginId = i) (h : db.insertParameter pluginIds row = some db') : Honest db db' := by
  obtain ⟨rows, hrows, rfl⟩ := Option.map_eq_some_iff.1 h
  obtain ⟨-, hrows⟩ := Option.ite_none_left_eq_some.1 hrows
  cases hrows
  refine ⟨_, rfl, fun n pluginId hof => ⟨rfl, rfl, filter_append_others fun r hr => ?_⟩⟩
  obtain ⟨p, hp, rfl⟩ := List.mem_map.1 hr
  have hid : some p.1 = pluginId := hof _ (List.mem_map_of_mem (List.fst_mem_of_mem_zipIdx hp))
  simp [hrow, hid]

theorem honest_runStatements {fs : List (Database → Option Database)} (h : ∀ f ∈ fs, ∀ db db', f db = some db' → Honest db db') :
    Honest db (runStatements fs db).1 := by
  induction fs generalizing db with
  | nil => exact Honest.refl
  | cons f fs ih =>
    obtain ⟨hf, hfs⟩ := List.forall_mem_cons.1 h
    rcases hdb : f db with _ | db'
    · simp only [runStatements, hdb]
      exact Honest.refl
    · simp only [runStatements, hdb]
      exact (hf db db' hdb).trans (ih hfs)

/-! ### Commands with the name of a plugin -/

/-- The keys of the tables, their foreign keys and the widths of their columns; nothing is written yet. -/
structure Database.WellFormed (col : Collation) (db : Database) : Prop where
  names : (db.plugin.map fun p => col.key p.name).Nodup
  ids : (db.plugin.map PluginRow.id).Nodup
  fresh : ∀ p ∈ db.plugin, p.id < db.nextPlugin
  keys : (db.parameter.map fun r => (r.pluginId, col.key r.key)).Nodup
  owners : (∀ i ∈ db.installedPlugin, ∃ p ∈ db.plugin, p.id = i.pluginId) ∧ ∀ r ∈ db.parameter, ∃ p ∈ db.plugin, p.id = r.pluginId
  fits : (∀ p ∈ db.plugin, p.fits = true) ∧ (∀ i ∈ db.installedPlugin, i.fits = true) ∧ ∀ r ∈ db.parameter, r.fits = true
  unwritten : db.writes = []

/-- The id of the plugin with this name. -/
def Database.idOf (name : Str) (db : Database) : Option Nat := (db.plugin.find? fun p => p.name = name).map PluginRow.id

theorem mem_selectedIds {i : Nat} :
    i ∈ db.selectedIds col pattern ↔ ∃ p ∈ db.plugin, Database.selects col pattern p = true ∧ p.id = i := by
  simp only [Database.selectedIds, List.mem_map, List.mem_filter, and_assoc]

theorem idOf_eq_some (hwf : db.WellFormed col) {p : PluginRow} (hp : p ∈ db.plugin) : some p.id = db.idOf name ↔ p.name = name := by
  unfold Database.idOf
  generalize hfind : List.find? _ db.plugin = found
  cases found with
  | none =>
    refine iff_of_false (by simp) fun hname => ?_
    simpa [hname] using List.find?_eq_none.1 hfind p hp
  | some q =>
    have hq : q ∈ db.plugin := List.mem_of_find?_eq_some hfind
    have hname : q.name = name := by simpa using List.find?_some hfind
    rw [Option.map_some, Option.some.injEq]
    constructor
    · intro hid
      rw [List.inj_on_of_nodup_map hwf.ids hp hq hid, hname]
    · intro hpname
      rw [List.inj_on_of_nodup_map hwf.names hp hq (by rw [hpname, hname])]

theorem changeRows_of_fits {fits selects : ρ → Bool} {change : ρ → ρ} {rows : List ρ} (h : ∀ r ∈ rows, fits r = true)
    (hchange : ∀ r, fits r = true → fits (change r) = true) :
    changeRows fits selects change rows = some (rows.map fun r => if selects r then change r else r) := by
  refine if_neg ?_
  rintro ⟨r, hr, -, hfits⟩
  exact absurd (hchange r (h r hr)) (by rw [hfits]; exact Bool.false_ne_true)

theorem insertRows_of_fits {fits : ρ → Bool} {news rows : List ρ} (h : ∀ r ∈ news, fits r = true) :
    insertRows fits news rows = some (rows ++ news) := by
  refine if_neg ?_
  rintro ⟨r, hr, hfits⟩
  exact absurd (h r hr) (by rw [hfits]; exact Bool.false_ne_true)

/-- Where only the history is in question. -/
theorem onlyOf_iff (hwf : db.WellFormed col) (h : Honest db db') :
    OnlyOf name pluginId db db' ↔ ∀ w ∈ db'.writes, w.isOf name pluginId := by
  obtain ⟨ws, hws, hunchanged⟩ := h
  rw [hwf.unwritten, List.nil_append] at hws
  exact ⟨OnlyOf.writes, fun hw => ⟨hunchanged name pluginId (hws ▸ hw), hw⟩⟩

/-- The statement of `enable`, `disable` and `max_message_interval` writes only rows of the plugin if and only if it throws or no
other plugin with an installed row is selected. -/
theorem onlyOf_updateInstalled (hwf : db.WellFormed col) {change : InstalledPluginRow → InstalledPluginRow}
    (hchange : ∀ i, (change i).pluginId = i.pluginId) :
    OnlyOf name (db.idOf name) db (runStatements
      [Database.updateInstalled (fun i => i.pluginId ∈ db.selectedIds col pattern) change] db).1 ↔
    (∃ i ∈ db.installedPlugin, i.pluginId ∈ db.selectedIds col pattern ∧ (change i).fits = false) ∨
      ∀ i ∈ db.installedPlugin, ∀ p ∈ db.plugin, p.id = i.pluginId → Database.selects col pattern p = true → p.name = name := by
  have hhonest : ∀ f ∈ [Database.updateInstalled (fun i => i.pluginId ∈ db.selectedIds col pattern) change],
      ∀ db db', f db = some db' → Honest db db' :=
    List.forall_mem_singleton.2 fun _ _ => honest_updateInstalled hchange
  rw [onlyOf_iff hwf (honest_runStatements hhonest)]
  simp only [runStatements, Database.updateInstalled, changeRows, decide_eq_true_eq]
  split_ifs with hthrows
  · exact iff_of_true (by simp [hwf.unwritten]) (Or.inl hthrows)
  · simp only [hthrows, false_or, Option.map_some, hwf.unwritten, List.nil_append, List.forall_mem_map, List.mem_filter,
      decide_eq_true_eq, Write.isOf]
    constructor
    · rintro h i hi p hp hid hsel
      have hof := h i ⟨hi, mem_selectedIds.2 ⟨p, hp, hsel, hid⟩⟩
      rwa [← hid, idOf_eq_some hwf hp] at hof
    · rintro h i ⟨hi, hsel⟩
      obtain ⟨p, hp, hselects, hid⟩ := mem_selectedIds.1 hsel
      rw [← hid, idOf_eq_some hwf hp]
      exact h i hi p hp hid hselects

/-- The plugins without a row for the key: those that `CFG_INSERT` selects. -/
def Database.Missing (col : Collation) (key : Str) (db : Database) (pluginId : Nat) : Prop :=
  ∀ r ∈ db.parameter, r.pluginId = pluginId → Database.sameKey col r.key key = false

/-- When `set` writes only rows of the plugin. -/
def SetOnly (col : Collation) (key value defaultValue description pattern name : Str) (db : Database) : Prop :=
  key = [] ∨
  (∃ r ∈ db.parameter, (r.pluginId ∈ db.selectedIds col pattern ∧ Database.sameKey col r.key key = true) ∧
    ParameterRow.fits { r with value := value } = false) ∨
  (∀ r ∈ db.parameter, ∀ p ∈ db.plugin, p.id = r.pluginId → Database.selects col pattern p = true →
    Database.sameKey col r.key key = true → p.name = name) ∧
  ((ParameterRow.mk 0 0 key value defaultValue description).fits = false ∨
    ∀ p ∈ db.plugin, Database.selects col pattern p = true → db.Missing col key p.id → p.name = name)

theorem mem_missingIds {key : Str} {i : Nat} :
    i ∈ db.missingIds col pattern key ↔ i ∈ db.selectedIds col pattern ∧ db.Missing col key i := by
  simp [Database.missingIds, Database.Missing]

/-- The rows that are inserted, one for each of the plugins. -/
def newRows (pluginIds : List Nat) (row : Nat → Nat → ParameterRow) (db : Database) : List ParameterRow :=
  pluginIds.zipIdx.map fun p => row (db.nextParameter + p.2) p.1

theorem pluginIds_newRows (db : Database) (pluginIds : List Nat) (row : Nat → Nat → ParameterRow)
    (hrow : ∀ id i, (row id i).pluginId = i) :
    (newRows pluginIds row db).map ParameterRow.pluginId = pluginIds := by
  rw [newRows, List.map_map]
  exact (List.map_congr_left fun p _ => hrow _ _).trans (List.zipIdx_map_fst 0 pluginIds)

theorem writes_newRows (db : Database) (pluginIds : List Nat) (row : Nat → Nat → ParameterRow)
    (hrow : ∀ id i, (row id i).pluginId = i) :
    (newRows pluginIds row db).map (fun r => Write.parameter r.pluginId) = pluginIds.map .parameter := by
  conv_rhs => rw [← pluginIds_newRows db pluginIds row hrow, List.map_map]
  rfl

theorem missing_changed {selects : ParameterRow → Bool} {change : ParameterRow → ParameterRow} {key : Str} {i : Nat}
    {writes : List Write} (hid : ∀ r, (change r).pluginId = r.pluginId) (hkey : ∀ r, (change r).key = r.key) :
    Database.Missing col key { db with
      parameter := db.parameter.map fun r => if selects r then change r else r, writes := writes } i ↔ db.Missing col key i := by
  have hsame : ∀ r, (if selects r then change r else r).pluginId = r.pluginId ∧ (if selects r then change r else r).key = r.key := by
    intro r
    split_ifs
    · exact ⟨hid r, hkey r⟩
    · exact ⟨rfl, rfl⟩
  simp only [Database.Missing, List.forall_mem_map, hsame]

theorem cfgInsert_eq (col : Collation) (pattern key value defaultValue description : Str) (db : Database) :
    db.cfgInsert col pattern key value defaultValue description =
      if db.missingIds col pattern key ≠ [] ∧ (ParameterRow.mk 0 0 key value defaultValue description).fits = false then none
      else some { db with
        parameter := db.parameter ++ newRows (db.missingIds col pattern key)
          (fun id pluginId => ⟨id, pluginId, key, value, defaultValue, description⟩) db
        nextParameter := db.nextParameter + (db.missingIds col pattern key).length
        writes := db.writes ++ (db.missingIds col pattern key).map .parameter } := by
  have hthrows : (∃ r ∈ newRows (db.missingIds col pattern key)
      (fun id pluginId => ⟨id, pluginId, key, value, defaultValue, description⟩) db, r.fits = false) ↔
      db.missingIds col pattern key ≠ [] ∧ (ParameterRow.mk 0 0 key value defaultValue description).fits = false := by
    constructor
    · rintro ⟨r, hr, hfits⟩
      obtain ⟨p, hp, rfl⟩ := List.mem_map.1 hr
      exact ⟨List.ne_nil_of_mem (List.fst_mem_of_mem_zipIdx hp), hfits⟩
    · rintro ⟨hne, hfits⟩
      obtain ⟨i, hi⟩ := List.exists_mem_of_ne_nil _ hne
      have hids := pluginIds_newRows db (db.missingIds col pattern key)
        (fun id pluginId => ⟨id, pluginId, key, value, defaultValue, description⟩) fun _ _ => rfl
      rw [← hids] at hi
      obtain ⟨r, hr, -⟩ := List.mem_map.1 hi
      refine ⟨r, hr, ?_⟩
      obtain ⟨p, hp, rfl⟩ := List.mem_map.1 hr
      exact hfits
  rw [Database.cfgInsert, Database.insertParameter, insertRows]
  by_cases h : db.missingIds col pattern key ≠ [] ∧ (ParameterRow.mk 0 0 key value defaultValue description).fits = false
  · rw [if_pos h]
    exact congrArg (Option.map _) (if_pos (hthrows.2 h))
  · rw [if_neg h]
    exact congrArg (Option.map _) (if_neg (mt hthrows.1 h))

theorem onlyOf_set (hwf : db.WellFormed col) {key value defaultValue description : Str} :
    OnlyOf name (db.idOf name) db (set col key value defaultValue description pattern db).1 ↔
      SetOnly col key value defaultValue description pattern name db := by
  have hhonest : Honest db (set col key value defaultValue description pattern db).1 := by
    unfold set
    split_ifs
    · exact Honest.refl
    · refine honest_runStatements (List.forall_mem_cons.2 ⟨fun _ _ => honest_updateParameter fun _ => rfl, ?_⟩)
      exact List.forall_mem_singleton.2 fun _ _ => honest_insertParameter fun _ _ => rfl
  rw [onlyOf_iff hwf hhonest, set, SetOnly]
  split_ifs with hkey
  · exact iff_of_true (by simp [hwf.unwritten]) (Or.inl hkey)
  rw [or_iff_right hkey]
  by_cases hthrows : ∃ r ∈ db.parameter, (r.pluginId ∈ db.selectedIds col pattern ∧ Database.sameKey col r.key key = true) ∧
      ParameterRow.fits { r with value := value } = false
  · refine iff_of_true ?_ (Or.inl hthrows)
    simp [runStatements, Database.updateParameter, changeRows, hthrows, hwf.unwritten]
  rw [or_iff_right hthrows]
  have hupdate : ∃ db', db.updateParameter (fun r => r.pluginId ∈ db.selectedIds col pattern ∧ Database.sameKey col r.key key)
      (fun r => { r with value := value }) = some db' ∧
      (∀ i, i ∈ db'.missingIds col pattern key ↔ i ∈ db.missingIds col pattern key) ∧
      db'.writes = (db.parameter.filter fun r => r.pluginId ∈ db.selectedIds col pattern ∧ Database.sameKey col r.key key).map
        fun r => .parameter r.pluginId := by
    rw [Database.updateParameter, changeRows, if_neg (by simpa only [decide_eq_true_eq] using hthrows), hwf.unwritten]
    refine ⟨_, rfl, fun i => ?_, rfl⟩
    rw [mem_missingIds, mem_missingIds]
    refine and_congr_right fun _ => missing_changed ?_ ?_
    · exact fun _ => rfl
    · exact fun _ => rfl
  obtain ⟨db', hdb', hmissing, hwrites⟩ := hupdate
  have hselected : (∀ w ∈ db'.writes, w.isOf name (db.idOf name)) ↔
      ∀ r ∈ db.parameter, ∀ p ∈ db.plugin, p.id = r.pluginId → Database.selects col pattern p = true →
        Database.sameKey col r.key key = true → p.name = name := by
    simp only [hwrites, List.forall_mem_map, List.mem_filter, decide_eq_true_eq, Write.isOf]
    constructor
    · intro h r hr p hp hid hsel hsame
      have hof := h r ⟨hr, mem_selectedIds.2 ⟨p, hp, hsel, hid⟩, hsame⟩
      rwa [← hid, idOf_eq_some hwf hp] at hof
    · rintro h r ⟨hr, hsel, hsame⟩
      obtain ⟨p, hp, hselects, hid⟩ := mem_selectedIds.1 hsel
      rw [← hid, idOf_eq_some hwf hp]
      exact h r hr p hp hid hselects hsame
  have hinserted : (∀ w ∈ (db'.missingIds col pattern key).map Write.parameter, w.isOf name (db.idOf name)) ↔
      ∀ p ∈ db.plugin, Database.selects col pattern p = true → db.Missing col key p.id → p.name = name := by
    simp only [List.forall_mem_map, hmissing, mem_missingIds, Write.isOf]
    constructor
    · intro h p hp hsel hmiss
      exact (idOf_eq_some hwf hp).1 (h p.id ⟨mem_selectedIds.2 ⟨p, hp, hsel, rfl⟩, hmiss⟩)
    · rintro h i ⟨hsel, hmiss⟩
      obtain ⟨p, hp, hselects, rfl⟩ := mem_selectedIds.1 hsel
      exact (idOf_eq_some hwf hp).2 (h p hp hselects hmiss)
  rw [← hselected, ← hinserted]
  simp only [runStatements, hdb', cfgInsert_eq]
  by_cases hfits : (ParameterRow.mk 0 0 key value defaultValue description).fits = false
  · refine Iff.trans ?_ (and_iff_left (Or.inl hfits)).symm
    by_cases hnil : db'.missingIds col pattern key = []
    · simp [hnil]
    · simp [hnil, hfits]
  · rw [Bool.not_eq_false] at hfits
    simp only [hfits, Bool.true_eq_false, and_false, if_false, false_or, List.forall_mem_append]

end V2xHub.TmxCtl
