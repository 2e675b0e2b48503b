import V2xHub.TmxCtl.PluginConfig

/-!
# Loading a manifest

What `load_manifest` leaves in the tables. The statements on `plugin` come first; from then on the selected plugins stay the
same, and each parameter of the manifest takes one update and one insert.
-/

namespace V2xHub.TmxCtl

variable {db db' d d' : Database} {col : Collation} {m : PluginManifest} {ρ : Type*} {c : ManifestParameter}
  {cs : List ManifestParameter} {pluginId : Nat} {ids : List Nat}

/-- The plugin of the manifest has what it says, and the parameters that it had keep their values. -/
structure Loaded (m : PluginManifest) (pluginId : Nat) (before after : Database) : Prop where
  plugin : ∃ p ∈ after.plugin, p.id = pluginId ∧ p.name = m.name ∧ p.description = some m.description ∧ p.version = some m.version
  installedPlugin : ∃ i ∈ after.installedPlugin, i.pluginId = pluginId ∧ i.path = m.pluginPath ∧ i.exeName = m.exeLocation ∧
    i.manifestName = m.manifestFile
  parameters : ∀ c ∈ m.parameters, ∃ r ∈ after.parameter, r.pluginId = pluginId ∧ r.key = c.key ∧ r.defaultValue = c.default ∧
    r.description = c.description
  values : ∀ r ∈ before.parameter, r.pluginId = pluginId →
    ∃ r' ∈ after.parameter, r'.id = r.id ∧ r'.pluginId = pluginId ∧ r'.key = r.key ∧ r'.value = r.value

/-! ### Rows that fit -/

def Database.Fits (db : Database) : Prop :=
  (∀ p ∈ db.plugin, p.fits = true) ∧ (∀ i ∈ db.installedPlugin, i.fits = true) ∧ ∀ r ∈ db.parameter, r.fits = true

theorem fits_changeRows {fits selects : ρ → Bool} {change : ρ → ρ} {rows rows' : List ρ} (h : ∀ r ∈ rows, fits r = true)
    (hupdate : changeRows fits selects change rows = some rows') : ∀ r ∈ rows', fits r = true := by
  obtain ⟨hnot, hrows⟩ := Option.ite_none_left_eq_some.1 hupdate
  cases hrows
  refine List.forall_mem_map.2 fun r hr => ?_
  split_ifs with hsel
  · by_contra hfits
    exact hnot ⟨r, hr, hsel, eq_false_of_ne_true hfits⟩
  · exact h r hr

theorem fits_insertRows {fits : ρ → Bool} {news rows rows' : List ρ} (h : ∀ r ∈ rows, fits r = true)
    (hinsert : insertRows fits news rows = some rows') : ∀ r ∈ rows', fits r = true := by
  obtain ⟨hnot, hrows⟩ := Option.ite_none_left_eq_some.1 hinsert
  cases hrows
  refine List.forall_mem_append.2 ⟨h, fun r hr => ?_⟩
  by_contra hfits
  exact hnot ⟨r, hr, eq_false_of_ne_true hfits⟩

theorem fits_updatePlugin {selects : PluginRow → Bool} {change : PluginRow → PluginRow} (h : db.Fits)
    (hstep : db.updatePlugin selects change = some db') : db'.Fits := by
  obtain ⟨rows, hrows, rfl⟩ := Option.map_eq_some_iff.1 hstep
  exact ⟨fits_changeRows h.1 hrows, h.2⟩

theorem fits_updateInstalled {selects : InstalledPluginRow → Bool} {change : InstalledPluginRow → InstalledPluginRow} (h : db.Fits)
    (hstep : db.updateInstalled selects change = some db') : db'.Fits := by
  obtain ⟨rows, hrows, rfl⟩ := Option.map_eq_some_iff.1 hstep
  exact ⟨h.1, fits_changeRows h.2.1 hrows, h.2.2⟩

theorem fits_updateParameter {selects : ParameterRow → Bool} {change : ParameterRow → ParameterRow} (h : db.Fits)
    (hstep : db.updateParameter selects change = some db') : db'.Fits := by
  obtain ⟨rows, hrows, rfl⟩ := Option.map_eq_some_iff.1 hstep
  exact ⟨h.1, h.2.1, fits_changeRows h.2.2 hrows⟩

theorem fits_insertPlugin {name : Str} {description version : Option Str} (h : db.Fits)
    (hstep : db.insertPlugin name description version = some db') : db'.Fits := by
  obtain ⟨rows, hrows, rfl⟩ := Option.map_eq_some_iff.1 hstep
  exact ⟨fits_insertRows h.1 hrows, h.2⟩

theorem fits_insertInstalled {row : Nat → Nat → InstalledPluginRow} (h : db.Fits)
    (hstep : db.insertInstalled ids row = some db') : db'.Fits := by
  obtain ⟨rows, hrows, rfl⟩ := Option.map_eq_some_iff.1 hstep
  exact ⟨h.1, fits_insertRows h.2.1 hrows, h.2.2⟩

theorem fits_insertParameter {row : Nat → Nat → ParameterRow} (h : db.Fits)
    (hstep : db.insertParameter ids row = some db') : db'.Fits := by
  obtain ⟨rows, hrows, rfl⟩ := Option.map_eq_some_iff.1 hstep
  exact ⟨h.1, h.2.1, fits_insertRows h.2.2 hrows⟩

theorem fits_pluginInsert (h : db.Fits) (hstep : m.pluginInsert col db = some db') : db'.Fits := by
  unfold PluginManifest.pluginInsert at hstep
  split_ifs at hstep
  · cases hstep
    exact h
  · exact fits_insertPlugin h hstep

/-- What every statement of a manifest keeps, the run keeps. -/
theorem runStatements_induction {P : Database → Prop} {fs : List (Database → Option Database)} (h : P db)
    (hfs : ∀ f ∈ fs, ∀ db db', P db → f db = some db' → P db') : P (runStatements fs db).1 := by
  induction fs generalizing db with
  | nil => exact h
  | cons f fs ih =>
    obtain ⟨hf, hfs⟩ := List.forall_mem_cons.1 hfs
    rcases hdb : f db with _ | db'
    · simp only [runStatements, hdb]
      exact h
    · simp only [runStatements, hdb]
      exact ih (hf db db' h hdb) hfs

theorem forall_statements {P : (Database → Option Database) → Prop} (h1 : P (m.pluginUpdate col)) (h2 : P (m.pluginInsert col))
    (h3 : P (m.ipluginUpdate col)) (h4 : P (m.ipluginInsert col))
    (h5 : ∀ c ∈ m.parameters,
      P (m.cfgInfoUpdate col c) ∧ P (Database.cfgInsert col m.pattern c.key c.default c.default c.description)) :
    ∀ f ∈ m.statements col, P f := by
  intro f hf
  rcases List.mem_append.1 hf with hf | hf
  · simp only [List.mem_cons, List.not_mem_nil, or_false] at hf
    rcases hf with rfl | rfl | rfl | rfl
    · exact h1
    · exact h2
    · exact h3
    · exact h4
  · obtain ⟨c, hc, hf⟩ := List.mem_flatMap.1 hf
    simp only [List.mem_cons, List.not_mem_nil, or_false] at hf
    rcases hf with rfl | rfl
    · exact (h5 c hc).1
    · exact (h5 c hc).2

theorem fits_load (h : db.Fits) : (load_manifest col m db).1.Fits := by
  unfold load_manifest
  split_ifs
  · exact h
  · refine runStatements_induction h (forall_statements ?_ ?_ ?_ ?_ fun c _ => ⟨?_, ?_⟩)
    · exact fun _ _ => fits_updatePlugin
    · exact fun _ _ => fits_pluginInsert
    · exact fun _ _ => fits_updateInstalled
    · exact fun _ _ => fits_insertInstalled
    · exact fun _ _ => fits_updateParameter
    · exact fun _ _ => fits_insertParameter

theorem honest_load : Honest db (load_manifest col m db).1 := by
  unfold load_manifest
  split_ifs
  · exact Honest.refl
  · refine honest_runStatements (forall_statements ?_ ?_ ?_ ?_ fun c _ => ⟨?_, ?_⟩)
    · exact fun _ _ => honest_updatePlugin fun _ => rfl
    · intro db db' h
      unfold PluginManifest.pluginInsert at h
      split_ifs at h
      · cases h
        exact Honest.refl
      · exact honest_insertPlugin h
    · exact fun _ _ => honest_updateInstalled fun _ => rfl
    · exact fun _ _ => honest_insertInstalled fun _ _ => rfl
    · exact fun _ _ => honest_updateParameter fun _ => rfl
    · exact fun _ _ => honest_insertParameter fun _ _ => rfl

/-- The texts of the manifest have room in their columns. -/
structure PluginManifest.Fits (m : PluginManifest) : Prop where
  plugin : m.name.length ≤ 100 ∧ text m.description = true ∧ text m.version = true
  installedPlugin : text m.pluginPath = true ∧ text m.exeLocation = true ∧ text m.manifestFile = true
  parameters : ∀ c ∈ m.parameters, c.key.length ≤ 255 ∧ text c.default = true ∧ text c.description = true

/-- What was loaded fits. -/
theorem Loaded.fits (h : Loaded m pluginId db db') (hfits : db'.Fits) : m.Fits := by
  refine ⟨?_, ?_, fun c hc => ?_⟩
  · obtain ⟨p, hp, -, hname, hdescription, hversion⟩ := h.plugin
    have hrow := hfits.1 p hp
    simpa [PluginRow.fits, hname, hdescription, hversion] using hrow
  · obtain ⟨i, hi, -, hpath, hexe, hmanifest⟩ := h.installedPlugin
    have hrow := hfits.2.1 i hi
    simp only [InstalledPluginRow.fits, hpath, hexe, hmanifest, decide_eq_true_eq] at hrow
    exact ⟨hrow.1, hrow.2.1, hrow.2.2.1⟩
  · obtain ⟨r, hr, -, hkey, hdefault, hdescription⟩ := h.parameters c hc
    have hrow := hfits.2.2 r hr
    simp only [ParameterRow.fits, hkey, hdefault, hdescription, decide_eq_true_eq] at hrow
    exact ⟨hrow.1, hrow.2.2⟩

/-! ### The statements on `plugin` -/

/-- The id that the plugin has, or gets. -/
def pluginIdOf (m : PluginManifest) (db : Database) : Nat := (db.idOf m.name).getD db.nextPlugin

/-- No name is equal to that of the manifest and spelled otherwise. -/
def SameSpelling (col : Collation) (m : PluginManifest) (db : Database) : Prop :=
  ∀ p ∈ db.plugin, Database.sameKey col p.name m.name = true → p.name = m.name

/-- The plugins once the two statements on `plugin` are done. -/
structure PluginStage (m : PluginManifest) (db d : Database) : Prop where
  named : ∃ p ∈ d.plugin, p.id = pluginIdOf m db ∧ p.name = m.name ∧ p.description = some m.description ∧
    p.version = some m.version
  id : ∀ p ∈ d.plugin, p.id = pluginIdOf m db ↔ p.name = m.name
  nodup : (d.plugin.map PluginRow.id).Nodup
  old : ∀ p ∈ db.plugin, ∃ q ∈ d.plugin, q.id = p.id ∧ q.name = p.name
  new : ∀ q ∈ d.plugin, q.name = m.name ∨ ∃ p ∈ db.plugin, p.id = q.id ∧ p.name = q.name
  installedPlugin : d.installedPlugin = db.installedPlugin
  parameter : d.parameter = db.parameter
  writes : ∀ w ∈ d.writes, w.isOf m.name (some (pluginIdOf m db))

theorem find_of_mem (hwf : db.WellFormed col) {p : PluginRow} (hp : p ∈ db.plugin) (hname : p.name = m.name) :
    pluginIdOf m db = p.id := by
  rw [pluginIdOf, ← (idOf_eq_some hwf hp).2 hname, Option.getD_some]

theorem find_of_not_mem (h : ∀ p ∈ db.plugin, p.name ≠ m.name) : pluginIdOf m db = db.nextPlugin := by
  have hnone : db.idOf m.name = none := by
    rw [Database.idOf, Option.map_eq_none_iff, List.find?_eq_none]
    simpa using h
  rw [pluginIdOf, hnone, Option.getD_none]

theorem runStatements_two {f g : Database → Option Database} (hf : f db = some d) (hg : g d = some d') :
    runStatements [f, g] db = (d', true) := by
  simp only [runStatements, hf, hg]

theorem SameSpelling.sameKey (hsame : SameSpelling col m db) {p : PluginRow} (hp : p ∈ db.plugin) :
    Database.sameKey col p.name m.name = decide (p.name = m.name) := by
  by_cases hname : p.name = m.name
  · simp [hname, Database.sameKey]
  · rw [decide_eq_false hname]
    exact eq_false_of_ne_true fun h => hname (hsame p hp h)

theorem fits_described (hfits : m.Fits) {p : PluginRow} (hp : p.fits = true) :
    PluginRow.fits { p with description := some m.description, version := some m.version } = true := by
  simp only [PluginRow.fits, decide_eq_true_eq, Option.all_some] at hp ⊢
  exact ⟨hp.1, hfits.plugin.2⟩

/-- Where the plugin is there, it is updated. -/
theorem pluginStage_updated (hwf : db.WellFormed col) (hfits : m.Fits) (hsame : SameSpelling col m db) {p : PluginRow}
    (hp : p ∈ db.plugin) (hname : p.name = m.name) :
    ∃ d, runStatements [m.pluginUpdate col, m.pluginInsert col] db = (d, true) ∧ PluginStage m db d := by
  have hupdate : m.pluginUpdate col db = some _ :=
    congrArg (Option.map _) (changeRows_of_fits hwf.fits.1 fun _ hq => fits_described hfits hq)
  have hid := find_of_mem hwf hp hname
  have hsel := (hsame.sameKey hp).trans (decide_eq_true hname)
  set change : PluginRow → PluginRow := fun q =>
    if Database.sameKey col q.name m.name then { q with description := some m.description, version := some m.version } else q
    with hchange
  have hsameRow : ∀ q, (change q).id = q.id ∧ (change q).name = q.name := by
    intro q
    simp only [hchange]
    split_ifs
    · exact ⟨rfl, rfl⟩
    · exact ⟨rfl, rfl⟩
  have hinsert : ∀ d : Database, d.plugin = db.plugin.map change → m.pluginInsert col d = some d := by
    intro d hd
    refine if_pos (List.any_eq_true.2 ⟨change p, ?_, by rwa [(hsameRow p).2]⟩)
    rw [hd]
    exact List.mem_map_of_mem hp
  refine ⟨_, runStatements_two hupdate (hinsert _ rfl), ?_⟩
  refine ⟨⟨change p, List.mem_map_of_mem hp, ?_⟩, List.forall_mem_map.2 fun q hq => ?_, ?_, fun q hq => ?_,
    List.forall_mem_map.2 fun q hq => ?_, rfl, rfl, ?_⟩
  · rw [show change p = { p with description := some m.description, version := some m.version } from if_pos hsel]
    exact ⟨hid.symm, hname, rfl, rfl⟩
  · rw [hid]
    show (change q).id = _ ↔ (change q).name = _
    rw [(hsameRow q).1, (hsameRow q).2]
    constructor
    · intro heq
      rw [List.inj_on_of_nodup_map hwf.ids hq hp heq, hname]
    · intro heq
      rw [List.inj_on_of_nodup_map hwf.names hq hp (by rw [heq, hname])]
  · show ((db.plugin.map change).map PluginRow.id).Nodup
    have hids : PluginRow.id ∘ change = PluginRow.id := funext fun q => (hsameRow q).1
    rw [List.map_map, hids]
    exact hwf.ids
  · exact ⟨change q, List.mem_map_of_mem hq, hsameRow q⟩
  · exact Or.inr ⟨q, hq, (hsameRow q).1.symm, (hsameRow q).2.symm⟩
  · simp only [hwf.unwritten, List.nil_append, List.forall_mem_map, List.mem_filter, Write.isOf]
    exact fun q hq => hsame q hq.1 hq.2

/-- Where it is not, it is inserted. -/
theorem pluginStage_inserted (hwf : db.WellFormed col) (hfits : m.Fits) (hsame : SameSpelling col m db)
    (hnew : ∀ p ∈ db.plugin, p.name ≠ m.name) :
    ∃ d, runStatements [m.pluginUpdate col, m.pluginInsert col] db = (d, true) ∧ PluginStage m db d := by
  have hupdate : m.pluginUpdate col db = some _ :=
    congrArg (Option.map _) (changeRows_of_fits hwf.fits.1 fun _ hq => fits_described hfits hq)
  have hnone : ∀ p ∈ db.plugin, Database.sameKey col p.name m.name = false := fun p hp =>
    (hsame.sameKey hp).trans (decide_eq_false (hnew p hp))
  have hid := find_of_not_mem hnew
  have hmap : db.plugin.map (fun p =>
      if Database.sameKey col p.name m.name then { p with description := some m.description, version := some m.version } else p) =
      db.plugin := by
    refine (List.map_congr_left fun p hp => ?_).trans (List.map_id _)
    rw [hnone p hp]
    rfl
  have hfilter : (db.plugin.filter fun p => Database.sameKey col p.name m.name) = [] :=
    List.filter_eq_nil_iff.2 fun p hp => by simp [hnone p hp]
  rw [hmap, hfilter, List.map_nil, List.append_nil] at hupdate
  have hnot : ¬ (db.plugin.any fun p => Database.sameKey col p.name m.name) = true := by
    rw [List.any_eq_true]
    rintro ⟨p, hp, hsel⟩
    exact absurd hsel (by rw [hnone p hp]; exact Bool.false_ne_true)
  have hrow : ∀ r ∈ [PluginRow.mk db.nextPlugin m.name (some m.description) (some m.version)], r.fits = true := by
    rw [List.forall_mem_singleton]
    simp only [PluginRow.fits, Option.all_some, decide_eq_true_eq]
    exact hfits.plugin
  have hinsert : m.pluginInsert col db = some _ := (if_neg hnot).trans (congrArg (Option.map _) (insertRows_of_fits hrow))
  have hlt : ∀ p ∈ db.plugin, p.id ≠ db.nextPlugin := fun p hp => (hwf.fresh p hp).ne
  refine ⟨_, runStatements_two hupdate hinsert, ?_⟩
  refine ⟨⟨_, List.mem_append_right _ (List.mem_singleton_self _), hid.symm, rfl, rfl, rfl⟩, ?_, ?_, fun p hp => ?_,
    fun q hq => ?_, rfl, rfl, ?_⟩
  · rw [hid]
    refine List.forall_mem_append.2 ⟨fun p hp => ?_, List.forall_mem_singleton.2 (iff_of_true rfl rfl)⟩
    exact iff_of_false (hlt p hp) (hnew p hp)
  · show ((db.plugin ++ [_]).map PluginRow.id).Nodup
    rw [List.map_append, List.nodup_append]
    refine ⟨hwf.ids, List.nodup_singleton _, ?_⟩
    rintro i hi j hj rfl
    obtain ⟨p, hp, rfl⟩ := List.mem_map.1 hi
    exact hlt p hp (List.mem_singleton.1 hj)
  · exact ⟨p, List.mem_append_left _ hp, rfl, rfl⟩
  · rcases List.mem_append.1 hq with hq | hq
    · exact Or.inr ⟨q, hq, rfl, rfl⟩
    · exact Or.inl (by rw [List.mem_singleton.1 hq])
  · simp [hwf.unwritten, Write.isOf]

theorem pluginStage (hwf : db.WellFormed col) (hfits : m.Fits) (hsame : SameSpelling col m db) :
    ∃ d, runStatements [m.pluginUpdate col, m.pluginInsert col] db = (d, true) ∧ PluginStage m db d := by
  by_cases hexists : ∃ p ∈ db.plugin, p.name = m.name
  · obtain ⟨p, hp, hname⟩ := hexists
    exact pluginStage_updated hwf hfits hsame hp hname
  · exact pluginStage_inserted hwf hfits hsame fun p hp hname => hexists ⟨p, hp, hname⟩

/-! ### The statements on `installedPlugin` -/

/-- The installed plugins once the two statements on `installedPlugin` are done. -/
structure InstalledStage (m : PluginManifest) (ids : List Nat) (d d' : Database) : Prop where
  plugin : d'.plugin = d.plugin
  parameter : d'.parameter = d.parameter
  installed : ∀ i ∈ ids, ∃ row ∈ d'.installedPlugin, row.pluginId = i ∧ row.path = m.pluginPath ∧ row.exeName = m.exeLocation ∧
    row.manifestName = m.manifestFile
  none : ids = [] → d'.installedPlugin = d.installedPlugin
  writes : ∀ i ∈ ids, .installedPlugin i ∈ d'.writes
  written : ∀ w ∈ d'.writes, w ∈ d.writes ∨ ∃ i ∈ ids, w = .installedPlugin i

theorem mem_zipIdx_of_mem {i : Nat} (hi : i ∈ ids) : ∃ p ∈ ids.zipIdx, p.1 = i := by
  rw [← List.zipIdx_map_fst 0 ids] at hi
  exact List.mem_map.1 hi

theorem installed_missing {i : Nat} (hi : i ∈ d.selectedIds col m.pattern) (h : ¬ ∃ row ∈ d.installedPlugin, row.pluginId = i)
    {change : InstalledPluginRow → InstalledPluginRow} (hchange : ∀ row, (change row).pluginId = row.pluginId) :
    i ∈ (d.selectedIds col m.pattern).filter fun pluginId =>
      ¬ (d.installedPlugin.map change).any fun row => row.pluginId = pluginId := by
  rw [List.mem_filter]
  refine ⟨hi, ?_⟩
  simp only [List.any_map, Bool.not_eq_true, decide_eq_true_eq, List.any_eq_false, Function.comp_apply, hchange]
  exact fun row hrow heq => h ⟨row, hrow, heq⟩

theorem installedStage (hfits : m.Fits) (hd : ∀ i ∈ d.installedPlugin, i.fits = true) (hids : d.selectedIds col m.pattern = ids) :
    ∃ d', runStatements [m.ipluginUpdate col, m.ipluginInsert col] d = (d', true) ∧ InstalledStage m ids d d' := by
  subst hids
  have hrows : ∀ i : InstalledPluginRow, i.fits = true →
      InstalledPluginRow.fits { i with path := m.pluginPath, exeName := m.exeLocation, manifestName := m.manifestFile } = true := by
    intro i hi
    simp only [InstalledPluginRow.fits, decide_eq_true_eq] at hi ⊢
    exact ⟨hfits.installedPlugin.1, hfits.installedPlugin.2.1, hfits.installedPlugin.2.2, hi.2.2.2⟩
  have hupdate : m.ipluginUpdate col d = some _ := congrArg (Option.map _) (changeRows_of_fits hd hrows)
  have hnews : ∀ (n : Nat) (pluginIds : List Nat), ∀ r ∈ pluginIds.zipIdx.map fun p : Nat × Nat =>
      InstalledPluginRow.mk (n + p.2) p.1 m.pluginPath m.exeLocation m.manifestFile [] 0 500000, r.fits = true := by
    intro n pluginIds
    refine List.forall_mem_map.2 fun p _ => ?_
    simp only [InstalledPluginRow.fits, decide_eq_true_eq]
    exact ⟨hfits.installedPlugin.1, hfits.installedPlugin.2.1, hfits.installedPlugin.2.2, rfl, by decide⟩
  have hchange : ∀ row : InstalledPluginRow, (if decide (row.pluginId ∈ d.selectedIds col m.pattern) then
      { row with path := m.pluginPath, exeName := m.exeLocation, manifestName := m.manifestFile } else row).pluginId =
      row.pluginId := by
    intro row
    split_ifs <;> rfl
  refine ⟨_, runStatements_two hupdate (congrArg (Option.map _) (insertRows_of_fits (hnews _ _))), rfl, rfl, fun i hi => ?_,
    fun hnil => ?_, fun i hi => ?_, fun w hw => ?_⟩
  · by_cases hexists : ∃ row ∈ d.installedPlugin, row.pluginId = i
    · obtain ⟨row, hrow, rfl⟩ := hexists
      refine ⟨_, List.mem_append_left _ (List.mem_map_of_mem hrow), ?_⟩
      simp [hi]
    · obtain ⟨p, hp, rfl⟩ := mem_zipIdx_of_mem (installed_missing hi hexists hchange)
      exact ⟨_, List.mem_append_right _ (List.mem_map_of_mem hp), rfl, rfl, rfl, rfl⟩
  · have hnone : ∀ row : InstalledPluginRow, ¬ decide (row.pluginId ∈ d.selectedIds col m.pattern) = true := by
      intro row
      simp [hnil]
    have hmap : d.installedPlugin.map (fun row => if decide (row.pluginId ∈ d.selectedIds col m.pattern) then
        { row with path := m.pluginPath, exeName := m.exeLocation, manifestName := m.manifestFile } else row) =
        d.installedPlugin :=
      (List.map_congr_left fun row _ => if_neg (hnone row)).trans (List.map_id _)
    show List.map _ _ ++ List.map _ (List.zipIdx (List.filter _ (d.selectedIds col m.pattern))) = _
    rw [hmap, hnil]
    exact List.append_nil _
  · by_cases hexists : ∃ row ∈ d.installedPlugin, row.pluginId = i
    · obtain ⟨row, hrow, rfl⟩ := hexists
      exact List.mem_append_left _ (List.mem_append_right _
        (List.mem_map_of_mem (List.mem_filter.2 ⟨hrow, decide_eq_true hi⟩)))
    · exact List.mem_append_right _ (List.mem_map_of_mem (installed_missing hi hexists hchange))
  · rcases List.mem_append.1 hw with hw | hw
    · rcases List.mem_append.1 hw with hw | hw
      · exact Or.inl hw
      · obtain ⟨row, hrow, rfl⟩ := List.mem_map.1 hw
        exact Or.inr ⟨_, of_decide_eq_true (List.mem_filter.1 hrow).2, rfl⟩
    · obtain ⟨i, hi, rfl⟩ := List.mem_map.1 hw
      exact Or.inr ⟨i, (List.mem_filter.1 hi).1, rfl⟩

/-! ### The statements on `pluginConfigurationParameter` -/

section Parameters
variable (col) (ids)

/-- A row that `CFG_INFO_UPDATE` selects: its own id is one of those of the plugins. -/
def cfgSelects (c : ManifestParameter) (r : ParameterRow) : Bool := r.id ∈ ids ∧ Database.sameKey col r.key c.key

def cfgChange (c : ManifestParameter) (r : ParameterRow) : ParameterRow :=
  if cfgSelects col ids c r then { r with defaultValue := c.default, description := c.description } else r

/-- The tables once the two statements for one parameter are done. -/
def CfgStep (c : ManifestParameter) (d d' : Database) : Prop :=
  d'.plugin = d.plugin ∧ d'.installedPlugin = d.installedPlugin ∧ ∃ news : List ParameterRow,
    d'.parameter = d.parameter.map (cfgChange col ids c) ++ news ∧
    d'.writes = d.writes ++ (d.parameter.filter (cfgSelects col ids c)).map (fun r => .parameter r.pluginId) ++
      news.map (fun r => .parameter r.pluginId) ∧
    (∀ i, i ∈ news.map ParameterRow.pluginId ↔ i ∈ ids ∧ d.Missing col c.key i) ∧
    (∀ r ∈ news, r.key = c.key ∧ r.defaultValue = c.default ∧ r.description = c.description) ∧
    (ids.Nodup → (news.map ParameterRow.pluginId).Nodup)

inductive CfgSteps : List ManifestParameter → Database → Database → Prop
  | nil (d : Database) : CfgSteps [] d d
  | cons {c : ManifestParameter} {cs : List ManifestParameter} {d d' d'' : Database} :
      CfgStep col ids c d d' → CfgSteps cs d' d'' → CfgSteps (c :: cs) d d''

end Parameters

theorem runStatements_append (fs gs : List (Database → Option Database)) (h : runStatements fs db = (d, true)) :
    runStatements (fs ++ gs) db = runStatements gs d := by
  induction fs generalizing db with
  | nil =>
    cases h
    rfl
  | cons f fs ih =>
    rcases hdb : f db with _ | db'
    · simp [runStatements, hdb] at h
    · simp only [runStatements, hdb] at h
      simp only [List.cons_append, runStatements, hdb]
      exact ih h

theorem cfgStep (hc : c.key.length ≤ 255 ∧ text c.default = true ∧ text c.description = true)
    (hd : ∀ r ∈ d.parameter, r.fits = true) (hids : d.selectedIds col m.pattern = ids) :
    ∃ d', runStatements [m.cfgInfoUpdate col c, Database.cfgInsert col m.pattern c.key c.default c.default c.description] d =
      (d', true) ∧ CfgStep col ids c d d' ∧ ∀ r ∈ d'.parameter, r.fits = true := by
  subst hids
  have hrows : ∀ r : ParameterRow, r.fits = true →
      ParameterRow.fits { r with defaultValue := c.default, description := c.description } = true := by
    intro r hr
    simp only [ParameterRow.fits, decide_eq_true_eq] at hr ⊢
    exact ⟨hr.1, hr.2.1, hc.2⟩
  have hupdate : m.cfgInfoUpdate col c d = some _ := congrArg (Option.map _) (changeRows_of_fits hd hrows)
  have hnew : (ParameterRow.mk 0 0 c.key c.default c.default c.description).fits = true := by
    simp only [ParameterRow.fits, decide_eq_true_eq]
    exact ⟨hc.1, hc.2.1, hc.2⟩
  have hinsert := fun d : Database => (cfgInsert_eq col m.pattern c.key c.default c.default c.description d).trans
    (if_neg fun h => absurd (h.2.symm.trans hnew) Bool.false_ne_true)
  refine ⟨_, runStatements_two hupdate (hinsert _), ⟨rfl, rfl, newRows _ _ _, rfl, ?_, fun i => ?_, fun r hr => ?_, fun hnodup => ?_⟩,
    fun r hr => ?_⟩
  · exact congrArg₂ (· ++ ·) rfl (writes_newRows _ _ _ fun _ _ => rfl).symm
  · rw [pluginIds_newRows _ _ _ fun _ _ => rfl, mem_missingIds]
    refine and_congr Iff.rfl (missing_changed ?_ ?_)
    · exact fun _ => rfl
    · exact fun _ => rfl
  · obtain ⟨p, hp, rfl⟩ := List.mem_map.1 hr
    exact ⟨rfl, rfl, rfl⟩
  · rw [pluginIds_newRows _ _ _ fun _ _ => rfl]
    exact hnodup.filter _
  · rcases List.mem_append.1 hr with hr | hr
    · exact fits_changeRows hd (changeRows_of_fits hd hrows) r hr
    · obtain ⟨p, hp, rfl⟩ := List.mem_map.1 hr
      exact hnew

/-- The parameters of a manifest, from tables in which the plugins with these ids are selected. -/
theorem cfgSteps (hcs : ∀ c ∈ cs, c.key.length ≤ 255 ∧ text c.default = true ∧ text c.description = true)
    (hd : ∀ r ∈ d.parameter, r.fits = true) (hids : d.selectedIds col m.pattern = ids) :
    ∃ d', runStatements (cs.flatMap fun c => [m.cfgInfoUpdate col c,
        Database.cfgInsert col m.pattern c.key c.default c.default c.description]) d = (d', true) ∧ CfgSteps col ids cs d d' := by
  induction cs generalizing d with
  | nil => exact ⟨d, rfl, .nil d⟩
  | cons c cs ih =>
    obtain ⟨hc, hcs⟩ := List.forall_mem_cons.1 hcs
    obtain ⟨d1, hrun, hstep, hfits⟩ := cfgStep hc hd hids
    have hids1 : d1.selectedIds col m.pattern = ids := by rw [Database.selectedIds, hstep.1]; exact hids
    obtain ⟨d2, hrun2, hsteps⟩ := ih hcs hfits hids1
    exact ⟨d2, (runStatements_append _ _ hrun).trans hrun2, .cons hstep hsteps⟩

theorem cfgChange_same (col : Collation) (ids : List Nat) (c : ManifestParameter) (r : ParameterRow) :
    (cfgChange col ids c r).id = r.id ∧ (cfgChange col ids c r).pluginId = r.pluginId ∧
    (cfgChange col ids c r).key = r.key ∧ (cfgChange col ids c r).value = r.value := by
  unfold cfgChange
  split_ifs
  · exact ⟨rfl, rfl, rfl, rfl⟩
  · exact ⟨rfl, rfl, rfl, rfl⟩

theorem CfgSteps.tables (h : CfgSteps col ids cs d d') : d'.plugin = d.plugin ∧ d'.installedPlugin = d.installedPlugin := by
  induction h with
  | nil d => exact ⟨rfl, rfl⟩
  | cons hstep _ ih => exact ⟨ih.1.trans hstep.1, ih.2.trans hstep.2.1⟩

/-- A row keeps all but its default and its description, and these too if its id is none of those of the plugins. -/
theorem CfgSteps.old (h : CfgSteps col ids cs d d') {r : ParameterRow} (hr : r ∈ d.parameter) :
    ∃ r' ∈ d'.parameter, (r'.id = r.id ∧ r'.pluginId = r.pluginId ∧ r'.key = r.key ∧ r'.value = r.value) ∧ (r.id ∉ ids → r' = r) := by
  induction h generalizing r with
  | nil d => exact ⟨r, hr, ⟨rfl, rfl, rfl, rfl⟩, fun _ => rfl⟩
  | @cons c cs d d1 d2 hstep _ ih =>
    obtain ⟨-, -, news, hparameter, -⟩ := hstep
    have hmem : cfgChange col ids c r ∈ d1.parameter := by
      rw [hparameter]
      exact List.mem_append_left _ (List.mem_map_of_mem hr)
    obtain ⟨h1, h2, h3, h4⟩ := cfgChange_same col ids c r
    obtain ⟨r', hr', ⟨e1, e2, e3, e4⟩, hsame⟩ := ih hmem
    refine ⟨r', hr', ⟨e1.trans h1, e2.trans h2, e3.trans h3, e4.trans h4⟩, fun hid => ?_⟩
    have hchange : cfgChange col ids c r = r := if_neg (by simp [cfgSelects, hid])
    rw [hchange] at hsame
    exact hsame hid

theorem CfgSteps.mono (h : CfgSteps col ids cs d d') {w : Write} (hw : w ∈ d.writes) : w ∈ d'.writes := by
  induction h with
  | nil d => exact hw
  | cons hstep _ ih =>
    obtain ⟨-, -, news, -, hwrites, -⟩ := hstep
    exact ih (by rw [hwrites]; exact List.mem_append_left _ (List.mem_append_left _ hw))

theorem CfgSteps.wrote (h : CfgSteps col ids cs d d') (hc : c ∈ cs) {r : ParameterRow} (hr : r ∈ d.parameter)
    (hsel : cfgSelects col ids c r = true) : .parameter r.pluginId ∈ d'.writes := by
  induction h generalizing r with
  | nil d => cases hc
  | @cons c' cs d d1 d2 hstep hsteps ih =>
    obtain ⟨-, -, news, hparameter, hwrites, -⟩ := hstep
    rcases List.mem_cons.1 hc with rfl | hc
    · refine hsteps.mono ?_
      rw [hwrites]
      exact List.mem_append_left _ (List.mem_append_right _ (List.mem_map_of_mem (List.mem_filter.2 ⟨hr, hsel⟩)))
    · obtain ⟨h1, h2, h3, -⟩ := cfgChange_same col ids c' r
      rw [← h2]
      refine ih hc (r := cfgChange col ids c' r) ?_ ?_
      · rw [hparameter]
        exact List.mem_append_left _ (List.mem_map_of_mem hr)
      · rwa [cfgSelects, h1, h3]

/-- `pluginId_key` -/
def UniqueKeys (col : Collation) (rows : List ParameterRow) : Prop := (rows.map fun r => (r.pluginId, col.key r.key)).Nodup

theorem CfgStep.uniqueKeys (h : CfgStep col ids c d d') (hids : ids.Nodup) (hd : UniqueKeys col d.parameter) :
    UniqueKeys col d'.parameter := by
  obtain ⟨-, -, news, hparameter, -, hmem, hnews, hnodup⟩ := h
  have hold : (d.parameter.map (cfgChange col ids c)).map (fun r => (r.pluginId, col.key r.key)) =
      d.parameter.map fun r => (r.pluginId, col.key r.key) := by
    rw [List.map_map]
    refine List.map_congr_left fun r _ => ?_
    obtain ⟨-, h2, h3, -⟩ := cfgChange_same col ids c r
    rw [Function.comp_apply, h2, h3]
  rw [UniqueKeys, hparameter, List.map_append, hold, List.nodup_append]
  refine ⟨hd, ?_, ?_⟩
  · refine List.Nodup.of_map Prod.fst ?_
    rw [List.map_map]
    exact hnodup hids
  · rintro a ha b hb rfl
    obtain ⟨r, hr, hra⟩ := List.mem_map.1 ha
    obtain ⟨r', hr', hrb⟩ := List.mem_map.1 hb
    obtain ⟨hid, hkey⟩ := Prod.mk.inj (hra.trans hrb.symm)
    have hmissing := ((hmem r'.pluginId).1 (List.mem_map_of_mem hr')).2 r hr hid
    rw [(hnews r' hr').1] at hkey
    simp [Database.sameKey, hkey] at hmissing

theorem CfgSteps.uniqueKeys (h : CfgSteps col ids cs d d') (hids : ids.Nodup) (hd : UniqueKeys col d.parameter) :
    UniqueKeys col d'.parameter := by
  induction h with
  | nil d => exact hd
  | cons hstep _ ih => exact ih (hstep.uniqueKeys hids hd)

/-- Where no plugin is selected nothing is written. -/
theorem CfgSteps.none (h : CfgSteps col [] cs d d') : d'.parameter = d.parameter ∧ d'.writes = d.writes := by
  generalize hids : ([] : List Nat) = ids at h
  induction h with
  | nil d => exact ⟨rfl, rfl⟩
  | @cons c cs d d1 d2 hstep _ ih =>
    subst hids
    obtain ⟨-, -, news, hparameter, hwrites, hmem, -⟩ := hstep
    have hnews : news = [] := by
      rw [List.eq_nil_iff_forall_not_mem]
      exact fun r hr => absurd ((hmem r.pluginId).1 (List.mem_map_of_mem hr)).1 List.not_mem_nil
    have hchange : ∀ r : ParameterRow, cfgChange col [] c r = r := fun r => if_neg (by simp [cfgSelects])
    have hselects : d.parameter.filter (cfgSelects col [] c) = [] :=
      List.filter_eq_nil_iff.2 fun r _ => by simp [cfgSelects]
    rw [ih.1, ih.2, hparameter, hwrites, hnews, hselects, List.map_congr_left fun r _ => hchange r]
    simp

/-! ### When all is well -/

/-- No other plugin has a parameter of the manifest in a row whose id is that of the plugin. -/
def NoOtherRow (col : Collation) (cs : List ManifestParameter) (pluginId : Nat) (rows : List ParameterRow) : Prop :=
  ∀ c ∈ cs, ∀ r ∈ rows, r.id = pluginId → Database.sameKey col r.key c.key = true → r.pluginId = pluginId

/-- A row of the plugin for a parameter of the manifest has its spelling; and its default and description, or an id that is that
of the plugin. -/
def RowsMatch (col : Collation) (cs : List ManifestParameter) (pluginId : Nat) (rows : List ParameterRow) : Prop :=
  ∀ c ∈ cs, ∀ r ∈ rows, r.pluginId = pluginId → Database.sameKey col r.key c.key = true →
    r.key = c.key ∧ (r.id = pluginId ∨ r.defaultValue = c.default ∧ r.description = c.description)

/-- Parameters with equal keys are the same. -/
def DistinctKeys (col : Collation) (cs : List ManifestParameter) : Prop :=
  ∀ c ∈ cs, ∀ c' ∈ cs, Database.sameKey col c.key c'.key = true → c = c'

def HasParameter (pluginId : Nat) (d : Database) (c : ManifestParameter) : Prop :=
  ∃ r ∈ d.parameter, r.pluginId = pluginId ∧ r.key = c.key ∧ r.defaultValue = c.default ∧ r.description = c.description

variable {all : List ManifestParameter}

/-- One parameter: what holds of the rows keeps holding, the plugin has the parameter, and nothing else is written. -/
theorem cfgSelects_iff (hids : ∀ i, i ∈ ids ↔ i = pluginId) (r : ParameterRow) :
    cfgSelects col ids c r = true ↔ r.id = pluginId ∧ Database.sameKey col r.key c.key = true := by
  simp [cfgSelects, hids]

theorem cfgChange_of_selects {r : ParameterRow} (h : cfgSelects col ids c r = true) :
    cfgChange col ids c r = { r with defaultValue := c.default, description := c.description } := if_pos h

theorem cfgChange_of_not_selects {r : ParameterRow} (h : ¬ cfgSelects col ids c r = true) : cfgChange col ids c r = r := if_neg h

/-- The parameter of the step is there behind it. -/
theorem CfgStep.has (h : CfgStep col ids c d d') (hids : ∀ i, i ∈ ids ↔ i = pluginId) (hc : c ∈ all)
    (hmatch : RowsMatch col all pluginId d.parameter) : HasParameter pluginId d' c := by
  obtain ⟨-, -, news, hparameter, -, hmem, hnews, -⟩ := h
  by_cases hexists : ∃ r ∈ d.parameter, r.pluginId = pluginId ∧ Database.sameKey col r.key c.key = true
  · obtain ⟨r, hr, hid, hkey⟩ := hexists
    obtain ⟨hspelled, hvalues⟩ := hmatch c hc r hr hid hkey
    refine ⟨cfgChange col ids c r, hparameter ▸ List.mem_append_left _ (List.mem_map_of_mem hr), ?_⟩
    obtain ⟨-, h2, h3, -⟩ := cfgChange_same col ids c r
    refine ⟨h2.trans hid, h3.trans hspelled, ?_⟩
    by_cases hsel : cfgSelects col ids c r = true
    · rw [cfgChange_of_selects hsel]
      exact ⟨rfl, rfl⟩
    · rw [cfgChange_of_not_selects hsel]
      exact hvalues.resolve_left fun hpid => hsel ((cfgSelects_iff hids r).2 ⟨hpid, hkey⟩)
  · have hmissing : d.Missing col c.key pluginId := fun r hr hid =>
      eq_false_of_ne_true fun hkey => hexists ⟨r, hr, hid, hkey⟩
    obtain ⟨r, hr, hid⟩ := List.mem_map.1 ((hmem pluginId).2 ⟨(hids _).2 rfl, hmissing⟩)
    exact ⟨r, hparameter ▸ List.mem_append_right _ hr, hid, hnews r hr⟩

/-- And those that were there stay. -/
theorem CfgStep.keeps (h : CfgStep col ids c d d') (hids : ∀ i, i ∈ ids ↔ i = pluginId) (hc : c ∈ all)
    (hdistinct : DistinctKeys col all) {c' : ManifestParameter} (hc' : c' ∈ all) (hhas : HasParameter pluginId d c') :
    HasParameter pluginId d' c' := by
  obtain ⟨-, -, news, hparameter, -⟩ := h
  obtain ⟨r, hr, hid, hkey, hvalues⟩ := hhas
  refine ⟨cfgChange col ids c r, hparameter ▸ List.mem_append_left _ (List.mem_map_of_mem hr), ?_⟩
  obtain ⟨-, h2, h3, -⟩ := cfgChange_same col ids c r
  refine ⟨h2.trans hid, h3.trans hkey, ?_⟩
  by_cases hsel : cfgSelects col ids c r = true
  · rw [cfgChange_of_selects hsel]
    have hsame := ((cfgSelects_iff hids r).1 hsel).2
    rw [hkey] at hsame
    rw [hdistinct c' hc' c hc hsame]
    exact ⟨rfl, rfl⟩
  · rw [cfgChange_of_not_selects hsel]
    exact hvalues

theorem CfgStep.loads (name : Str) (h : CfgStep col ids c d d') (hids : ∀ i, i ∈ ids ↔ i = pluginId) (hc : c ∈ all)
    (hdistinct : DistinctKeys col all) (hother : NoOtherRow col all pluginId d.parameter)
    (hmatch : RowsMatch col all pluginId d.parameter) :
    NoOtherRow col all pluginId d'.parameter ∧ RowsMatch col all pluginId d'.parameter ∧ HasParameter pluginId d' c ∧
      (∀ c' ∈ all, HasParameter pluginId d c' → HasParameter pluginId d' c') ∧
      ((∀ w ∈ d.writes, w.isOf name (some pluginId)) → ∀ w ∈ d'.writes, w.isOf name (some pluginId)) := by
  have hhas := h.has hids hc hmatch
  have hkeeps : ∀ c' ∈ all, HasParameter pluginId d c' → HasParameter pluginId d' c' := fun c' hc' => h.keeps hids hc hdistinct hc'
  obtain ⟨-, -, news, hparameter, hwrites, hmem, hnews, -⟩ := h
  have hnewId : ∀ r ∈ news, r.pluginId = pluginId := fun r hr => (hids _).1 ((hmem _).1 (List.mem_map_of_mem hr)).1
  rw [NoOtherRow, RowsMatch, hparameter]
  refine ⟨fun c' hc' => List.forall_mem_append.2 ⟨List.forall_mem_map.2 fun r hr => ?_, fun r hr _ _ => hnewId r hr⟩,
    fun c' hc' => List.forall_mem_append.2 ⟨List.forall_mem_map.2 fun r hr hid hkey => ?_, fun r hr hid hkey => ?_⟩, hhas, hkeeps,
    fun hw => ?_⟩
  · obtain ⟨h1, h2, h3, -⟩ := cfgChange_same col ids c r
    rw [h1, h2, h3]
    exact hother c' hc' r hr
  · obtain ⟨h1, h2, h3, -⟩ := cfgChange_same col ids c r
    rw [h2] at hid
    rw [h3] at hkey
    rw [h1, h3]
    obtain ⟨hspelled, hvalues⟩ := hmatch c' hc' r hr hid hkey
    refine ⟨hspelled, ?_⟩
    by_cases hsel : cfgSelects col ids c r = true
    · exact Or.inl ((cfgSelects_iff hids r).1 hsel).1
    · rw [cfgChange_of_not_selects hsel]
      exact hvalues
  · obtain ⟨hk, hdefault, hdescription⟩ := hnews r hr
    rw [hk] at hkey
    obtain rfl := hdistinct c hc c' hc' hkey
    exact ⟨hk, Or.inr ⟨hdefault, hdescription⟩⟩
  · rw [hwrites]
    refine List.forall_mem_append.2 ⟨List.forall_mem_append.2 ⟨hw, ?_⟩, ?_⟩
    · refine List.forall_mem_map.2 fun r hr => ?_
      obtain ⟨hr, hsel⟩ := List.mem_filter.1 hr
      obtain ⟨hid, hkey⟩ := (cfgSelects_iff hids r).1 hsel
      exact congrArg some (hother c hc r hr hid hkey)
    · exact List.forall_mem_map.2 fun r hr => congrArg some (hnewId r hr)

theorem CfgSteps.loads (name : Str) (h : CfgSteps col ids cs d d') (hids : ∀ i, i ∈ ids ↔ i = pluginId) (hcs : ∀ c ∈ cs, c ∈ all)
    (hdistinct : DistinctKeys col all) (hother : NoOtherRow col all pluginId d.parameter)
    (hmatch : RowsMatch col all pluginId d.parameter) (hw : ∀ w ∈ d.writes, w.isOf name (some pluginId)) :
    (∀ c ∈ all, c ∈ cs ∨ HasParameter pluginId d c → HasParameter pluginId d' c) ∧
      ∀ w ∈ d'.writes, w.isOf name (some pluginId) := by
  induction h with
  | nil d => exact ⟨fun c _ hc => hc.resolve_left List.not_mem_nil, hw⟩
  | @cons c cs d d1 d2 hstep _ ih =>
    obtain ⟨hc, hcs⟩ := List.forall_mem_cons.1 hcs
    obtain ⟨hother1, hmatch1, hhas, hkeep, hw1⟩ := hstep.loads name hids hc hdistinct hother hmatch
    obtain ⟨hall, hw2⟩ := ih hcs hother1 hmatch1 (hw1 hw)
    refine ⟨fun c' hc' h => hall c' hc' ?_, hw2⟩
    rcases h with h | h
    · rcases List.mem_cons.1 h with rfl | h
      · exact Or.inr hhas
      · exact Or.inl h
    · exact Or.inr (hkeep c' hc' h)

/-! ### The main result -/

/-- The name of the manifest, taken as a pattern, selects its plugin. -/
def SelectsItself (col : Collation) (m : PluginManifest) : Prop := col.like m.pattern (m.name.map col.lower) = true

/-- When loading the manifest does what it should. -/
structure LoadsWell (col : Collation) (m : PluginManifest) (db : Database) : Prop where
  fits : m.Fits
  spelling : SameSpelling col m db
  selects : ∀ p ∈ db.plugin, Database.selects col m.pattern p = true → p.name = m.name
  selected : SelectsItself col m → DistinctKeys col m.parameters ∧ NoOtherRow col m.parameters (pluginIdOf m db) db.parameter ∧
    RowsMatch col m.parameters (pluginIdOf m db) db.parameter
  unselected : ¬ SelectsItself col m →
    (∃ i ∈ db.installedPlugin, i.pluginId = pluginIdOf m db ∧ i.path = m.pluginPath ∧ i.exeName = m.exeLocation ∧
      i.manifestName = m.manifestFile) ∧
    ∀ c ∈ m.parameters, HasParameter (pluginIdOf m db) db c

/-- Where a name of the table is equal to that of the manifest no other name is added. -/
theorem names_load (h : ∃ p ∈ db.plugin, Database.sameKey col p.name m.name = true) :
    ∀ p ∈ (load_manifest col m db).1.plugin, ∃ q ∈ db.plugin, q.name = p.name := by
  unfold load_manifest
  split_ifs
  · exact fun p hp => ⟨p, hp, rfl⟩
  refine (runStatements_induction (P := fun d => (∀ p ∈ d.plugin, ∃ q ∈ db.plugin, q.name = p.name) ∧
    ∃ p ∈ d.plugin, Database.sameKey col p.name m.name = true) ⟨fun p hp => ⟨p, hp, rfl⟩, h⟩
    (forall_statements ?_ ?_ ?_ ?_ fun c _ => ⟨?_, ?_⟩)).1
  · rintro d d' ⟨hnames, p, hp, hkey⟩ hstep
    obtain ⟨rows, hrows, rfl⟩ := Option.map_eq_some_iff.1 hstep
    obtain ⟨-, hrows⟩ := Option.ite_none_left_eq_some.1 hrows
    cases hrows
    have hsame : ∀ q : PluginRow, (if Database.sameKey col q.name m.name then
        { q with description := some m.description, version := some m.version } else q).name = q.name := by
      intro q
      split_ifs <;> rfl
    refine ⟨List.forall_mem_map.2 fun q hq => ?_, _, List.mem_map_of_mem hp, by rwa [hsame]⟩
    rw [hsame]
    exact hnames q hq
  · rintro d d' ⟨hnames, p, hp, hkey⟩ hstep
    rw [PluginManifest.pluginInsert, if_pos (List.any_eq_true.2 ⟨p, hp, hkey⟩)] at hstep
    cases hstep
    exact ⟨hnames, p, hp, hkey⟩
  all_goals
    intro d d' hd hstep
    obtain ⟨rows, -, rfl⟩ := Option.map_eq_some_iff.1 hstep
    exact hd

/-- The stages of a manifest whose texts fit. -/
theorem load_stages (hwf : db.WellFormed col) (hname : m.name ≠ []) (hfits : m.Fits) (hsame : SameSpelling col m db) :
    ∃ d1 d2, PluginStage m db d1 ∧ InstalledStage m (d1.selectedIds col m.pattern) d1 d2 ∧
      CfgSteps col (d1.selectedIds col m.pattern) m.parameters d2 (load_manifest col m db).1 := by
  obtain ⟨d1, hrun1, hstage1⟩ := pluginStage hwf hfits hsame
  obtain ⟨d2, hrun2, hstage2⟩ := installedStage hfits (hstage1.installedPlugin ▸ hwf.fits.2.1) rfl
  have hids : d2.selectedIds col m.pattern = d1.selectedIds col m.pattern := by
    rw [Database.selectedIds, hstage2.plugin]
    rfl
  obtain ⟨d3, hrun3, hsteps⟩ := cfgSteps hfits.parameters
    (show ∀ r ∈ d2.parameter, r.fits = true by rw [hstage2.parameter, hstage1.parameter]; exact hwf.fits.2.2) hids
  refine ⟨d1, d2, hstage1, hstage2, ?_⟩
  have hload : load_manifest col m db = (d3, true) := by
    rw [load_manifest, if_neg hname]
    exact (runStatements_append [_, _] _ hrun1).trans ((runStatements_append [_, _] _ hrun2).trans hrun3)
  rwa [hload]

theorem PluginStage.mem_ids (h : PluginStage m db d) : pluginIdOf m db ∈ d.selectedIds col m.pattern ↔ SelectsItself col m := by
  rw [mem_selectedIds]
  constructor
  · rintro ⟨p, hp, hsel, hid⟩
    rwa [Database.selects, (h.id p hp).1 hid] at hsel
  · intro hself
    obtain ⟨p, hp, hid, hname, -⟩ := h.named
    exact ⟨p, hp, by rwa [Database.selects, hname], hid⟩

theorem PluginStage.ids_eq (h : PluginStage m db d)
    (hselects : ∀ p ∈ db.plugin, Database.selects col m.pattern p = true → p.name = m.name) :
    ∀ i ∈ d.selectedIds col m.pattern, i = pluginIdOf m db := by
  intro i hi
  obtain ⟨p, hp, hsel, rfl⟩ := mem_selectedIds.1 hi
  refine (h.id p hp).2 ?_
  rcases h.new p hp with hname | ⟨q, hq, -, hname⟩
  · exact hname
  · rw [← hname]
    exact hselects q hq (by rwa [Database.selects, hname])

theorem LoadsWell.loaded (hwf : db.WellFormed col) (hname : m.name ≠ []) (h : LoadsWell col m db) :
    Loaded m (pluginIdOf m db) db (load_manifest col m db).1 ∧
      OnlyOf m.name (some (pluginIdOf m db)) db (load_manifest col m db).1 := by
  obtain ⟨d1, d2, hstage1, hstage2, hsteps⟩ := load_stages hwf hname h.fits h.spelling
  have hids := hstage1.ids_eq h.selects
  have hparameter : d2.parameter = db.parameter := hstage2.parameter.trans hstage1.parameter
  have hplugin : (load_manifest col m db).1.plugin = d1.plugin := hsteps.tables.1.trans hstage2.plugin
  have hwrites : ∀ w ∈ d2.writes, w.isOf m.name (some (pluginIdOf m db)) := by
    intro w hw
    rcases hstage2.written w hw with hw | ⟨i, hi, rfl⟩
    · exact hstage1.writes w hw
    · exact congrArg some (hids i hi)
  have hvalues : ∀ r ∈ db.parameter, r.pluginId = pluginIdOf m db → ∃ r' ∈ (load_manifest col m db).1.parameter,
      r'.id = r.id ∧ r'.pluginId = pluginIdOf m db ∧ r'.key = r.key ∧ r'.value = r.value := by
    intro r hr hid
    obtain ⟨r', hr', ⟨h1, h2, h3, h4⟩, -⟩ := hsteps.old (hparameter.symm ▸ hr)
    exact ⟨r', hr', h1, h2.trans hid, h3, h4⟩
  rw [onlyOf_iff hwf honest_load]
  by_cases hself : SelectsItself col m
  · have hmem := hstage1.mem_ids.2 hself
    obtain ⟨hdistinct, hother, hmatch⟩ := h.selected hself
    have hiff : ∀ i, i ∈ d1.selectedIds col m.pattern ↔ i = pluginIdOf m db := fun i => ⟨hids i, fun hi => hi ▸ hmem⟩
    obtain ⟨hall, hw⟩ := hsteps.loads m.name hiff (fun c hc => hc) hdistinct (hparameter ▸ hother) (hparameter ▸ hmatch) hwrites
    refine ⟨⟨hplugin ▸ hstage1.named, ?_, fun c hc => hall c hc (Or.inl hc), hvalues⟩, hw⟩
    rw [hsteps.tables.2]
    exact hstage2.installed _ hmem
  · have hnil : d1.selectedIds col m.pattern = [] := by
      rw [List.eq_nil_iff_forall_not_mem]
      exact fun i hi => hself (hstage1.mem_ids.1 (hids i hi ▸ hi))
    obtain ⟨hinstalled, hhas⟩ := h.unselected hself
    have hi := hsteps.tables.2.trans ((hstage2.none hnil).trans hstage1.installedPlugin)
    rw [hnil] at hsteps
    have hp := hsteps.none.1.trans hparameter
    refine ⟨⟨hplugin ▸ hstage1.named, hi ▸ hinstalled, fun c hc => ?_, hvalues⟩, hsteps.none.2 ▸ hwrites⟩
    rw [hp]
    exact hhas c hc

end V2xHub.TmxCtl
