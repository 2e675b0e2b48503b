import V2xHub.TmxCtl.LoadManifest

/-!
# One plugin

Loading a manifest, `enable`, `disable`, `max_message_interval` and `set` for the plugin of a name, and exactly when they touch
that plugin alone.
-/

namespace V2xHub.TmxCtl

variable {db d d' : Database} {col : Collation} {m : PluginManifest} {pluginId : Nat} {ids : List Nat} {cs : List ManifestParameter}
  {name pattern : Str}

/-! ### Only when all is well -/

theorem spelling_of_loaded (hwf : db.WellFormed col) (h : Loaded m pluginId db (load_manifest col m db).1) :
    SameSpelling col m db := by
  intro p hp hkey
  obtain ⟨p', hp', -, hname, -⟩ := h.plugin
  obtain ⟨q, hq, hqname⟩ := names_load ⟨p, hp, hkey⟩ p' hp'
  have hkeys : col.key p.name = col.key q.name := by
    rw [hqname, hname]
    simpa [Database.sameKey] using hkey
  rw [List.inj_on_of_nodup_map hwf.names hp hq hkeys, hqname, hname]

theorem nodup_selectedIds (h : (d.plugin.map PluginRow.id).Nodup) : (d.selectedIds col pattern).Nodup :=
  h.sublist (List.filter_sublist.map _)

/-- Two rows of one plugin with equal keys are one row. -/
theorem UniqueKeys.eq_of_sameKey {rows : List ParameterRow} (h : UniqueKeys col rows) {r r' : ParameterRow} (hr : r ∈ rows)
    (hr' : r' ∈ rows) (hid : r.pluginId = r'.pluginId) (hkey : Database.sameKey col r.key r'.key = true) : r = r' := by
  refine List.inj_on_of_nodup_map h hr hr' (Prod.ext hid ?_)
  simpa [Database.sameKey] using hkey

/-- From rows in which no plugin has two rows of one key: where the plugin is selected, what was loaded was to be loaded. -/
theorem CfgSteps.selected_of_loaded (h : CfgSteps col ids cs d d') (hids : ∀ i, i ∈ ids ↔ i = pluginId)
    (hd : UniqueKeys col d.parameter) (hnodup : ids.Nodup) (hhas : ∀ c ∈ cs, HasParameter pluginId d' c)
    (hw : ∀ w ∈ d'.writes, w.isOf name (some pluginId)) :
    DistinctKeys col cs ∧ NoOtherRow col cs pluginId d.parameter ∧ RowsMatch col cs pluginId d.parameter := by
  have hunique := h.uniqueKeys hnodup hd
  refine ⟨fun c hc c' hc' hkey => ?_, fun c hc r hr hid hkey => ?_, fun c hc r hr hid hkey => ?_⟩
  · obtain ⟨r, hr, hid, hk, hdefault, hdescription⟩ := hhas c hc
    obtain ⟨r', hr', hid', hk', hdefault', hdescription'⟩ := hhas c' hc'
    obtain rfl := hunique.eq_of_sameKey hr hr' (hid.trans hid'.symm) (by rwa [hk, hk'])
    cases c
    cases c'
    simp_all
  · have hsel : cfgSelects col ids c r = true := by
      rw [cfgSelects, decide_eq_true_eq]
      exact ⟨(hids _).2 hid, hkey⟩
    exact Option.some.inj (hw _ (h.wrote hc hr hsel))
  · obtain ⟨r', hr', ⟨-, hid', hkey', -⟩, hsame⟩ := h.old hr
    obtain ⟨r'', hr'', hid'', hk, hvalues⟩ := hhas c hc
    obtain rfl := hunique.eq_of_sameKey hr' hr'' (by rw [hid', hid, hid'']) (by rwa [hkey', hk])
    refine ⟨hkey'.symm.trans hk, or_iff_not_imp_left.2 fun hne => ?_⟩
    rwa [hsame (mt (hids r.id).1 hne)] at hvalues

theorem loadsWell_of_loaded (hwf : db.WellFormed col) (hname : m.name ≠ []) (h : Loaded m pluginId db (load_manifest col m db).1)
    (honly : OnlyOf m.name (some pluginId) db (load_manifest col m db).1) : LoadsWell col m db := by
  have hfits : m.Fits := h.fits (fits_load hwf.fits)
  have hsame := spelling_of_loaded hwf h
  obtain ⟨d1, d2, hstage1, hstage2, hsteps⟩ := load_stages hwf hname hfits hsame
  have hplugin : (load_manifest col m db).1.plugin = d1.plugin := hsteps.tables.1.trans hstage2.plugin
  have hparameter : d2.parameter = db.parameter := hstage2.parameter.trans hstage1.parameter
  have hid : pluginId = pluginIdOf m db := by
    obtain ⟨p, hp, hpid, hpname, -⟩ := h.plugin
    rw [← hpid]
    exact (hstage1.id p (hplugin ▸ hp)).2 hpname
  subst hid
  have hselects : ∀ p ∈ db.plugin, Database.selects col m.pattern p = true → p.name = m.name := by
    intro p hp hsel
    obtain ⟨q, hq, -, hqname⟩ := hstage1.old p hp
    rw [Database.selects, ← hqname] at hsel
    have hwritten := hsteps.mono (hstage2.writes q.id (mem_selectedIds.2 ⟨q, hq, hsel, rfl⟩))
    rw [← hqname]
    exact (hstage1.id q hq).1 (Option.some.inj (honly.writes _ hwritten))
  have hids := hstage1.ids_eq hselects
  refine ⟨hfits, hsame, hselects, fun hself => ?_, fun hself => ?_⟩
  · have hiff : ∀ i, i ∈ d1.selectedIds col m.pattern ↔ i = pluginIdOf m db :=
      fun i => ⟨hids i, fun hi => hi ▸ hstage1.mem_ids.2 hself⟩
    rw [← hparameter]
    refine hsteps.selected_of_loaded hiff ?_ (nodup_selectedIds hstage1.nodup) h.parameters honly.writes
    rw [hparameter]
    exact hwf.keys
  · have hnil : d1.selectedIds col m.pattern = [] := by
      rw [List.eq_nil_iff_forall_not_mem]
      exact fun i hi => hself (hstage1.mem_ids.1 (hids i hi ▸ hi))
    have hi := hsteps.tables.2.trans ((hstage2.none hnil).trans hstage1.installedPlugin)
    rw [hnil] at hsteps
    refine ⟨hi ▸ h.installedPlugin, fun c hc => ?_⟩
    have hhas := h.parameters c hc
    rwa [hsteps.none.1.trans hparameter] at hhas

theorem loaded_iff (hwf : db.WellFormed col) (hname : m.name ≠ []) :
    (∃ pluginId, Loaded m pluginId db (load_manifest col m db).1 ∧ OnlyOf m.name (some pluginId) db (load_manifest col m db).1) ↔
      LoadsWell col m db := by
  constructor
  · rintro ⟨pluginId, hloaded, honly⟩
    exact loadsWell_of_loaded hwf hname hloaded honly
  · exact fun h => ⟨_, h.loaded hwf hname⟩

/-! ### The commands -/

/-- No other plugin with an installed row is selected. -/
def SelectsOnly (col : Collation) (pattern name : Str) (db : Database) : Prop :=
  ∀ i ∈ db.installedPlugin, ∀ p ∈ db.plugin, p.id = i.pluginId → Database.selects col pattern p = true → p.name = name

theorem onlyOf_setEnabled (hwf : db.WellFormed col) (enabled : Nat) :
    OnlyOf name (db.idOf name) db (setEnabled col enabled pattern db).1 ↔ SelectsOnly col pattern name db := by
  have hchange : ∀ i : InstalledPluginRow, InstalledPluginRow.pluginId { i with enabled := enabled } = i.pluginId :=
    fun _ => rfl
  refine (onlyOf_updateInstalled hwf hchange).trans (or_iff_right ?_)
  rintro ⟨i, hi, -, hfits⟩
  exact absurd (hwf.fits.2.1 i hi) (by rw [show i.fits = false from hfits]; exact Bool.false_ne_true)

theorem onlyOf_max_message_interval (hwf : db.WellFormed col) (val : Nat) :
    OnlyOf name (db.idOf name) db (max_message_interval col val pattern db).1 ↔
      2 ^ 32 ≤ val ∨ SelectsOnly col pattern name db := by
  have hchange : ∀ i : InstalledPluginRow, InstalledPluginRow.pluginId { i with maxMessageInterval := val } = i.pluginId :=
    fun _ => rfl
  refine (onlyOf_updateInstalled hwf hchange).trans ?_
  have hfits : ∀ i ∈ db.installedPlugin, InstalledPluginRow.fits { i with maxMessageInterval := val } = false ↔ 2 ^ 32 ≤ val := by
    intro i hi
    have hrow := hwf.fits.2.1 i hi
    simp only [InstalledPluginRow.fits, decide_eq_true_eq, decide_eq_false_iff_not] at hrow ⊢
    simp [hrow]
  constructor
  · rintro (⟨i, hi, -, hval⟩ | h)
    · exact Or.inl ((hfits i hi).1 hval)
    · exact Or.inr h
  · rintro (hval | h)
    · by_cases hselected : ∃ i ∈ db.installedPlugin, i.pluginId ∈ db.selectedIds col pattern
      · obtain ⟨i, hi, hsel⟩ := hselected
        exact Or.inl ⟨i, hi, hsel, (hfits i hi).2 hval⟩
      · refine Or.inr fun i hi p hp hid hsel => absurd ⟨i, hi, ?_⟩ hselected
        exact mem_selectedIds.2 ⟨p, hp, hsel, hid⟩
    · exact Or.inr h

/-- Loading the manifest of a plugin does what it should and touches only that plugin if and only if the name, taken as a
pattern, is spelled in one way and selects no other plugin, the parameters that the update by `id` misses or hits are as they
should be, and the texts have room. The commands touch only the plugin of their name if and only if the name, taken as a pattern,
selects no other plugin with a row to write. -/
theorem one_plugin (hwf : db.WellFormed col) :
    (if m.name = [] then load_manifest col m db = (db, false)
      else (∃ pluginId, Loaded m pluginId db (load_manifest col m db).1 ∧
          OnlyOf m.name (some pluginId) db (load_manifest col m db).1) ↔ LoadsWell col m db) ∧
    ∀ name,
      (OnlyOf name (db.idOf name) db (enable col name db).1 ↔ SelectsOnly col name name db) ∧
      (OnlyOf name (db.idOf name) db (disable col name db).1 ↔ SelectsOnly col name name db) ∧
      (∀ val, OnlyOf name (db.idOf name) db (max_message_interval col val name db).1 ↔
        2 ^ 32 ≤ val ∨ SelectsOnly col name name db) ∧
      ∀ key value defaultValue description,
        OnlyOf name (db.idOf name) db (set col key value defaultValue description name db).1 ↔
          SetOnly col key value defaultValue description name name db := by
  refine ⟨?_, fun name => ⟨onlyOf_setEnabled hwf 1, onlyOf_setEnabled hwf 0, onlyOf_max_message_interval hwf, ?_⟩⟩
  · split_ifs with hname
    · exact if_pos hname
    · exact loaded_iff hwf hname
  · exact fun _ _ _ _ => onlyOf_set hwf

/-! Two plugins, `MAP` and `SPaT`, each with one parameter; and a manifest for a name, with the default of this parameter. -/

def level : Str := [76, 101, 118, 101, 108]

def twoPlugins : Database where
  plugin := [⟨1, [77, 65, 80], some [], none⟩, ⟨2, [83, 80, 97, 84], some [], none⟩]
  installedPlugin := [⟨1, 1, [47, 77], [109], [], [], 1, 500000⟩, ⟨2, 2, [47, 83], [115], [], [], 0, 500000⟩]
  parameter := [⟨1, 1, level, [49], [49], []⟩, ⟨3, 2, level, [50], [49], []⟩]
  nextPlugin := 3
  nextInstalled := 3
  nextParameter := 4
  writes := []

def manifestOf (name default : Str) : PluginManifest :=
  ⟨name, [], [50], [115], [⟨level, default, []⟩, ⟨[80, 111, 114, 116], [48], []⟩], [47, 83], []⟩

theorem wellFormed_twoPlugins : twoPlugins.WellFormed .latin1_swedish_ci := by
  constructor <;> decide +kernel

theorem loadsWell_twoPlugins : LoadsWell .latin1_swedish_ci (manifestOf [83, 80, 97, 84] [49]) twoPlugins := by
  refine ⟨⟨by decide, by decide, by decide⟩, ?_, ?_, fun _ => ⟨?_, ?_, ?_⟩, fun hself => ?_⟩
  · unfold SameSpelling
    decide +kernel
  · decide +kernel
  · unfold DistinctKeys
    decide +kernel
  · unfold NoOtherRow
    decide +kernel
  · unfold RowsMatch
    decide +kernel
  · exact absurd (by unfold SelectsItself; decide +kernel) hself

theorem one_plugin_twoPlugins : ∃ pluginId,
    Loaded (manifestOf [83, 80, 97, 84] [49]) pluginId twoPlugins
      (load_manifest .latin1_swedish_ci (manifestOf [83, 80, 97, 84] [49]) twoPlugins).1 ∧
    OnlyOf [83, 80, 97, 84] (some pluginId) twoPlugins
      (load_manifest .latin1_swedish_ci (manifestOf [83, 80, 97, 84] [49]) twoPlugins).1 := by
  have h := (one_plugin (m := manifestOf [83, 80, 97, 84] [49]) wellFormed_twoPlugins).1
  rw [if_neg (by decide)] at h
  exact h.2 loadsWell_twoPlugins

/-- A new default is not stored, since no row with the id of the plugin has the parameter; a plugin `_AP` takes the installation of
`MAP`, and `enable` with this name enables `MAP`. -/
theorem one_plugin_fails : twoPlugins.WellFormed .latin1_swedish_ci ∧
    (¬ ∃ pluginId, Loaded (manifestOf [83, 80, 97, 84] [50]) pluginId twoPlugins
        (load_manifest .latin1_swedish_ci (manifestOf [83, 80, 97, 84] [50]) twoPlugins).1 ∧
      OnlyOf [83, 80, 97, 84] (some pluginId) twoPlugins
        (load_manifest .latin1_swedish_ci (manifestOf [83, 80, 97, 84] [50]) twoPlugins).1) ∧
    (¬ ∃ pluginId, Loaded (manifestOf [95, 65, 80] [49]) pluginId twoPlugins
        (load_manifest .latin1_swedish_ci (manifestOf [95, 65, 80] [49]) twoPlugins).1 ∧
      OnlyOf [95, 65, 80] (some pluginId) twoPlugins
        (load_manifest .latin1_swedish_ci (manifestOf [95, 65, 80] [49]) twoPlugins).1) ∧
    ¬ OnlyOf [95, 65, 80] (twoPlugins.idOf [95, 65, 80]) twoPlugins (enable .latin1_swedish_ci [95, 65, 80] twoPlugins).1 := by
  refine ⟨wellFormed_twoPlugins, ?_, ?_, fun h => ?_⟩
  · rintro ⟨pluginId, hloaded, honly⟩
    have hwell := loadsWell_of_loaded (m := manifestOf [83, 80, 97, 84] [50]) wellFormed_twoPlugins (by decide) hloaded honly
    have hmatch := (hwell.selected (by unfold SelectsItself; decide +kernel)).2.2
    unfold RowsMatch at hmatch
    exact absurd hmatch (by decide +kernel)
  · rintro ⟨pluginId, hloaded, honly⟩
    have hwell := loadsWell_of_loaded (m := manifestOf [95, 65, 80] [49]) wellFormed_twoPlugins (by decide) hloaded honly
    exact absurd hwell.selects (by decide +kernel)
  · have hwritten : Write.installedPlugin 1 ∈ (enable .latin1_swedish_ci [95, 65, 80] twoPlugins).1.writes := by decide +kernel
    have hof : some 1 = twoPlugins.idOf [95, 65, 80] := h.writes _ hwritten
    exact absurd hof (by decide +kernel)

end V2xHub.TmxCtl
