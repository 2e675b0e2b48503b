import V2xHub.CommandPlugin.TelemetryFrames

/-!
# Replication of the telemetry

The update of a snapshot against the one before it has the values that are new and no others (`updates_new`,
`updates_complete`), so a client that merges it has the new snapshot, if no value has left apart from those of the plugins
that left the list. `replication` is that for every run whose steps are `Sound`.
-/

namespace V2xHub.CommandPlugin.Telemetry
open PropertyTree
variable {dataType : DataType} {path : List Str} {v : Str}

/-! ### Differences -/

theorem mem_of_lookup {α : Type} {entries : List (Str × α)} {name : Str} {a : α} (h : entries.lookup name = some a) :
    (name, a) ∈ entries := by
  obtain ⟨before, behind, rfl, -⟩ := List.lookup_eq_some_iff.1 h
  simp

theorem leaf_fields {fields : Fields} (h : Once fields) :
    (fieldsJson fields).leaf path = some v ↔ ∃ name, path = [name] ∧ (name, v) ∈ fields := by
  rw [fieldsJson, leaf_obj_map (fun f => .str f.2) h]
  constructor
  · rintro ⟨f, hf, rest, rfl, hleaf⟩
    obtain ⟨rfl, rfl⟩ := leaf_str.1 hleaf
    exact ⟨f.1, rfl, hf⟩
  · rintro ⟨name, rfl, hmem⟩
    exact ⟨(name, v), hmem, [], rfl, leaf_str.2 ⟨rfl, rfl⟩⟩

theorem leaf_configs {configs : List (Str × Fields)} (h : Once configs) (hfields : ∀ c ∈ configs, Once c.2) :
    (Json.obj (configs.map fun c => (c.1, fieldsJson c.2))).leaf path = some v ↔
      ∃ config name fields, path = [config, name] ∧ (config, fields) ∈ configs ∧ (name, v) ∈ fields := by
  rw [leaf_obj_map (fun c => fieldsJson c.2) h]
  constructor
  · rintro ⟨c, hc, rest, rfl, hleaf⟩
    obtain ⟨name, rfl, hname⟩ := (leaf_fields (hfields c hc)).1 hleaf
    exact ⟨c.1, name, c.2, rfl, hc, hname⟩
  · rintro ⟨config, name, fields, rfl, hc, hname⟩
    exact ⟨(config, fields), hc, [name], rfl, (leaf_fields (hfields _ hc)).2 ⟨name, rfl, hname⟩⟩

theorem once_changed (old : Option Fields) {fields : Fields} (h : Once fields) : Once (changed old fields) :=
  h.sublist (List.filter_sublist.map Prod.fst)

theorem once_changedConfigs (old : Option (List (Str × Fields))) {configs : List (Str × Fields)} (h : Once configs) :
    Once (changedConfigs old configs) := by
  have hall : Once (configs.map fun c => (c.1, changed (old.bind (·.lookup c.1)) c.2)) := by
    rw [Once, List.map_map]
    exact h
  exact hall.sublist (List.filter_sublist.map Prod.fst)

theorem changedConfigs_sublist {old : Option (List (Str × Fields))} {configs : List (Str × Fields)} :
    ∀ c ∈ changedConfigs old configs, ∃ fields, (c.1, fields) ∈ configs ∧ c.2.Sublist fields := by
  intro c hc
  obtain ⟨c', hc', rfl⟩ := List.mem_map.1 (List.mem_filter.1 hc).1
  exact ⟨c'.2, hc', List.filter_sublist⟩

theorem once_changedFields {old : Option (List (Str × Fields))} {configs : List (Str × Fields)}
    (h : ∀ c ∈ configs, Once c.2) : ∀ c ∈ changedConfigs old configs, Once c.2 := by
  intro c hc
  obtain ⟨fields, hmem, hsublist⟩ := changedConfigs_sublist c hc
  exact (h _ hmem).sublist (hsublist.map Prod.fst)

/-- What the update of a plugin has. -/
def updateJson (dataType : DataType) (old : Option (Sub dataType)) (plugin : Str × Sub dataType) : Json :=
  (updateMember dataType old plugin).value

theorem value_pairs (name : Str) (fields : Fields) : (nestedMember name (fields.map pairMember)).value = fieldsJson fields := by
  simp only [nestedMember, fieldsJson, List.map_map]
  rfl

theorem value_configs (old : Option (List (Str × Fields))) (plugin : Str × List (Str × Fields)) :
    updateJson .config old plugin = .obj ((changedConfigs old plugin.2).map fun c => (c.1, fieldsJson c.2)) := by
  simp only [updateJson, updateMember, nestedMember, List.map_map, fieldsJson]
  rfl

/-- The update of a plugin has values of the plugin only. -/
theorem updateJson_new {old : Option (Sub dataType)} {plugin : Str × Sub dataType} (h : StoredSub dataType plugin.2)
    (hleaf : (updateJson dataType old plugin).leaf path = some v) : (subJson dataType plugin.2).leaf path = some v := by
  cases dataType with
  | list | state =>
    rw [updateJson, updateMember, value_pairs, leaf_fields (once_changed old h.2)] at hleaf
    obtain ⟨name, rfl, hmem⟩ := hleaf
    exact (leaf_fields h.2).2 ⟨name, rfl, (List.mem_filter.1 hmem).1⟩
  | config =>
    have honce : ∀ c ∈ plugin.2, Once c.2 := fun c hc => (h.2 c hc).2
    rw [value_configs, leaf_configs (once_changedConfigs old h.1.2) (once_changedFields honce)] at hleaf
    obtain ⟨config, name, fields, rfl, hc, hname⟩ := hleaf
    obtain ⟨fields', hmem, hsublist⟩ := changedConfigs_sublist _ hc
    exact (leaf_configs h.1.2 honce).2 ⟨config, name, fields', rfl, hmem, hsublist.subset hname⟩
  | status => exact hleaf
  | systemConfig => exact hleaf

/-- The update of a plugin has each value that was not there before. -/
theorem updateJson_complete {old : Option (Sub dataType)} {plugin : Str × Sub dataType} (h : StoredSub dataType plugin.2)
    (hold : ∀ sub ∈ old, StoredSub dataType sub) (hleaf : (subJson dataType plugin.2).leaf path = some v) :
    (updateJson dataType old plugin).leaf path = some v ∨ ∃ sub ∈ old, (subJson dataType sub).leaf path = some v := by
  cases dataType with
  | list | state =>
    obtain ⟨name, rfl, hmem⟩ := (leaf_fields h.2).1 hleaf
    by_cases hsame : (old.bind (·.lookup name)) = some v
    · obtain ⟨sub, rfl, hlookup⟩ := Option.bind_eq_some_iff.1 hsame
      exact .inr ⟨sub, rfl, (leaf_fields (hold sub rfl).2).2 ⟨name, rfl, mem_of_lookup hlookup⟩⟩
    · rw [updateJson, updateMember, value_pairs, leaf_fields (once_changed old h.2)]
      exact .inl ⟨name, rfl, List.mem_filter.2 ⟨hmem, by simpa using hsame⟩⟩
  | config =>
    have honce : ∀ c ∈ plugin.2, Once c.2 := fun c hc => (h.2 c hc).2
    obtain ⟨config, name, fields, rfl, hmem, hname⟩ := (leaf_configs h.1.2 honce).1 hleaf
    by_cases hsame : ((old.bind (·.lookup config)).bind (·.lookup name)) = some v
    · obtain ⟨fields', hfields', hlookup⟩ := Option.bind_eq_some_iff.1 hsame
      obtain ⟨sub, rfl, hconfig⟩ := Option.bind_eq_some_iff.1 hfields'
      have hsub := hold sub rfl
      exact .inr ⟨sub, rfl, (leaf_configs hsub.1.2 fun c hc => (hsub.2 c hc).2).2
        ⟨config, name, fields', rfl, mem_of_lookup hconfig, mem_of_lookup hlookup⟩⟩
    · have hchanged : (name, v) ∈ changed (old.bind (·.lookup config)) fields :=
        List.mem_filter.2 ⟨hname, by simpa using hsame⟩
      have hconfig : (config, changed (old.bind (·.lookup config)) fields) ∈ changedConfigs old plugin.2 :=
        List.mem_filter.2 ⟨List.mem_map.2 ⟨(config, fields), hmem, rfl⟩, by
          simpa using List.ne_nil_of_mem hchanged⟩
      rw [value_configs, leaf_configs (once_changedConfigs old h.1.2) (once_changedFields honce)]
      exact .inl ⟨config, name, _, rfl, hconfig, hchanged⟩
  | status => exact .inl hleaf
  | systemConfig => exact .inl hleaf

/-! ### The update of a snapshot -/

section
variable {old snapshot : Snapshot dataType}

/-- The plugins of an update, in the order of the map. -/
def changedPlugins (old snapshot : Snapshot dataType) : Snapshot dataType :=
  (snapshot.filter fun plugin => old.lookup plugin.1 ≠ some plugin.2).insertionSort fun a b => a.1 ≤ b.1

theorem mem_changedPlugins {plugin : Str × Sub dataType} :
    plugin ∈ changedPlugins old snapshot ↔ plugin ∈ snapshot ∧ old.lookup plugin.1 ≠ some plugin.2 := by
  rw [changedPlugins, (List.perm_insertionSort _ _).mem_iff, List.mem_filter, decide_eq_true_iff]

theorem once_changedPlugins (h : Once snapshot) : Once (changedPlugins old snapshot) :=
  ((List.perm_insertionSort _ _).map Prod.fst).nodup_iff.2 (h.sublist (List.filter_sublist.map Prod.fst))

theorem sorted_map {α : Type} (entries : List (Str × α)) (text : Str × α → Str) :
    sorted (entries.map fun e => (e.1, text e)) =
      (entries.insertionSort fun a b => a.1 ≤ b.1).map fun e => (e.1, text e) := by
  rw [sorted, ← List.map_insertionSort (r := fun a b : Str × α => a.1 ≤ b.1)]
  exact fun _ _ _ _ => Iff.rfl

theorem sorted_updates : sorted (updates old snapshot) =
    (changedPlugins old snapshot).map fun plugin =>
      (plugin.1, updateText dataType (old.lookup plugin.1) plugin) := sorted_map _ _

/-- What an update has. -/
def updatesJson (old snapshot : Snapshot dataType) : Json :=
  .obj ((changedPlugins old snapshot).map fun plugin =>
    (plugin.1, updateJson dataType (old.lookup plugin.1) plugin))

theorem values_eq (h : dataType ≠ .systemConfig) (snapshot : Snapshot dataType) :
    values snapshot = (Json.obj (snapshot.map fun p => (p.1, subJson dataType p.2))).leaf := by
  cases dataType with
  | systemConfig => exact absurd rfl h
  | _ => rfl

theorem leaf_values (h : dataType ≠ .systemConfig) (honce : Once snapshot) : values snapshot path = some v ↔
    ∃ plugin ∈ snapshot, ∃ rest, path = plugin.1 :: rest ∧ (subJson dataType plugin.2).leaf rest = some v := by
  rw [values_eq h]
  exact leaf_obj_map (fun p => subJson dataType p.2) honce

theorem leaf_updates (honce : Once snapshot) : (updatesJson old snapshot).leaf path = some v ↔
    ∃ plugin ∈ changedPlugins old snapshot, ∃ rest, path = plugin.1 :: rest ∧
      (updateJson dataType (old.lookup plugin.1) plugin).leaf rest = some v :=
  leaf_obj_map _ (once_changedPlugins honce)

theorem updates_new (h : dataType ≠ .systemConfig) (hsnapshot : Stored snapshot)
    (hleaf : (updatesJson old snapshot).leaf path = some v) : values snapshot path = some v := by
  obtain ⟨plugin, hplugin, rest, rfl, hrest⟩ := (leaf_updates hsnapshot.1.1).1 hleaf
  have hmem := (mem_changedPlugins.1 hplugin).1
  exact (leaf_values h hsnapshot.1.1).2 ⟨plugin, hmem, rest, rfl, updateJson_new (hsnapshot.1.2 plugin hmem) hrest⟩

theorem updates_complete (h : dataType ≠ .systemConfig) (hold : Stored old) (hsnapshot : Stored snapshot)
    (hleaf : values snapshot path = some v) :
    (updatesJson old snapshot).leaf path = some v ∨ values old path = some v := by
  obtain ⟨plugin, hmem, rest, rfl, hrest⟩ := (leaf_values h hsnapshot.1.1).1 hleaf
  by_cases hsame : old.lookup plugin.1 = some plugin.2
  · exact .inr ((leaf_values h hold.1.1).2 ⟨plugin, mem_of_lookup hsame, rest, rfl, hrest⟩)
  · have hstored : ∀ sub ∈ old.lookup plugin.1, StoredSub dataType sub := fun sub hsub =>
      hold.1.2 _ (mem_of_lookup hsub)
    rcases updateJson_complete (hsnapshot.1.2 plugin hmem) hstored hrest with hleaf | ⟨sub, hsub, hleaf⟩
    · exact .inl ((leaf_updates hsnapshot.1.1).2 ⟨plugin, mem_changedPlugins.2 ⟨hmem, hsame⟩, rest, rfl, hleaf⟩)
    · exact .inr ((leaf_values h hold.1.1).2 ⟨(plugin.1, sub), mem_of_lookup hsub, rest, rfl, hleaf⟩)

/-- The frame of an update. -/
theorem value_updates (old snapshot : Snapshot dataType) (h : dataType ≠ .systemConfig)
    (hclean : ∀ plugin ∈ changedPlugins old snapshot, CleanUpdate dataType (old.lookup plugin.1) plugin) :
    Value (123 :: commas ((sorted (updates old snapshot)).map Prod.snd) ++ [125]) (updatesJson old snapshot) := by
  have hvalue := value_members
    ((changedPlugins old snapshot).map fun plugin => updateMember dataType (old.lookup plugin.1) plugin)
    (List.forall_mem_map.2 fun plugin hplugin => updateMember_valid h (hclean plugin hplugin))
  rw [sorted_updates, List.map_map]
  simp only [List.map_map, Function.comp_def, updateMember_text h, updateMember_key] at hvalue
  exact hvalue

end

/-! ### The system configuration -/

theorem stored_system {snapshot : Snapshot .systemConfig} (h : Stored snapshot) :
    snapshot = [] ∨ ∃ parameters, parameters ≠ [] ∧ snapshot = [(CString.lit "SystemConfig", parameters)] := by
  obtain ⟨⟨honce, hsub⟩, hname⟩ := h
  match snapshot with
  | [] => exact .inl rfl
  | [(name, parameters)] =>
    obtain rfl : name = CString.lit "SystemConfig" := hname rfl _ List.mem_cons_self
    exact .inr ⟨parameters, hsub _ List.mem_cons_self, rfl⟩
  | plugin :: plugin' :: rest =>
    have hplugin := hname rfl plugin List.mem_cons_self
    have hplugin' := hname rfl plugin' (List.mem_cons_of_mem _ List.mem_cons_self)
    simp [Once, hplugin, hplugin'] at honce

theorem commas_ne_nil {items : List Str} (h : items ≠ []) (hitems : ∀ item ∈ items, item ≠ []) : commas items ≠ [] := by
  obtain ⟨item, rest, rfl⟩ := List.exists_cons_of_ne_nil h
  have hitem := hitems item List.mem_cons_self
  cases rest with
  | nil => rwa [commas_singleton]
  | cons item' rest =>
    rw [commas_cons_cons]
    simp [hitem]

theorem bracketed_append {before text behind : Str} (hbefore : 91 ∉ before) (hbehind : 93 ∉ behind) (htext : text ≠ []) :
    bracketed (before ++ 91 :: text ++ 93 :: behind) = some text := by
  have hreverse : (text ++ 93 :: behind).reverse = behind.reverse ++ 93 :: text.reverse := by
    simp only [List.reverse_append, List.reverse_cons, List.append_assoc, List.singleton_append]
  have hbehind' : 93 ∉ behind.reverse := fun h => hbehind (List.mem_reverse.1 h)
  obtain ⟨c, rest, hrest⟩ := List.exists_cons_of_ne_nil (List.reverse_ne_nil_iff.2 htext)
  rw [bracketed, List.append_assoc, List.cons_append, dropWhile_ne_append hbefore]
  simp only [hreverse, dropWhile_ne_append hbehind', hrest]
  rw [← hrest, List.reverse_reverse]

theorem bracketed_output {parameters : List Parameter} (h : parameters ≠ []) :
    bracketed (output ([(CString.lit "SystemConfig", parameters)] : Snapshot .systemConfig)) =
      some (commas (parameters.map fun p => fieldsText p.fields)) := by
  have htext : commas (parameters.map fun p => fieldsText p.fields) ≠ [] :=
    commas_ne_nil (by simpa using h) (List.forall_mem_map.2 fun p _ => by
      simp [fieldsText, object, Parameter.fields])
  have houtput : output ([(CString.lit "SystemConfig", parameters)] : Snapshot .systemConfig) =
      (123 :: quoted (CString.lit "SystemConfig") ++ [58]) ++ 91 ::
        commas (parameters.map fun p => fieldsText p.fields) ++ 93 :: [125, 10] := by
    rw [output, if_neg (by simp), object, if_neg (by simp), List.map_singleton, List.map_singleton, commas_singleton]
    simp [write, array]
  rw [houtput]
  exact bracketed_append (by decide) (by decide) htext

/-! ### The messages of a data type -/

/-- Messages that merge the values `update` into those of a data type. -/
def Merges (messages : List Json) (dataType : DataType) (update : List Str → Option Str) : Prop :=
  ∀ (client : Client) (dataType' : DataType) (path : List Str), messages.foldl Client.receive client dataType' path =
    if dataType' = dataType then (update path).or (client dataType' path) else client dataType' path

theorem merges_nil (dataType : DataType) : Merges [] dataType fun _ => none := by
  intro client dataType' path
  simp

theorem merges_message (dataType : DataType) (time : Nat) (j : Json) :
    Merges [message dataType.name time j] dataType j.leaf := fun client dataType' path =>
  receive_update client dataType time j dataType' path

/-- The buffers of a data type have the latest snapshot; the plugins of a system configuration without parameters are left
as they were. -/
structure Part.Latest (part : Part dataType) : Prop where
  stored : Stored part.latest
  plugins : dataType ≠ .systemConfig ∨ part.latest ≠ [] → part.pluginsJSON = part.latest
  json : part.haveData = true →
    if dataType = .systemConfig then bracketed (output part.latest) = some part.json else part.json = output part.latest

theorem values_nil : values ([] : Snapshot dataType) path = none := by
  cases dataType with
  | systemConfig => rfl
  | _ => cases path <;> rfl

/-- The full telemetry has the latest snapshot. -/
theorem full_messages {part : Part dataType} (hpart : part.Latest) (hhave : part.haveData = true ↔ part.latest ≠ [])
    (time : Nat) : ∃ messages, List.Forall₂ Value (BuildFullTelemetry part time) messages ∧
      Merges messages dataType (values part.latest) := by
  by_cases hdata : part.haveData = true
  · rw [BuildFullTelemetry, if_pos hdata]
    have hjson := hpart.json hdata
    have hne := hhave.1 hdata
    by_cases hsystem : dataType = .systemConfig
    · subst hsystem
      rcases stored_system hpart.stored with hnil | ⟨parameters, hparameters, hlatest⟩
      · exact absurd hnil hne
      rw [if_pos rfl, hlatest, bracketed_output hparameters, Option.some.injEq] at hjson
      refine ⟨[message DataType.systemConfig.name time (subJson .systemConfig parameters)], .cons ?_ .nil, ?_⟩
      · rw [if_pos rfl, ← hjson]
        exact value_frame (clean_name _) (value_parameters parameters)
      · rw [hlatest]
        exact merges_message _ time _
    · rw [if_neg hsystem] at hjson
      refine ⟨[message dataType.name time (.obj (part.latest.map fun p => (p.1, subJson dataType p.2)))],
        .cons ?_ .nil, ?_⟩
      · rw [if_neg hsystem, hjson]
        exact value_frame (clean_name _) (value_output hne hpart.stored)
      · rw [values_eq hsystem]
        exact merges_message _ time _
  · have hnil : part.latest = [] := by_contra fun hne => hdata (hhave.2 hne)
    rw [BuildFullTelemetry, if_neg hdata, hnil]
    refine ⟨[], .nil, ?_⟩
    have hvalues : values ([] : Snapshot dataType) = fun _ => none := funext fun _ => values_nil
    rw [hvalues]
    exact merges_nil dataType

theorem Part.Latest.getTelemetry {part : Part dataType} (hpart : part.Latest)
    (query : Option { snapshot : Snapshot dataType // Stored snapshot }) :
    (part.GetTelemetry (query.map Subtype.val)).Latest := by
  cases query with
  | none => exact ⟨hpart.stored, hpart.plugins, fun h => absurd h (by simp [Part.GetTelemetry])⟩
  | some snapshot =>
    obtain ⟨snapshot, hstored⟩ := snapshot
    rw [Option.map_some, Part.GetTelemetry]
    by_cases hdata : dataType = .systemConfig
    · rw [if_pos hdata]
      cases hjson : bracketed (output snapshot) with
      | none =>
        have hnil : snapshot = [] := by
          subst hdata
          rcases stored_system hstored with hnil | ⟨parameters, hparameters, rfl⟩
          · exact hnil
          · rw [bracketed_output hparameters] at hjson
            exact absurd hjson (by simp)
        refine ⟨hstored, fun h => ?_, fun h => absurd h (by simp)⟩
        exact h.elim (fun hother => absurd hdata hother) fun hne => absurd hnil hne
      | some json =>
        refine ⟨hstored, fun _ => rfl, fun _ => ?_⟩
        rw [if_pos hdata]
        exact hjson
    · rw [if_neg hdata]
      refine ⟨hstored, fun _ => rfl, fun _ => ?_⟩
      rw [if_neg hdata]
      rfl

/-- A system configuration that is the same as before is in no update. -/
theorem update_system {part : Part .systemConfig} (hpart : part.Latest) {parameters : List Parameter}
    (hparameters : parameters ≠ []) (hsame : part.latest.lookup (CString.lit "SystemConfig") = some parameters) (time : Nat) :
    BuildUpdateTelemetry (part.GetTelemetry (some [(CString.lit "SystemConfig", parameters)])) time = [] := by
  have hne : part.latest ≠ [] := by
    rintro hnil
    rw [hnil] at hsame
    exact absurd hsame (by simp)
  have hnone : sorted (updates part.pluginsJSON [(CString.lit "SystemConfig", parameters)]) = [] := by
    simp [hpart.plugins (.inr hne), updates, hsame, sorted]
  simp only [Part.GetTelemetry, if_true, bracketed_output hparameters]
  rw [BuildUpdateTelemetry, if_neg fun h => h.2 hnone]

/-- The update behind a poll has what is new. -/
theorem update_messages {part : Part dataType} (hpart : part.Latest)
    (query : Option { snapshot : Snapshot dataType // Stored snapshot })
    (hclean : ∀ snapshot ∈ query, ∀ plugin ∈ snapshot.1, part.latest.lookup plugin.1 ≠ some plugin.2 →
      CleanUpdate dataType (part.latest.lookup plugin.1) plugin) (time : Nat) :
    ∃ messages update, List.Forall₂ Value (BuildUpdateTelemetry (part.GetTelemetry (query.map Subtype.val)) time) messages ∧
      Merges messages dataType update ∧
      (∀ path v, update path = some v → values (part.GetTelemetry (query.map Subtype.val)).latest path = some v) ∧
      ∀ path v, values (part.GetTelemetry (query.map Subtype.val)).latest path = some v →
        update path = some v ∨ values part.latest path = some v := by
  cases query with
  | none =>
    rw [Option.map_none, Part.GetTelemetry, BuildUpdateTelemetry, if_neg (by simp)]
    exact ⟨[], _, .nil, merges_nil dataType, fun _ _ h => absurd h (by simp), fun _ _ h => .inr h⟩
  | some snapshot =>
    obtain ⟨snapshot, hstored⟩ := snapshot
    rw [Option.map_some, Part.GetTelemetry]
    by_cases hdata : dataType = .systemConfig
    · subst hdata
      rcases stored_system hstored with rfl | ⟨parameters, hparameters, rfl⟩
      · refine ⟨[], _, .nil, merges_nil _, fun _ _ h => absurd h (by simp), fun path v h => ?_⟩
        have hnone : values ([] : Snapshot .systemConfig) path = none := values_nil
        exact absurd (hnone.symm.trans h) (by simp)
      · have hsame : part.latest.lookup (CString.lit "SystemConfig") = some parameters :=
          by_contra fun hnew => hclean _ rfl _ List.mem_cons_self hnew
        have hlatest : part.latest = [(CString.lit "SystemConfig", parameters)] := by
          rcases stored_system hpart.stored with hnil | ⟨parameters', -, hlatest⟩
          · rw [hnil] at hsame
            exact absurd hsame (by simp)
          · rw [hlatest, List.lookup_cons_self, Option.some.injEq] at hsame
            rw [hlatest, hsame]
        have hnone := update_system hpart hparameters hsame time
        simp only [Part.GetTelemetry, if_true, bracketed_output hparameters] at hnone ⊢
        rw [hnone, hlatest]
        exact ⟨[], _, .nil, merges_nil _, fun _ _ h => absurd h (by simp), fun _ _ h => .inr h⟩
    rw [if_neg hdata, Part.process, hpart.plugins (.inl hdata), BuildUpdateTelemetry]
    have hvalue := value_updates part.latest snapshot hdata fun plugin hplugin =>
      hclean _ rfl plugin (mem_changedPlugins.1 hplugin).1 (mem_changedPlugins.1 hplugin).2
    have hnew : ∀ path v, (updatesJson part.latest snapshot).leaf path = some v → values snapshot path = some v :=
      fun _ _ => updates_new hdata hstored
    have hcomplete : ∀ path v, values snapshot path = some v →
        (updatesJson part.latest snapshot).leaf path = some v ∨ values part.latest path = some v :=
      fun _ _ => updates_complete hdata hpart.stored hstored
    by_cases hupdates : sorted (updates part.latest snapshot) = []
    · rw [if_neg fun h => h.2 hupdates]
      refine ⟨[], _, .nil, merges_nil dataType, fun _ _ h => absurd h (by simp), fun path v h => ?_⟩
      refine (hcomplete path v h).imp_left fun hleaf => ?_
      have hnone : changedPlugins part.latest snapshot = [] := by
        rwa [sorted_updates, List.map_eq_nil_iff] at hupdates
      rw [updatesJson, hnone] at hleaf
      cases path <;> exact absurd hleaf (by simp [Json.leaf, Json.get])
    · rw [if_pos ⟨rfl, hupdates⟩]
      refine ⟨[message dataType.name time (updatesJson part.latest snapshot)], _, .cons ?_ .nil,
        merges_message dataType time _, hnew, hcomplete⟩
      simp only [if_neg hdata]
      exact value_frame (clean_name _) hvalue

/-- The plugins that a poll finds to have left the list. -/
def left (old : Snapshot .list) : Option (Snapshot .list) → List Str
  | none => []
  | some snapshot => (old.map Prod.fst).filter (· ∉ snapshot.map Prod.fst)

/-- What is at the path has gone with its plugin. -/
def Gone (names : List Str) (dataType : DataType) (path : List Str) : Prop :=
  dataType ≠ .systemConfig ∧ ∃ name ∈ names, path.head? = some name

instance (names : List Str) (dataType : DataType) (path : List Str) : Decidable (Gone names dataType path) :=
  inferInstanceAs (Decidable (_ ∧ _))

section
variable {old snapshot : Snapshot .list}

/-- The plugins that have left, in the order of the map. -/
def leftPlugins (old snapshot : Snapshot .list) : Snapshot .list :=
  (old.filter fun plugin => plugin.1 ∉ snapshot.map Prod.fst).insertionSort fun a b => a.1 ≤ b.1

theorem mem_leftPlugins {plugin : Str × Sub .list} :
    plugin ∈ leftPlugins old snapshot ↔ plugin ∈ old ∧ plugin.1 ∉ snapshot.map Prod.fst := by
  rw [leftPlugins, (List.perm_insertionSort _ _).mem_iff, List.mem_filter, decide_eq_true_iff]

theorem once_leftPlugins (h : Once old) : Once (leftPlugins old snapshot) :=
  ((List.perm_insertionSort _ _).map Prod.fst).nodup_iff.2 (h.sublist (List.filter_sublist.map Prod.fst))

theorem sorted_removes : sorted (removes old snapshot) =
    (leftPlugins old snapshot).map fun plugin => (plugin.1, pluginText plugin) := sorted_map _ _

theorem mem_left {name : Str} : name ∈ left old (some snapshot) ↔ name ∈ (leftPlugins old snapshot).map Prod.fst := by
  rw [left, List.mem_filter, decide_eq_true_eq]
  constructor
  · rintro ⟨hmem, hname⟩
    obtain ⟨plugin, hplugin, rfl⟩ := List.mem_map.1 hmem
    exact List.mem_map.2 ⟨plugin, mem_leftPlugins.2 ⟨hplugin, hname⟩, rfl⟩
  · intro hmem
    obtain ⟨plugin, hplugin, rfl⟩ := List.mem_map.1 hmem
    obtain ⟨hold, hname⟩ := mem_leftPlugins.1 hplugin
    exact ⟨List.mem_map.2 ⟨plugin, hold, rfl⟩, hname⟩

theorem receive_removes {plugins : Snapshot .list} (honce : Once plugins) (client : Client) (time : Nat) (dataType : DataType)
    (path : List Str) :
    client.receive (message (CString.lit "Remove_List") time
        (.obj (plugins.map fun plugin => ((pluginMember plugin).key, (pluginMember plugin).value)))) dataType path =
      if Gone (plugins.map Prod.fst) dataType path then none else client dataType path := by
  have hnodup : ((plugins.map fun plugin => ((pluginMember plugin).key, (pluginMember plugin).value)).map
      Prod.fst).Nodup := by
    rw [List.map_map]
    exact honce
  rw [receive_remove]
  refine if_congr (and_congr_right fun _ => ?_) rfl rfl
  cases path with
  | nil => simp
  | cons name rest =>
    simp only [List.head?_cons, Option.bind_some, Option.isSome_iff_exists, get_obj hnodup, Option.some.injEq,
      exists_eq_right', List.mem_map, Prod.mk.injEq]
    constructor
    · rintro ⟨j, plugin, hplugin, hname, -⟩
      exact ⟨plugin, hplugin, hname⟩
    · rintro ⟨plugin, hplugin, hname⟩
      exact ⟨_, plugin, hplugin, hname, rfl⟩

end

/-- The remove frame behind a poll names the plugins that have left. -/
theorem remove_messages {part : Part .list} (hpart : part.Latest)
    (query : Option { snapshot : Snapshot .list // Stored snapshot }) (time : Nat) :
    ∃ messages, List.Forall₂ Value (BuildRemoveTelemetry (part.GetTelemetry (query.map Subtype.val)) time) messages ∧
      ∀ (client : Client) (dataType : DataType) (path : List Str), messages.foldl Client.receive client dataType path =
        if Gone (left part.latest (query.map Subtype.val)) dataType path then none else client dataType path := by
  cases query with
  | none =>
    rw [Option.map_none, Part.GetTelemetry, BuildRemoveTelemetry, if_neg (by simp)]
    exact ⟨[], .nil, fun client dataType path => by simp [left, Gone]⟩
  | some snapshot =>
    obtain ⟨snapshot, hstored⟩ := snapshot
    have hold := hpart.stored
    rw [Option.map_some, Part.GetTelemetry, if_neg (by decide), Part.process, hpart.plugins (.inl (by decide)),
      BuildRemoveTelemetry]
    simp only [sorted_removes]
    by_cases hnone : leftPlugins part.latest snapshot = []
    · rw [if_neg (by simp [hnone])]
      refine ⟨[], .nil, fun client dataType path => ?_⟩
      rw [if_neg]
      · rfl
      · rintro ⟨-, name, hname, -⟩
        rw [mem_left, hnone] at hname
        exact absurd hname List.not_mem_nil
    · rw [if_pos ⟨trivial, by simpa using hnone⟩]
      have hvalue := value_members ((leftPlugins part.latest snapshot).map pluginMember)
        (List.forall_mem_map.2 fun plugin hplugin => pluginMember_valid (hold.1.2 plugin (mem_leftPlugins.1 hplugin).1))
      simp only [List.map_map, Function.comp_def, pluginMember_text] at hvalue
      refine ⟨[message (CString.lit "Remove_List") time
        (.obj ((leftPlugins part.latest snapshot).map fun plugin => ((pluginMember plugin).key, (pluginMember plugin).value)))],
        .cons ?_ .nil, fun client dataType path => ?_⟩
      · simp only [List.map_map, Function.comp_def]
        exact value_frame (by decide) hvalue
      · rw [List.foldl_cons, List.foldl_nil, receive_removes (once_leftPlugins hold.1.1)]
        exact if_congr (and_congr_right fun _ => exists_congr fun _ => and_congr_left fun _ => mem_left.symm) rfl rfl

/-! ### The messages of a session -/

theorem forall₂_flatMap {frames : DataType → List Str} {messages : DataType → List Json}
    (h : ∀ dataType, List.Forall₂ Value (frames dataType) (messages dataType)) (types : List DataType) :
    List.Forall₂ Value (types.flatMap frames) (types.flatMap messages) := by
  induction types with
  | nil => exact .nil
  | cons dataType types ih =>
    rw [List.flatMap_cons, List.flatMap_cons]
    exact List.rel_append (h dataType) ih

theorem merges_flatMap {messages : DataType → List Json} {update : DataType → List Str → Option Str}
    (h : ∀ dataType, Merges (messages dataType) dataType (update dataType)) {types : List DataType} (hnodup : types.Nodup)
    (client : Client) (dataType : DataType) (path : List Str) :
    (types.flatMap messages).foldl Client.receive client dataType path =
      if dataType ∈ types then (update dataType path).or (client dataType path) else client dataType path := by
  induction types generalizing client with
  | nil => rfl
  | cons first types ih =>
    obtain ⟨hfirst, hnodup⟩ := List.nodup_cons.1 hnodup
    rw [List.flatMap_cons, List.foldl_append, ih hnodup, h first]
    by_cases heq : dataType = first
    · subst heq
      rw [if_neg hfirst, if_pos rfl, if_pos List.mem_cons_self]
    · rw [if_neg heq]
      simp only [List.mem_cons, heq, false_or]

theorem merges_all {messages : DataType → List Json} {update : DataType → List Str → Option Str}
    (h : ∀ dataType, Merges (messages dataType) dataType (update dataType)) (client : Client) (dataType : DataType)
    (path : List Str) : (DataType.all.flatMap messages).foldl Client.receive client dataType path =
      (update dataType path).or (client dataType path) := by
  rw [merges_flatMap h (by decide), if_pos (by cases dataType <;> decide)]

/-- An update with what is new brings a client up to date, if nothing has left but what is removed. -/
theorem merge_eq {update old new : List Str → Option Str} {gone : Prop} [Decidable gone]
    (hnew : ∀ v, update path = some v → new path = some v)
    (hcomplete : ∀ v, new path = some v → update path = some v ∨ old path = some v)
    (hkept : old path ≠ none → ¬ gone → new path ≠ none) (hgone : gone → new path = none) :
    (if gone then none else (update path).or (old path)) = new path := by
  by_cases h : gone
  · rw [if_pos h, hgone h]
  rw [if_neg h]
  cases hupdate : update path with
  | some v => rw [Option.some_or, hnew v hupdate]
  | none =>
    rw [Option.none_or]
    cases hnewpath : new path with
    | some v => exact (hcomplete v hnewpath).resolve_left (by simp [hupdate])
    | none => exact by_contra fun hold => hkept hold h hnewpath

/-! ### Every run -/

def Named (name : Str) : Prop := name ≠ [] ∧ 124 ∉ name

def NamedFields (fields : Fields) : Prop := ∀ f ∈ fields, Named f.1

/-- Names that are one step of a path. -/
def NamedSub : (dataType : DataType) → Sub dataType → Prop
  | .list, fields | .state, fields => NamedFields fields
  | .config, configs => ∀ c ∈ configs, Named c.1 ∧ NamedFields c.2
  | .status, _ | .systemConfig, _ => True

variable {s t : State}

/-- The latest snapshot behind a poll. -/
def next (s : State) (snapshots : (dataType : DataType) → Option { snapshot : Snapshot dataType // Stored snapshot })
    (dataType : DataType) : Snapshot dataType := ((snapshots dataType).map Subtype.val).getD (s.parts dataType).latest

/-- A session has had its full telemetry. -/
def Served (s : State) : Prop := ∃ c ∈ s.connections, c.sendFullTelemetry = false

/-- A poll whose updates can be sent as they are written: the names do not split and, if there is a session to send them to,
what is new needs no escapes but those of quotes in values, the system configuration is the same, and nothing leaves but the
plugins that leave the list, with all they have. -/
structure SoundPoll (s : State)
    (snapshots : (dataType : DataType) → Option { snapshot : Snapshot dataType // Stored snapshot }) : Prop where
  named : ∀ dataType, ∀ snapshot ∈ snapshots dataType, ∀ plugin ∈ snapshot.1, Named plugin.1 ∧ NamedSub dataType plugin.2
  clean : Served s → ∀ dataType, ∀ snapshot ∈ snapshots dataType, ∀ plugin ∈ snapshot.1,
    (s.parts dataType).latest.lookup plugin.1 ≠ some plugin.2 →
    CleanUpdate dataType ((s.parts dataType).latest.lookup plugin.1) plugin
  kept : Served s → ∀ dataType path, values (s.parts dataType).latest path ≠ none →
    ¬ Gone (left (s.parts .list).latest ((snapshots .list).map Subtype.val)) dataType path →
    values (next s snapshots dataType) path ≠ none
  gone : Served s → ∀ dataType path, Gone (left (s.parts .list).latest ((snapshots .list).map Subtype.val)) dataType path →
    values (next s snapshots dataType) path = none

/-- The condition for each step: the polls are sound, and a session gets its full telemetry when each query has found
something, unless it never has. -/
def Sound (s : State) : Event → Prop
  | .poll snapshots _ => SoundPoll s snapshots
  | .full _ _ => ∀ dataType, (s.parts dataType).haveData = true ↔ (s.parts dataType).latest ≠ []
  | _ => True

structure Inv (s : State) : Prop where
  parts : ∀ dataType, (s.parts dataType).Latest
  replicated : Replicated s

theorem latest_init (dataType : DataType) : (Part.init dataType).Latest :=
  ⟨⟨⟨List.nodup_nil, fun _ h => absurd h List.not_mem_nil⟩, fun _ _ h => absurd h List.not_mem_nil⟩, fun _ => rfl,
    fun h => absurd h (by simp [Part.init])⟩

theorem latest_getTelemetry (part : Part dataType)
    (query : Option { snapshot : Snapshot dataType // Stored snapshot }) :
    (part.GetTelemetry (query.map Subtype.val)).latest = (query.map Subtype.val).getD part.latest := by
  cases query with
  | none => rfl
  | some snapshot =>
    rw [Option.map_some, Part.GetTelemetry, Option.getD_some]
    split
    · split <;> rfl
    · rfl

section
variable {snapshots : (dataType : DataType) → Option { snapshot : Snapshot dataType // Stored snapshot }}

/-- The updates behind a poll bring a session up to date. -/
theorem update_session (hs : Inv s) (hG : SoundPoll s snapshots) (hserved : Served s) (time : Nat) : ∃ messages,
    List.Forall₂ Value ((s.GetTelemetry snapshots).updateFrames time) messages ∧
    ∀ client : Client, (∀ dataType, client dataType = values (s.parts dataType).latest) →
      ∀ dataType, messages.foldl Client.receive client dataType =
        values ((s.GetTelemetry snapshots).parts dataType).latest := by
  have hupdate := fun dataType => update_messages (hs.parts dataType) (snapshots dataType) (hG.clean hserved dataType) time
  choose messages update hmessages hmerges hnew hcomplete using hupdate
  obtain ⟨removes, hremoves, hgone⟩ := remove_messages (hs.parts .list) (snapshots .list) time
  refine ⟨DataType.all.flatMap messages ++ removes,
    List.rel_append (forall₂_flatMap hmessages _) hremoves, fun client hclient dataType => ?_⟩
  funext path
  have hlatest : ((s.GetTelemetry snapshots).parts dataType).latest = next s snapshots dataType :=
    latest_getTelemetry (s.parts dataType) (snapshots dataType)
  rw [List.foldl_append, hgone, merges_all hmerges, hclient dataType]
  refine merge_eq (hnew dataType path) (hcomplete dataType path) ?_ ?_
  · rw [hlatest]
    exact hG.kept hserved dataType path
  · rw [hlatest]
    exact hG.gone hserved dataType path

theorem Inv.poll (hs : Inv s) (hG : SoundPoll s snapshots) (time : Nat) :
    Inv ((s.GetTelemetry snapshots).sendUpdates time) := by
  refine ⟨fun dataType => (hs.parts dataType).getTelemetry (snapshots dataType), fun c' hc' hsend => ?_⟩
  obtain ⟨c, hc, rfl⟩ := List.mem_map.1 hc'
  by_cases hfull : c.sendFullTelemetry = true
  · rw [if_pos hfull, hfull] at hsend
    exact absurd hsend (by simp)
  rw [if_neg hfull]
  have hsent : c.sendFullTelemetry = false := by simpa using hfull
  obtain ⟨messages, hmessages, hclient⟩ := hs.replicated c hc hsent
  obtain ⟨updates, hupdates, hmerge⟩ := update_session hs hG ⟨c, hc, hsent⟩ time
  refine ⟨messages ++ updates, List.rel_append hmessages hupdates, fun dataType => ?_⟩
  rw [List.foldl_append]
  exact hmerge _ hclient dataType

end

theorem Inv.full (hs : Inv s) (hG : ∀ dataType, (s.parts dataType).haveData = true ↔ (s.parts dataType).latest ≠ [])
    (k time : Nat) : Inv { s with connections := s.connections.set k ⟨false, s.fullFrames time⟩ } := by
  refine ⟨hs.parts, fun c hc hsend => ?_⟩
  rcases List.mem_or_eq_of_mem_set hc with hc | rfl
  · exact hs.replicated c hc hsend
  · have hfull := fun dataType => full_messages (hs.parts dataType) (hG dataType) time
    choose messages hmessages hmerges using hfull
    refine ⟨DataType.all.flatMap messages, forall₂_flatMap hmessages _, fun dataType => ?_⟩
    funext path
    rw [merges_all hmerges, Client.init, Option.or_none]

theorem Inv.close (hs : Inv s) (k : Nat) : Inv (s.close k) := by
  by_cases hnil : s.connections.eraseIdx k = []
  · rw [State.close, if_pos hnil]
    exact ⟨latest_init, fun c hc => absurd (hnil ▸ hc) List.not_mem_nil⟩
  · rw [State.close, if_neg hnil]
    exact ⟨hs.parts, fun c hc => hs.replicated c (List.mem_of_mem_eraseIdx hc)⟩

theorem Inv.step (hs : Inv s) {e : Event} (hG : Sound s e) (h : s.step e = some t) : Inv t := by
  cases e with
  | poll snapshots time =>
    obtain ⟨-, ht⟩ := Option.ite_none_right_eq_some.1 h
    obtain rfl := Option.some.inj ht
    exact hs.poll hG time
  | established =>
    obtain rfl := Option.some.inj h
    refine ⟨hs.parts, fun c hc hsend => ?_⟩
    rcases List.mem_append.1 hc with hc | hc
    · exact hs.replicated c hc hsend
    · obtain rfl := List.mem_singleton.1 hc
      exact absurd hsend (by simp)
  | full k time =>
    simp only [State.step] at h
    cases hc : s.connections[k]? with
    | none => simp [hc] at h
    | some c =>
      rw [hc] at h
      obtain ⟨-, ht⟩ := Option.ite_none_right_eq_some.1 h
      obtain rfl := Option.some.inj ht
      exact hs.full hG k time
  | closed k =>
    obtain ⟨-, ht⟩ := Option.ite_none_right_eq_some.1 h
    obtain rfl := Option.some.inj ht
    exact hs.close k

theorem inv_init : Inv State.init := ⟨latest_init, fun _ hc => absurd hc List.not_mem_nil⟩

/-- Where each session starts with all that there is and each update can be sent as it is written, the clients have the
latest snapshots. -/
theorem replication {es : List Event} (h : telemetry.exec telemetry.init es = some s)
    (hG : telemetry.Meets Sound telemetry.init es) : Replicated s :=
  (Machine.invariant_meets inv_init (fun _ _ _ hs hG h => hs.step hG h) hG h).replicated

/-- A poll with one state, and whether its query finds it. -/
def stateQuery (found : Bool) : (dataType : DataType) → Option { snapshot : Snapshot dataType // Stored snapshot }
  | .state =>
    if found then
      some ⟨[(CString.lit "MAP", [(CString.lit "Frames", CString.lit "1")])],
        ⟨⟨by simp [Once], by simp [StoredSub, Once]⟩, fun h => absurd h (by decide)⟩⟩
    else none
  | _ => none

/-- A session that starts while the query of the states fails is not sent them later. -/
theorem replication_missed : ∃ s, telemetry.exec telemetry.init
    [.established, .poll (stateQuery true) 1000, .poll (stateQuery false) 2000, .full 0 2000,
      .poll (stateQuery true) 3000] = some s ∧ ¬ Replicated s := by
  refine ⟨_, rfl, fun h => ?_⟩
  -- the session was sent nothing
  obtain ⟨messages, hmessages, hclient⟩ := h ⟨false, []⟩ (List.mem_singleton.2 (by rfl)) rfl
  obtain rfl := List.forall₂_nil_left_iff.1 hmessages
  have hpath := congrFun (hclient .state) [CString.lit "MAP", CString.lit "Frames"]
  exact absurd hpath (by decide)

/-- The status of a plugin and a system configuration. -/
def statusQuery (status : Str) : (dataType : DataType) → Option { snapshot : Snapshot dataType // Stored snapshot }
  | .status => some ⟨[(CString.lit "MAP", status)], ⟨⟨by simp [Once], by simp [StoredSub]⟩, fun h => absurd h (by decide)⟩⟩
  | .systemConfig =>
    some ⟨[(CString.lit "SystemConfig", [⟨CString.lit "Port", CString.lit "24601", CString.lit "24601"⟩])],
      ⟨⟨by simp [Once], by simp [StoredSub]⟩, fun _ => by simp⟩⟩
  | _ => none

theorem sound_statusQuery {status : Str} (hclean : Clean status)
    (hold : Served s → (∃ old, (s.parts .status).latest = [(CString.lit "MAP", old)]) ∧
      (s.parts .systemConfig).latest =
        [(CString.lit "SystemConfig", [⟨CString.lit "Port", CString.lit "24601", CString.lit "24601"⟩])]) :
    SoundPoll s (statusQuery status) where
  named dataType snapshot hsnapshot plugin hplugin := by
    cases dataType with
    | status =>
      obtain rfl := Option.some.inj hsnapshot
      obtain rfl := List.mem_singleton.1 hplugin
      have hname : Named (CString.lit "MAP") := ⟨by decide, by decide⟩
      exact ⟨hname, trivial⟩
    | systemConfig =>
      obtain rfl := Option.some.inj hsnapshot
      obtain rfl := List.mem_singleton.1 hplugin
      have hname : Named (CString.lit "SystemConfig") := ⟨by decide, by decide⟩
      exact ⟨hname, trivial⟩
    | _ => exact absurd hsnapshot (by simp [statusQuery])
  clean hserved dataType snapshot hsnapshot plugin hplugin hnew := by
    cases dataType with
    | status =>
      obtain rfl := Option.some.inj hsnapshot
      obtain rfl := List.mem_singleton.1 hplugin
      have hname : Clean (CString.lit "MAP") := by decide
      exact ⟨hname, hclean⟩
    | systemConfig =>
      obtain rfl := Option.some.inj hsnapshot
      obtain rfl := List.mem_singleton.1 hplugin
      rw [(hold hserved).2] at hnew
      exact absurd List.lookup_cons_self hnew
    | _ => exact absurd hsnapshot (by simp [statusQuery])
  kept hserved dataType path hpath _ := by
    obtain ⟨⟨old, hone⟩, hsystem⟩ := hold hserved
    cases dataType with
    | status =>
      obtain ⟨v, hv⟩ := Option.ne_none_iff_exists'.1 hpath
      rw [hone, leaf_values (by decide) (by simp [Once])] at hv
      obtain ⟨plugin, hplugin, rest, rfl, hrest⟩ := hv
      obtain rfl := List.mem_singleton.1 hplugin
      obtain ⟨rfl, -⟩ := leaf_str.1 hrest
      have hnew : values ([(CString.lit "MAP", status)] : Snapshot .status) [CString.lit "MAP"] = some status :=
        (leaf_values (by decide) (by simp [Once])).2 ⟨_, List.mem_cons_self, [], rfl, leaf_str.2 ⟨rfl, rfl⟩⟩
      exact fun hnone => absurd (hnew.symm.trans hnone) (by simp)
    | systemConfig =>
      rw [hsystem] at hpath
      exact hpath
    | _ => exact hpath
  gone _ dataType path hgone := by
    obtain ⟨-, name, hname, -⟩ := hgone
    exact absurd hname List.not_mem_nil

/-- A status and its update, behind a full telemetry with the system configuration. -/
theorem replication_status : ∃ s, telemetry.exec telemetry.init
    [.established, .poll (statusQuery (CString.lit "Starting")) 1000, .full 0 1000,
      .poll (statusQuery (CString.lit "Running")) 2000] = some s ∧ Replicated s := by
  have hexec : telemetry.exec telemetry.init
    [.established, .poll (statusQuery (CString.lit "Starting")) 1000, .full 0 1000,
      .poll (statusQuery (CString.lit "Running")) 2000] = some _ := rfl
  refine ⟨_, hexec, replication hexec ?_⟩
  refine (Machine.meets_cons_of_step rfl).2 ⟨trivial, (Machine.meets_cons_of_step rfl).2 ⟨?_,
    (Machine.meets_cons_of_step rfl).2 ⟨?_, (Machine.meets_cons_of_step rfl).2 ⟨?_, trivial⟩⟩⟩⟩
  · refine sound_statusQuery (by decide) fun ⟨c, hc, hsent⟩ => ?_
    obtain rfl := List.mem_singleton.1 hc
    exact absurd hsent (by simp)
  · intro dataType
    cases dataType with
    | status => exact iff_of_true rfl (List.cons_ne_nil _ _)
    | systemConfig => exact iff_of_true rfl (List.cons_ne_nil _ _)
    | _ => exact iff_of_false Bool.false_ne_true (fun h => h rfl)
  · exact sound_statusQuery (by decide) fun _ => ⟨⟨_, rfl⟩, rfl⟩

end V2xHub.CommandPlugin.Telemetry
