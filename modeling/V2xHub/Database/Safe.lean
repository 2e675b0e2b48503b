import V2xHub.Database.Statements

/-!
# Texts of plugins in statements

For which texts the statements of the contexts have the tokens that they are meant to have.
-/

namespace V2xHub.Database
open SqlLiteral

/-! ### The statements are well formed -/

def startsOk : List Piece → Bool
  | [] => true
  | .sql (c :: _) :: _ => c != quote && c != backslash
  | _ => false

/-- `WellFormed`, without a look at the values. -/
def check : List Piece → Bool
  | [] => true
  | .sql text :: ps => !text.contains quote && check ps
  | .raw _ :: ps => startsOk ps && check ps
  | .escaped _ :: ps => startsOk ps && check ps

variable {ps : List Piece} {t : String} {l : List (List Piece)}

theorem follows_of_startsOk (h : startsOk ps = true) : Follows ps := by
  match ps with
  | [] => trivial
  | .sql [] :: _ => exact nomatch h
  | .sql (c :: text) :: ps =>
    obtain ⟨hquote, hbackslash⟩ := Bool.and_eq_true_iff.1 h
    exact not_or.2 ⟨bne_iff_ne.1 hquote, bne_iff_ne.1 hbackslash⟩
  | .raw _ :: _ => exact nomatch h
  | .escaped _ :: _ => exact nomatch h

theorem wellFormed_of_check (h : check ps = true) : WellFormed ps := by
  induction ps with
  | nil => trivial
  | cons p ps ih =>
    cases p with
    | sql text =>
      obtain ⟨hquote, hps⟩ := Bool.and_eq_true_iff.1 h
      exact ⟨by simpa using hquote, ih hps⟩
    | raw value =>
      obtain ⟨hstarts, hps⟩ := Bool.and_eq_true_iff.1 h
      exact ⟨follows_of_startsOk hstarts, ih hps⟩
    | escaped value =>
      obtain ⟨hstarts, hps⟩ := Bool.and_eq_true_iff.1 h
      exact ⟨follows_of_startsOk hstarts, ih hps⟩

/-- The text can stand between values. -/
def Between (t : String) : Prop := check [sql t] = true ∧ startsOk [sql t] = true

theorem between_ofList (l : List Char)
    (h : check [.sql (l.map fun c => UInt8.ofNat c.toNat)] = true ∧ startsOk [.sql (l.map fun c => UInt8.ofNat c.toNat)] = true) :
    Between (String.ofList l) := by
  rw [Between, sql, CString.lit_ofList]
  exact h

theorem follows_sql (h : Between t) : Follows (sql t :: ps) := (follows_of_startsOk h.2).append (List.cons_ne_nil _ _)

theorem wellFormed_sql (h : Between t) (hps : WellFormed ps) : WellFormed (sql t :: ps) := ⟨(wellFormed_of_check h.1).1, hps⟩

theorem wellFormed_number {n : Nat} (h : Follows ps) (hps : WellFormed ps) : WellFormed (number n :: ps) := ⟨h, hps⟩

theorem wellFormed_nil : WellFormed [] := trivial

/-- Rows with a separator, and the rest of the statement. -/
theorem wellFormed_rows (ht : Between t) (hl : ∀ row ∈ l, WellFormed row) (hps : WellFormed ps) (hfollows : Follows ps) :
    WellFormed (List.intercalate [sql t] l ++ ps) := by
  induction l with
  | nil => exact hps
  | cons row l ih =>
    obtain ⟨hrow, hl⟩ := List.forall_mem_cons.1 hl
    cases l with
    | nil =>
      rw [List.intercalate_singleton]
      exact hrow.append hps hfollows
    | cons row' l =>
      rw [List.intercalate_cons_cons, List.append_assoc, List.append_assoc]
      refine hrow.append (wellFormed_sql ht (ih hl)) ?_
      exact (follows_of_startsOk ht.2).append (List.cons_ne_nil _ _)

theorem startsOk_letter : startsOk (ps.map Piece.letter) = startsOk ps := by
  match ps with
  | [] => rfl
  | .sql [] :: _ => rfl
  | .sql (c :: text) :: ps => rfl
  | .raw _ :: _ => rfl
  | .escaped _ :: _ => rfl

theorem check_letter : check (ps.map Piece.letter) = check ps := by
  induction ps with
  | nil => rfl
  | cons p ps ih =>
    rw [List.map_cons]
    cases p with
    | sql text => rw [Piece.letter, check, check, ih]
    | raw value => rw [Piece.letter, check, check, ih, startsOk_letter]
    | escaped value => rw [Piece.letter, check, check, ih, startsOk_letter]

/-- The statements of each kind, for some values. -/
def forms : List (List (List Piece)) :=
  [[getPlugin []], insertOrUpdatePlugin ⟨[], [], []⟩, [setStatusForAllPlugins []], [setPluginStatus 0 []],
    [statusRow 0 ⟨[], []⟩], removePluginStatusItems 0 [[]], [getSystemConfigParameter []],
    initializeSystemConfigParameter ⟨[], [], []⟩, [insertConfigParameter 0 ⟨0, [], [], [], []⟩],
    [insertConfigParameter 1 ⟨0, [], [], [], []⟩], [updatePluginConfigParameterValue ⟨0, [], [], [], []⟩],
    [addEventLogEntry [] [] .Info], insertMessageType ⟨[], [], []⟩ true, insertMessageType ⟨[], [], []⟩ false]

theorem check_forms : ∀ qss ∈ forms, ∀ qs ∈ qss, check qs = true := by
  unfold forms getPlugin insertOrUpdatePlugin setStatusForAllPlugins setPluginStatus statusRow removePluginStatusItems
    initializeSystemConfigParameter getSystemConfigParameter insertConfigParameter updatePluginConfigParameterValue
    addEventLogEntry insertMessageType levelString sql
  repeat rw [CString.lit_ofList]
  decide +kernel

/-- The same statement for other values is evaluated instead. -/
theorem wellFormed_of_letter (qs : List Piece) (hqs : check qs = true) (h : ps.map Piece.letter = qs.map Piece.letter) :
    WellFormed ps := by
  refine wellFormed_of_check ?_
  rw [← check_letter, h, check_letter, hqs]

theorem wellFormed_of_form (qs : List Piece) (hqs : [qs] ∈ forms) (h : ps.map Piece.letter = qs.map Piece.letter) : WellFormed ps :=
  wellFormed_of_letter qs (check_forms _ hqs _ List.mem_cons_self) h

theorem wellFormed_of_forms (qss : List (List Piece)) (hqss : qss ∈ forms)
    (h : l.map (List.map Piece.letter) = qss.map (List.map Piece.letter)) : ∀ ps ∈ l, WellFormed ps := by
  intro ps hps
  have hmem : ps.map Piece.letter ∈ qss.map (List.map Piece.letter) := by
    rw [← h]
    exact List.mem_map_of_mem hps
  obtain ⟨qs, hqs, heq⟩ := List.mem_map.1 hmem
  exact wellFormed_of_letter qs (check_forms qss hqss qs hqs) heq.symm

theorem wellFormed_statusRow (pluginId : Nat) (item : PluginStatusItem) : WellFormed (statusRow pluginId item) :=
  wellFormed_of_form (statusRow 0 ⟨[], []⟩) (by simp [forms]) rfl

theorem wellFormed_statusItems (pluginId : Nat) (statusItems : List PluginStatusItem) :
    ∀ ps ∈ setPluginStatusItems pluginId statusItems, WellFormed ps := by
  unfold setPluginStatusItems
  split_ifs
  · refine List.forall_mem_singleton.2 (wellFormed_sql ?_ (wellFormed_rows ?_ ?_ (wellFormed_sql ?_ wellFormed_nil) (follows_sql ?_)))
    · exact between_ofList _ (by decide +kernel)
    · exact between_ofList _ (by decide +kernel)
    · intro row hrow
      obtain ⟨item, -, rfl⟩ := List.mem_map.1 hrow
      exact wellFormed_statusRow pluginId item
    · exact between_ofList _ (by decide +kernel)
    · exact between_ofList _ (by decide +kernel)
  · exact fun ps hps => absurd hps List.not_mem_nil

theorem wellFormed_insertConfigParameter (pluginId : Nat) (entry : PluginConfigurationParameterEntry) :
    WellFormed (insertConfigParameter pluginId entry) := by
  by_cases h : pluginId = 0
  · refine wellFormed_of_form (insertConfigParameter 0 ⟨0, [], [], [], []⟩) (by simp [forms]) ?_
    rw [insertConfigParameter, insertConfigParameter, if_pos h, if_pos rfl]
    rfl
  · refine wellFormed_of_form (insertConfigParameter 1 ⟨0, [], [], [], []⟩) (by simp [forms]) ?_
    rw [insertConfigParameter, insertConfigParameter, if_neg h, if_neg Nat.one_ne_zero]
    rfl

theorem wellFormed_deleteOtherParameters (pluginId : Nat) (entries : List PluginConfigurationParameterEntry) :
    WellFormed (deleteOtherParameters pluginId entries) := by
  unfold deleteOtherParameters
  split_ifs
  · refine wellFormed_sql ?_ (wellFormed_number (follows_sql ?_) (wellFormed_sql ?_
      (wellFormed_rows ?_ ?_ (wellFormed_sql ?_ wellFormed_nil) (follows_sql ?_))))
    · exact between_ofList _ (by decide +kernel)
    · exact between_ofList _ (by decide +kernel)
    · exact between_ofList _ (by decide +kernel)
    · exact between_ofList _ (by decide +kernel)
    · intro row hrow
      obtain ⟨entry, -, rfl⟩ := List.mem_map.1 hrow
      exact ⟨trivial, trivial⟩
    · exact between_ofList _ (by decide +kernel)
    · exact between_ofList _ (by decide +kernel)
  · refine wellFormed_sql ?_ (wellFormed_number (follows_sql ?_) (wellFormed_sql ?_ wellFormed_nil))
    · exact between_ofList _ (by decide +kernel)
    · exact between_ofList _ (by decide +kernel)
    · exact between_ofList _ (by decide +kernel)

theorem wellFormed_statements (c : Call) : ∀ ps ∈ c.statements, WellFormed ps := by
  cases c with
  | getPlugin pluginName => exact wellFormed_of_forms [getPlugin []] (by simp [forms]) rfl
  | insertOrUpdatePlugin entry => exact wellFormed_of_forms (insertOrUpdatePlugin ⟨[], [], []⟩) (by simp [forms]) rfl
  | setStatusForAllPlugins status => exact wellFormed_of_forms [setStatusForAllPlugins []] (by simp [forms]) rfl
  | setPluginStatus pluginId status => exact wellFormed_of_forms [setPluginStatus 0 []] (by simp [forms]) rfl
  | setPluginStatusItems pluginId statusItems => exact wellFormed_statusItems pluginId statusItems
  | removePluginStatusItems pluginId itemKeys =>
    intro ps hps
    obtain ⟨key, -, rfl⟩ := List.mem_map.1 hps
    exact wellFormed_of_form ((removePluginStatusItems 0 [[]]).getD 0 []) (by simp [forms, removePluginStatusItems]) rfl
  | getSystemConfigParameter key => exact wellFormed_of_forms [getSystemConfigParameter []] (by simp [forms]) rfl
  | initializeSystemConfigParameter entry =>
    exact wellFormed_of_forms (initializeSystemConfigParameter ⟨[], [], []⟩) (by simp [forms]) rfl
  | initializePluginConfigParameters pluginId entries =>
    refine List.forall_mem_append.2 ⟨fun ps hps => ?_, ?_⟩
    · obtain ⟨entry, -, rfl⟩ := List.mem_map.1 hps
      exact wellFormed_insertConfigParameter pluginId entry
    · split_ifs
      · exact List.forall_mem_singleton.2 (wellFormed_deleteOtherParameters pluginId entries)
      · exact fun ps hps => absurd hps List.not_mem_nil
  | updatePluginConfigParameterValue entry =>
    exact wellFormed_of_forms [updatePluginConfigParameterValue ⟨0, [], [], [], []⟩] (by simp [forms]) rfl
  | addEventLogEntry source description level =>
    exact wellFormed_of_forms [addEventLogEntry [] [] .Info] (by simp [forms]) rfl
  | insertMessageType entry update =>
    cases update with
    | true => exact wellFormed_of_forms (insertMessageType ⟨[], [], []⟩ true) (by simp [forms]) rfl
    | false => exact wellFormed_of_forms (insertMessageType ⟨[], [], []⟩ false) (by simp [forms]) rfl

/-! ### The values -/

theorem ok_number (n : Nat) : (number n).Ok := by
  have hdigit : ∀ c ∈ Printf.decimal n, ¬ Special c := by
    rintro c hc (rfl | rfl)
    · exact absurd (Printf.mem_decimal hc).1 (by decide)
    · exact absurd (Printf.mem_decimal hc).2 (by decide)
  exact ⟨fun h => hdigit _ h (.inl rfl), good_of_not_mem fun h => hdigit _ h (.inr rfl)⟩

theorem ok_empty : empty.Ok := ⟨List.not_mem_nil, trivial⟩

@[simp] theorem plain_level (level : LogLevel) : Plain (levelString level) := by
  have hlevel : quote ∉ levelString level ∧ backslash ∉ levelString level := by
    cases level <;> decide
  exact ⟨hlevel.1, good_of_not_mem hlevel.2⟩

@[simp] theorem ok_sql (t : String) : (sql t).Ok ↔ True := Iff.rfl

@[simp] theorem ok_number_iff (n : Nat) : (number n).Ok ↔ True := iff_true_intro (ok_number n)

@[simp] theorem ok_empty_iff : empty.Ok ↔ True := iff_true_intro ok_empty

@[simp] theorem ok_escaped (value : Str) : (Piece.escaped value).Ok ↔ Good value := Iff.rfl

@[simp] theorem ok_raw (value : Str) : (Piece.raw value).Ok ↔ Plain value := Iff.rfl

theorem ok_rows : (∀ p ∈ List.intercalate [sql t] l, p.Ok) ↔ ∀ row ∈ l, ∀ p ∈ row, p.Ok := by
  induction l with
  | nil => simp
  | cons row l ih =>
    cases l with
    | nil => simp
    | cons row' l =>
      rw [List.intercalate_cons_cons, List.forall_mem_append, List.forall_mem_append, ih]
      constructor
      · rintro ⟨⟨hrow, -⟩, hl⟩
        exact List.forall_mem_cons.2 ⟨hrow, hl⟩
      · intro h
        obtain ⟨hrow, hl⟩ := List.forall_mem_cons.1 h
        exact ⟨⟨hrow, List.forall_mem_singleton.2 trivial⟩, hl⟩

theorem ok_statements (c : Call) : (∀ ps ∈ c.statements, ∀ p ∈ ps, p.Ok) ↔ c.Faithful := by
  cases c with
  | getPlugin pluginName => simp [Call.statements, getPlugin, Call.Faithful]
  | insertOrUpdatePlugin entry =>
    simp only [Call.statements, insertOrUpdatePlugin, Call.Faithful, List.forall_mem_cons, ok_sql, ok_escaped, ok_raw,
      List.not_mem_nil, false_imp_iff, implies_true, true_and, and_true]
    constructor
    · rintro ⟨⟨-, hdescription, hversion⟩, hname⟩
      exact ⟨hname, hdescription, hversion⟩
    · rintro ⟨hname, hdescription, hversion⟩
      exact ⟨⟨hname.2, hdescription, hversion⟩, hname⟩
  | setStatusForAllPlugins status => simp [Call.statements, setStatusForAllPlugins, Call.Faithful]
  | setPluginStatus pluginId status => simp [Call.statements, setPluginStatus, Call.Faithful]
  | setPluginStatusItems pluginId statusItems =>
    rw [Call.statements, setPluginStatusItems, Call.Faithful]
    split_ifs with hitems
    · rw [List.forall_mem_singleton, List.forall_mem_append, List.forall_mem_cons, ok_rows]
      simp [statusRow]
    · obtain rfl : statusItems = [] := List.length_eq_zero_iff.1 (by omega)
      simp
  | removePluginStatusItems pluginId itemKeys => simp [Call.statements, removePluginStatusItems, Call.Faithful]
  | getSystemConfigParameter key => simp [Call.statements, getSystemConfigParameter, Call.Faithful]
  | initializeSystemConfigParameter entry =>
    simp only [Call.statements, initializeSystemConfigParameter, getSystemConfigParameter, Call.Faithful,
      List.forall_mem_cons, ok_sql, ok_escaped, List.not_mem_nil, false_imp_iff, implies_true, true_and, and_true]
    exact and_iff_left_of_imp And.left
  | initializePluginConfigParameters pluginId entries =>
    have hinsert : ∀ entry : PluginConfigurationParameterEntry, (∀ p ∈ insertConfigParameter pluginId entry, p.Ok) ↔
        Good entry.key ∧ Good entry.value ∧ Good entry.defaultValue ∧ Good entry.description := by
      intro entry
      rw [insertConfigParameter]
      split_ifs <;> simp
    have hdelete : (∀ p ∈ deleteOtherParameters pluginId entries, p.Ok) ↔ ∀ entry ∈ entries, Good entry.key := by
      rw [deleteOtherParameters]
      split_ifs with hentries
      · simp only [List.cons_append, List.nil_append, List.forall_mem_cons]
        rw [List.forall_mem_append, ok_rows]
        simp
      · obtain rfl : entries = [] := List.length_eq_zero_iff.1 (by omega)
        simp
    rw [Call.statements, initializePluginConfigParameters, List.forall_mem_append, List.forall_mem_map, Call.Faithful]
    simp only [hinsert]
    refine and_iff_left_of_imp fun h => ?_
    split_ifs
    · exact List.forall_mem_singleton.2 (hdelete.2 fun entry hentry => (h entry hentry).1)
    · exact fun ps hps => absurd hps List.not_mem_nil
  | updatePluginConfigParameterValue entry =>
    simp [Call.statements, updatePluginConfigParameterValue, Call.Faithful]
  | addEventLogEntry source description level => simp [Call.statements, addEventLogEntry, Call.Faithful]
  | insertMessageType entry update =>
    cases update with
    | true =>
      simp only [Call.statements, insertMessageType, Call.Faithful, if_true, List.cons_append, List.nil_append,
        List.forall_mem_cons, ok_sql, ok_raw, List.not_mem_nil, false_imp_iff, implies_true, true_and, and_true]
      tauto
    | false =>
      simp only [Call.statements, insertMessageType, Call.Faithful, Bool.false_eq_true, if_false, List.cons_append,
        List.nil_append, List.forall_mem_cons, ok_sql, ok_raw, List.not_mem_nil, false_imp_iff, implies_true, true_and,
        and_true]
      tauto

theorem plugin_text (c : Call) : (∀ ps ∈ c.statements, Safe ps) ↔ c.Faithful := by
  rw [← ok_statements]
  exact forall₂_congr fun ps hps => safe_iff (wellFormed_statements c ps hps)

/-- A backslash and a quote, escaped as two backslashes and a quote that ends the literal. -/
theorem plugin_text_backslash : ¬ ∀ c : Call, ∀ ps ∈ c.statements, Safe ps := by
  intro h
  have hsafe := h (.addEventLogEntry [80] [backslash, quote] .Info) _ List.mem_cons_self
  exact absurd hsafe.2 (by decide +kernel)

end V2xHub.Database
