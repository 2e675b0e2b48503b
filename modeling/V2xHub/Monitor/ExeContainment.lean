import V2xHub.Lib.LexicalPath
import V2xHub.Monitor.Basic
import Mathlib.Tactic.Linarith
import Mathlib.Tactic.Ring

/-!
# Where the executable of a plugin lies

The depth that `monitorThreadEntry` counts is the depth of the path it executes, except that of two slashes in
front of the executable name one empty token survives the tokenizer and is counted (`tokenize_eq`), so that
such a name can leave the directory of its plugin by one level (`containment_iff`).
-/

namespace V2xHub.PluginMonitor

open LexicalPath

variable {token : Str} {s path exeName : Str} {results pre ts : List Str}

/-! ### The tokenizer -/

theorem modifyHead_nil_append (l : List Str) : l.modifyHead ([] ++ ·) = l := by cases l <;> rfl

theorem filter_splitTokens (token s : Str) :
    (splitTokens slash token s).filter (· ≠ []) = ((s.splitOn slash).modifyHead (token ++ ·)).filter (· ≠ []) := by
  induction s generalizing token with
  | nil =>
    rw [splitTokens, List.splitOn_nil, List.modifyHead_cons, List.append_nil]
    split_ifs with h
    · simp [h]
    · rfl
  | cons c s ih =>
    rw [splitTokens, List.splitOn_cons_eq_if_modifyHead]
    by_cases hc : c = slash
    · subst hc
      rw [if_pos rfl, if_pos (by simp), List.modifyHead_cons, List.append_nil, List.filter_cons, List.filter_cons, ih,
        modifyHead_nil_append]
    · rw [if_neg hc, if_neg (by simpa using hc), List.modifyHead_modifyHead, ih]
      congr 2
      funext t
      simp

theorem components_eq : components s = (splitTokens slash [] s).filter (· ≠ []) := by
  rw [filter_splitTokens, modifyHead_nil_append]
  rfl

theorem not_mem_of_mem_splitTokens (h : slash ∉ token) : ∀ t ∈ splitTokens slash token s, slash ∉ t := by
  induction s generalizing token with
  | nil =>
    rw [splitTokens]
    split_ifs
    · simp
    · simpa using h
  | cons c s ih =>
    rw [splitTokens]
    split_ifs with hc
    · exact List.forall_mem_cons.2 ⟨h, ih (by simp)⟩
    · exact ih (by simpa [h] using Ne.symm hc)

theorem not_mem_of_mem_components : ∀ t ∈ components s, slash ∉ t := by
  intro t ht
  rw [components_eq] at ht
  exact not_mem_of_mem_splitTokens (by simp) t (List.mem_filter.1 ht).1

theorem filter_components (s : Str) : (components s).filter (· ≠ []) = components s := by
  rw [components, List.filter_filter]
  simp

theorem exists_splitTokens (token s : Str) (h : token ≠ []) : ∃ t ts, splitTokens slash token s = t :: ts ∧ t ≠ [] := by
  induction s generalizing token with
  | nil => exact ⟨token, [], if_neg h, h⟩
  | cons c s ih =>
    rw [splitTokens]
    split_ifs
    · exact ⟨token, _, rfl, h⟩
    · exact ih _ (by simp)

/-- Behind the first token every empty one is erased. -/
theorem eraseEmpty_spec (fuel : Nat) (first : Str) (pre ts : List Str) (hpre : ∀ t ∈ pre, t ≠ [])
    (hfuel : ts.length + ts.countP (· = []) * (pre.length + ts.length) < fuel) :
    eraseEmpty fuel (pre.length + 1) (first :: pre ++ ts) = first :: pre ++ ts.filter (· ≠ []) := by
  induction fuel generalizing pre ts with
  | zero => exact absurd hfuel (Nat.not_lt_zero _)
  | succ fuel ih =>
    rw [eraseEmpty, if_pos (by simp)]
    cases ts with
    | nil => simp
    | cons t ts =>
      have hget : (first :: pre ++ t :: ts)[pre.length + 1]? = some t := by simp
      rw [hget]
      dsimp only
      by_cases ht : t = []
      · have herase : (first :: pre ++ t :: ts).eraseIdx (pre.length + 1) = first :: [] ++ (pre ++ ts) := by
          simp [List.eraseIdx_append_of_length_le]
        have hcount : (pre ++ ts).countP (· = []) = ts.countP (· = []) := by
          rw [List.countP_append, List.countP_eq_zero.2 fun t ht => by simpa using hpre t ht, Nat.zero_add]
        rw [if_pos ht, herase]
        have hnext := ih [] (pre ++ ts) (by simp) (by
          rw [hcount]
          rw [List.countP_cons_of_pos (by simpa using ht), List.length_cons] at hfuel
          simp only [List.length_append, List.length_nil, Nat.zero_add]
          nlinarith)
        rw [List.length_nil, Nat.zero_add] at hnext
        rw [hnext, List.filter_append, List.filter_eq_self.2 fun t ht => by simpa using hpre t ht,
          List.filter_cons_of_neg (by simpa using ht)]
        simp
      · rw [if_neg ht]
        have hnext := ih (pre ++ [t]) ts
          (List.forall_mem_append.2 ⟨hpre, by simpa using ht⟩) (by
          rw [List.countP_cons_of_neg (by simpa using ht), List.length_cons] at hfuel
          simp only [List.length_append, List.length_cons, List.length_nil]
          nlinarith)
        simp only [List.length_append, List.length_cons, List.length_nil, List.append_assoc, List.cons_append,
          List.nil_append] at hnext ⊢
        rw [hnext, List.filter_cons_of_pos (by simpa using ht)]

theorem eraseEmpty_one (fuel : Nat) (first : Str) (hfuel : ts.length + ts.length * ts.length < fuel) :
    eraseEmpty fuel 1 (first :: ts) = first :: ts.filter (· ≠ []) := by
  refine eraseEmpty_spec fuel first [] ts (by simp) ?_
  have hcount : ts.countP (· = []) ≤ ts.length := List.countP_le_length
  rw [List.length_nil, Nat.zero_add]
  nlinarith

theorem eraseEmpty_of_ne_nil {t : Str} (ht : t ≠ []) :
    eraseEmpty (((t :: ts).length + 1) * ((t :: ts).length + 1)) 0 (t :: ts) = t :: ts.filter (· ≠ []) := by
  rw [List.length_cons, show (ts.length + 1 + 1) * (ts.length + 1 + 1) = ts.length * ts.length + 4 * ts.length + 3 + 1 by
    ring, eraseEmpty, if_pos (by simp), List.getElem?_cons_zero]
  dsimp only
  rw [if_neg ht, eraseEmpty_one _ _ (by omega)]

theorem eraseEmpty_of_nil {u : Str} :
    eraseEmpty ((([] :: u :: ts).length + 1) * (([] :: u :: ts).length + 1)) 0 ([] :: u :: ts) =
      u :: ts.filter (· ≠ []) := by
  rw [List.length_cons, List.length_cons,
    show (ts.length + 1 + 1 + 1) * (ts.length + 1 + 1 + 1) = ts.length * ts.length + 6 * ts.length + 8 + 1 by ring,
    eraseEmpty, if_pos (by simp), List.getElem?_cons_zero]
  dsimp only
  rw [if_pos rfl, List.eraseIdx_cons_zero, eraseEmpty_one _ _ (by omega)]

theorem tokenize_of_ne_nil {t : Str} (h : splitTokens slash [] s = t :: ts) (ht : t ≠ []) :
    tokenize s slash = t :: ts.filter (· ≠ []) := by
  rw [tokenize, h, eraseEmpty_of_ne_nil ht]

theorem tokenize_of_nil {u : Str} (h : splitTokens slash [] s = [] :: u :: ts) :
    tokenize s slash = u :: ts.filter (· ≠ []) := by
  rw [tokenize, h, eraseEmpty_of_nil]

/-- An empty token is left in front of those of a string that starts with two slashes. -/
theorem tokenize_eq (s : Str) :
    tokenize s slash = if [slash, slash] <+: s then [] :: components s else components s := by
  rw [components_eq]
  match s with
  | [] => rfl
  | [c] =>
    by_cases hc : c = slash
    · subst hc
      rfl
    · have hsplit : splitTokens slash [] [c] = [[c]] := by rw [splitTokens, if_neg hc]; rfl
      rw [tokenize_of_ne_nil hsplit (by simp), if_neg (by simp), hsplit]
      rfl
  | c :: d :: s =>
    by_cases hc : c = slash
    · by_cases hd : d = slash
      · have hsplit : splitTokens slash [] (c :: d :: s) = [] :: [] :: splitTokens slash [] s := by
          rw [splitTokens, if_pos hc, splitTokens, if_pos hd]
        rw [tokenize_of_nil hsplit, if_pos (by simp [hc, hd]), hsplit]
        rfl
      · obtain ⟨t, ts, ht, hne⟩ := exists_splitTokens [d] s (by simp)
        have hsplit : splitTokens slash [] (c :: d :: s) = [] :: t :: ts := by
          rw [splitTokens, if_pos hc, splitTokens, if_neg hd, ← ht]
          rfl
        rw [tokenize_of_nil hsplit, if_neg (by simp [Ne.symm hd]), hsplit, List.filter_cons_of_neg (by simp),
          List.filter_cons_of_pos (by simpa using hne)]
    · obtain ⟨t, ts, ht, hne⟩ := exists_splitTokens [c] (d :: s) (by simp)
      have hsplit : splitTokens slash [] (c :: d :: s) = t :: ts := by
        rw [splitTokens, if_neg hc, ← ht]
        rfl
      rw [tokenize_of_ne_nil hsplit hne, if_neg (by simp [Ne.symm hc]), hsplit,
        List.filter_cons_of_pos (by simpa using hne)]

/-! ### The walk -/

theorem walkExe_dot (d : Int) (out : Bool) : walkExe (dot :: ts) path d out = walkExe ts path d (out || d < 0) := rfl

theorem walkExe_dotdot (d : Int) (out : Bool) :
    walkExe (dotdot :: ts) path d out = walkExe ts (path ++ slash :: dotdot) (d - 1) (out || d - 1 < 0) := rfl

theorem walkExe_cons {t : Str} (hdot : t ≠ dot) (hdotdot : t ≠ dotdot) (d : Int) (out : Bool) :
    walkExe (t :: ts) path d out = walkExe ts (path ++ slash :: t) (d + 1) (out || d + 1 < 0) := by
  have hdot : t ≠ CString.lit "." := hdot
  have hdotdot : t ≠ CString.lit ".." := hdotdot
  rw [walkExe, if_pos hdot, if_neg hdotdot]

theorem walkExe_path (ts : List Str) (path : Str) (d : Int) (out : Bool) :
    (walkExe ts path d out).1 = path ++ (ts.filter (· ≠ dot)).flatMap (slash :: ·) := by
  induction ts generalizing path d out with
  | nil => simp [walkExe]
  | cons t ts ih =>
    by_cases hdot : t = dot
    · rw [hdot, walkExe_dot, ih, List.filter_cons_of_neg (by simp)]
    · rw [List.filter_cons_of_pos (by simpa using hdot), List.flatMap_cons, ← List.append_assoc]
      by_cases hdotdot : t = dotdot
      · rw [hdotdot, walkExe_dotdot, ih]
      · rw [walkExe_cons hdot hdotdot, ih]

theorem walkExe_out (d : Int) : (walkExe ts path d true).2.2 = true := by
  induction ts generalizing path d with
  | nil => rfl
  | cons t ts ih =>
    by_cases hdot : t = dot
    · rw [hdot, walkExe_dot, Bool.true_or, ih]
    · by_cases hdotdot : t = dotdot
      · rw [hdotdot, walkExe_dotdot, Bool.true_or, ih]
      · rw [walkExe_cons hdot hdotdot, Bool.true_or, ih]

/-- The depth is that of the path below the directory, until it leaves it. -/
theorem walkExe_of_descend {below rest : List Str} (h : descend below ts = some rest) :
    (walkExe ts path below.length false).2 = ((rest.length : Int), false) := by
  induction ts generalizing below path with
  | nil =>
    obtain rfl := Option.some.inj h
    rfl
  | cons t ts ih =>
    rw [descend] at h
    split_ifs at h with hdot hdotdot hbelow
    · rw [hdot, walkExe_dot, Bool.false_or, decide_eq_false (by omega)]
      exact ih h
    · have hlength : ((below.length : Int) - 1) = (below.dropLast.length : Int) := by
        have := List.length_pos_iff.2 hbelow
        rw [List.length_dropLast]
        omega
      rw [hdotdot, walkExe_dotdot, hlength, Bool.false_or, decide_eq_false (by omega)]
      exact ih h
    · have hlength : ((below.length : Int) + 1) = ((below ++ [t]).length : Int) := by simp
      rw [walkExe_cons hdot hdotdot, hlength, Bool.false_or, decide_eq_false (by omega)]
      exact ih h

theorem walkExe_of_leave {below : List Str} (h : descend below ts = none) :
    (walkExe ts path below.length false).2.2 = true := by
  induction ts generalizing below path with
  | nil => nomatch h
  | cons t ts ih =>
    rw [descend] at h
    split_ifs at h with hdot hdotdot hbelow
    · rw [hdot, walkExe_dot, Bool.false_or, decide_eq_false (by omega)]
      exact ih h
    · rw [hdotdot, walkExe_dotdot, hbelow, Bool.false_or, decide_eq_true (by simp)]
      exact walkExe_out _
    · have hlength : ((below.length : Int) - 1) = (below.dropLast.length : Int) := by
        have := List.length_pos_iff.2 hbelow
        rw [List.length_dropLast]
        omega
      rw [hdotdot, walkExe_dotdot, hlength, Bool.false_or, decide_eq_false (by omega)]
      exact ih h
    · have hlength : ((below.length : Int) + 1) = ((below ++ [t]).length : Int) := by simp
      rw [walkExe_cons hdot hdotdot, hlength, Bool.false_or, decide_eq_false (by omega)]
      exact ih h

/-! ### Containment -/

/-- The token that the tokenizer leaves in front. -/
def spare (exeName : Str) : List Str := if [slash, slash] <+: exeName then [[]] else []

/-- The path that is executed has the components of the plugin's path and those of the executable name. -/
theorem fullpath_eq_some {full : Str} :
    fullpath path exeName = some full ↔
      (∃ rest, rest ≠ [] ∧ descend (spare exeName) (components exeName) = some rest) ∧
        full = (tokenize path slash).flatMap (slash :: ·) ++
          ((spare exeName ++ components exeName).filter (· ≠ dot)).flatMap (slash :: ·) := by
  have htokens : tokenize exeName slash = spare exeName ++ components exeName := by
    rw [tokenize_eq, spare]
    split_ifs <;> rfl
  have hspare : descend [] (spare exeName ++ components exeName) = descend (spare exeName) (components exeName) := by
    rw [spare]
    split_ifs
    · rfl
    · rfl
  rw [fullpath, htokens, ← hspare]
  dsimp only
  generalize spare exeName ++ components exeName = ts
  have hpath := walkExe_path ts ((tokenize path slash).flatMap (slash :: ·)) 0 false
  cases hdescend : descend [] ts with
  | none =>
    have hout : (walkExe ts ((tokenize path slash).flatMap (slash :: ·)) 0 false).2.2 = true := walkExe_of_leave hdescend
    refine iff_of_false (fun h => ?_) fun h => ?_
    · split_ifs at h with hlength hrefused
      simp only [hout, Bool.or_true, not_true_eq_false] at hrefused
    · obtain ⟨⟨_, -, hsome⟩, -⟩ := h
      nomatch hsome
  | some rest =>
    have hin : (walkExe ts ((tokenize path slash).flatMap (slash :: ·)) 0 false).2 = ((rest.length : Int), false) :=
      walkExe_of_descend hdescend
    simp only [hin, hpath]
    by_cases hrest : rest = []
    · subst hrest
      refine iff_of_false (fun h => ?_) fun h => ?_
      · split_ifs at h with hlength hrefused
        exact absurd rfl hrefused
      · obtain ⟨⟨_, hne, hsome⟩, -⟩ := h
        exact hne (Option.some.inj hsome).symm
    · have hts : ts.length ≠ 0 := by
        intro hzero
        rw [List.length_eq_zero_iff.1 hzero] at hdescend
        exact hrest (Option.some.inj hdescend).symm
      have hpos : ¬ ((rest.length : Int) < 1) := by
        have := List.length_pos_iff.2 hrest
        omega
      rw [if_neg hts, if_neg (by simp [hpos]), Option.some.injEq, eq_comm (a := full)]
      exact (and_iff_right ⟨rest, hrest, rfl⟩).symm

theorem resolve_fullpath {full : Str} {rest : List Str} (h : fullpath path exeName = some full)
    (hrest : descend [] (components exeName) = some rest) : resolve full = resolve path ++ rest := by
  obtain ⟨-, rfl⟩ := fullpath_eq_some.1 h
  have hpath : (tokenize path slash).filter (· ≠ []) = components path := by
    have hself := filter_components path
    rw [tokenize_eq]
    split_ifs
    · rw [List.filter_cons_of_neg (by simp), hself]
    · exact hself
  have hexe : ((spare exeName ++ components exeName).filter (· ≠ dot)).filter (· ≠ []) =
      (components exeName).filter (· ≠ dot) := by
    rw [List.filter_comm, List.filter_append, filter_components, spare]
    split_ifs <;> rfl
  have hslash : ∀ t ∈ tokenize path slash, slash ∉ t := by
    rw [tokenize_eq]
    split_ifs
    · exact List.forall_mem_cons.2 ⟨by simp, fun t => not_mem_of_mem_components t⟩
    · exact fun t => not_mem_of_mem_components t
  have hslash' : ∀ t ∈ (spare exeName ++ components exeName).filter (· ≠ dot), slash ∉ t := by
    intro t ht
    rcases List.mem_append.1 (List.mem_filter.1 ht).1 with ht | ht
    · rw [spare] at ht
      split_ifs at ht
      · simp [List.mem_singleton.1 ht]
      · exact absurd ht List.not_mem_nil
    · exact not_mem_of_mem_components t ht
  have hcomponents : components ((tokenize path slash).flatMap (slash :: ·) ++
      ((spare exeName ++ components exeName).filter (· ≠ dot)).flatMap (slash :: ·)) =
      components path ++ (components exeName).filter (· ≠ dot) := by
    have hdir := components_append_flatMap (a := []) hslash
    rw [List.nil_append] at hdir
    refine (components_append_flatMap hslash').trans ?_
    rw [hexe]
    congr 1
    exact hdir.trans hpath
  rw [resolve, hcomponents, List.foldl_append, foldl_push_filter, ← resolve]
  have := foldl_push_of_descend (resolve path) hrest
  rwa [List.append_nil] at this

/-- The path below the directory of the plugin that the executable name stands for, if it stays there. -/
def Inside (exeName : Str) : Prop := ∃ rest, rest ≠ [] ∧ descend [] (components exeName) = some rest

/-- What is executed lies strictly below the directory of the plugin, and names that leave it or end at it are
refused, exactly where the name does not start with two slashes, or stays inside, or leaves the directory by
more than the one level that the empty token counts for. -/
theorem containment_iff (path exeName : Str) :
    ((∀ full, fullpath path exeName = some full → ∃ rest, rest ≠ [] ∧ resolve full = resolve path ++ rest) ∧
      (¬ Inside exeName → fullpath path exeName = none)) ↔
    ([slash, slash] <+: exeName → Inside exeName ∨ ¬ ∃ rest, rest ≠ [] ∧ descend [[]] (components exeName) = some rest) := by
  constructor
  · rintro ⟨-, hrefused⟩ hprefix
    by_contra hnot
    obtain ⟨hinside, hspare⟩ := not_or.1 hnot
    have haccepted : ∃ full, fullpath path exeName = some full :=
      ⟨_, fullpath_eq_some.2 ⟨by rw [spare, if_pos hprefix]; exact not_not.1 hspare, rfl⟩⟩
    obtain ⟨full, hfull⟩ := haccepted
    rw [hrefused hinside] at hfull
    nomatch hfull
  · intro hcond
    have hinside : ∀ full, fullpath path exeName = some full → Inside exeName := by
      intro full hfull
      obtain ⟨hdescend, -⟩ := fullpath_eq_some.1 hfull
      rw [spare] at hdescend
      split_ifs at hdescend with hprefix
      · exact (hcond hprefix).resolve_right (not_not.2 hdescend)
      · exact hdescend
    constructor
    · intro full hfull
      obtain ⟨rest, hne, hrest⟩ := hinside full hfull
      exact ⟨rest, hne, resolve_fullpath hfull hrest⟩
    · intro hnot
      exact Option.eq_none_iff_forall_not_mem.2 fun full hfull => hnot (hinside full hfull)

/-- Two slashes, and a step up. -/
theorem leaves_directory :
    fullpath (CString.lit "/var/www/plugins/a") (CString.lit "//../sh") = some (CString.lit "/var/www/plugins/a//../sh") ∧
      resolve (CString.lit "/var/www/plugins/a//../sh") = resolve (CString.lit "/var/www/plugins/sh") ∧
      ¬ resolve (CString.lit "/var/www/plugins/a") <+: resolve (CString.lit "/var/www/plugins/a//../sh") := by
  decide +kernel

end V2xHub.PluginMonitor
