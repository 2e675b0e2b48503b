import V2xHub.Lib.Pieces
import V2xHub.Monitor.ExeContainment

/-!
# `StringUtils::tokenize`

The scan counts in `unsigned int`. Of a string of 2^32 characters and more it never comes to the end (`scan_eq_none`), of
a shorter one the tokens are the ranges between the separators (`scan_eq`). An erasure sends the iterator back to the
first token, and the loop goes on behind it, so that an empty second token survives behind an empty first one
(`eraseEmpty_eq`).
-/

namespace V2xHub.StringUtils

open PluginMonitor (eraseEmpty)

/-- `unsigned int` -/
def uint (n : Nat) : Nat := n % 2 ^ 32

/-- `none` is for the exception. -/
def substr (str : Str) (pos n : Nat) : Option Str := if pos ≤ str.length then some ((str.drop pos).take n) else none

/-- The loop over the string and the token behind the last separator, in at most `fuel` rounds. -/
def scan (str sep : Str) : (fuel : Nat) → (i startPosition : Nat) → (results : List Str) → Option (List Str)
  | 0, _, _, _ => none
  | fuel + 1, i, startPosition, results =>
    match str[i]? with
    | some c =>
      if c ∈ sep then
        (substr str startPosition (uint (i + 2 ^ 32 - startPosition))).bind fun token =>
          scan str sep fuel (uint (i + 1)) (uint (i + 1)) (results ++ [token])
      else scan str sep fuel (uint (i + 1)) startPosition results
    | none =>
      if i ≠ startPosition then
        (substr str startPosition (uint (i + 2 ^ 32 - startPosition))).map fun token => results ++ [token]
      else some results

/-- The loop that erases the empty tokens has rounds enough. -/
def tokenize (fuel : Nat) (str sep : Str) (removeEmpty : Bool) : Option (List Str) :=
  (scan str sep fuel 0 0 []).map fun results =>
    if removeEmpty then eraseEmpty ((results.length + 1) * (results.length + 1)) 0 results else results

/-- The call returns, with these tokens. -/
def Returns (str sep : Str) (removeEmpty : Bool) (tokens : List Str) : Prop :=
  ∃ fuel, tokenize fuel str sep removeEmpty = some tokens

def isSep (sep : Str) (c : UInt8) : Bool := decide (c ∈ sep)

/-- The string starts with two separators. -/
def startsWithTwo (sep : Str) : Str → Bool
  | c :: d :: _ => isSep sep c && isSep sep d
  | _ => false

def endsWithOne (sep str : Str) : Bool := str.getLast?.any (isSep sep)

variable {str sep w : Str} {i startPosition fuel : Nat} {results tokens : List Str}

/-! ### The scan -/

theorem substr_eq (hi : i ≤ str.length) (hle : startPosition ≤ i) (hlen : str.length < 2 ^ 32) :
    substr str startPosition (uint (i + 2 ^ 32 - startPosition)) = some (Pieces.slice str (startPosition, i)) := by
  have hn : uint (i + 2 ^ 32 - startPosition) = i - startPosition := by
    rw [uint]
    omega
  rw [substr, if_pos (hle.trans hi), hn]
  rfl

theorem scan_at (hlen : str.length < 2 ^ 32) (h : Pieces.At (p := isSep sep) str startPosition i w) :
    scan str sep fuel i startPosition results =
      if w.length < fuel then
        some (results ++ (Pieces.cuts (isSep sep) startPosition i w).map (Pieces.slice str))
      else none := by
  induction w generalizing fuel i startPosition results with
  | nil =>
    cases fuel with
    | zero => rfl
    | succ fuel =>
      have hnone : str[i]? = none := List.getElem?_eq_none (List.drop_eq_nil_iff.mp h.rest)
      rw [scan, hnone, Pieces.cuts]
      dsimp only
      rw [substr_eq h.within h.le hlen, List.length_nil, if_pos (Nat.succ_pos fuel)]
      split_ifs
      · rfl
      · rw [List.map_nil, List.append_nil]
  | cons c w ih =>
    cases fuel with
    | zero => rfl
    | succ fuel =>
      have hnext : uint (i + 1) = i + 1 := Nat.mod_eq_of_lt (lt_of_le_of_lt h.lt hlen)
      rw [scan, h.head, Pieces.cuts]
      dsimp only
      rw [hnext, substr_eq h.within h.le hlen, List.length_cons]
      simp only [Nat.add_lt_add_iff_right]
      by_cases hc : c ∈ sep
      · have hsep : isSep sep c = true := decide_eq_true hc
        rw [if_pos hc, if_pos hsep, Option.bind_some, ih (h.cut hsep), List.map_cons, List.append_assoc]
        rfl
      · have hsep : isSep sep c = false := decide_eq_false hc
        rw [if_neg hc, hsep, if_neg Bool.false_ne_true, ih (h.next hsep)]

/-- The ranges of the string before any erasure. -/
def pieces (str sep : Str) : List Str := (Pieces.cuts (isSep sep) 0 0 str).map (Pieces.slice str)

theorem scan_eq (hlen : str.length < 2 ^ 32) :
    scan str sep fuel 0 0 [] = if str.length < fuel then some (pieces str sep) else none :=
  scan_at hlen (Pieces.At.init str)

/-- The counter never reaches the length. -/
theorem scan_eq_none (hlen : 2 ^ 32 ≤ str.length) (hi : i < 2 ^ 32) : scan str sep fuel i startPosition results = none := by
  induction fuel generalizing i startPosition results with
  | zero => rfl
  | succ fuel ih =>
    have hnext : uint (i + 1) < 2 ^ 32 := Nat.mod_lt _ (by decide)
    rw [scan, List.getElem?_eq_getElem (hi.trans_le hlen)]
    dsimp only
    split_ifs
    · rw [Option.bind_eq_none_iff]
      intro token _
      exact ih hnext
    · exact ih hnext

theorem returns_iff {removeEmpty : Bool} :
    Returns str sep removeEmpty tokens ↔
      str.length < 2 ^ 32 ∧
        tokens = if removeEmpty then
          eraseEmpty (((pieces str sep).length + 1) * ((pieces str sep).length + 1)) 0 (pieces str sep)
        else pieces str sep := by
  constructor
  · rintro ⟨fuel, h⟩
    rcases Nat.lt_or_ge str.length (2 ^ 32) with hlen | hlen
    · rw [tokenize, scan_eq hlen] at h
      by_cases hfuel : str.length < fuel
      · rw [if_pos hfuel, Option.map_some, Option.some.injEq] at h
        exact ⟨hlen, h.symm⟩
      · rw [if_neg hfuel, Option.map_none] at h
        cases h
    · rw [tokenize, scan_eq_none hlen (by decide), Option.map_none] at h
      cases h
  · rintro ⟨hlen, rfl⟩
    refine ⟨str.length + 1, ?_⟩
    rw [tokenize, scan_eq hlen, if_pos (Nat.lt_succ_self _), Option.map_some]

/-! ### The empty tokens -/

theorem eraseEmpty_eq (results : List Str) :
    eraseEmpty ((results.length + 1) * (results.length + 1)) 0 results =
      if [[], []] <+: results then [] :: results.filter (· ≠ []) else results.filter (· ≠ []) := by
  match results with
  | [] => rfl
  | [t] =>
    by_cases ht : t = []
    · subst ht
      rfl
    · have hstarts : ¬ [([] : Str), []] <+: [t] := fun h => by simpa using h.length_le
      rw [PluginMonitor.eraseEmpty_of_ne_nil ht, if_neg hstarts, List.filter_cons_of_pos (by simpa using ht)]
  | t :: u :: ts =>
    have hstarts : [[], []] <+: t :: u :: ts ↔ t = [] ∧ u = [] := by
      rw [List.cons_prefix_cons, List.cons_prefix_cons, @eq_comm _ [] t, @eq_comm _ [] u]
      exact and_congr_right fun _ => and_iff_left List.nil_prefix
    by_cases ht : t = []
    · subst ht
      rw [PluginMonitor.eraseEmpty_of_nil]
      by_cases hu : u = []
      · subst hu
        rw [if_pos (hstarts.mpr ⟨rfl, rfl⟩)]
        simp
      · rw [if_neg fun h => hu (hstarts.mp h).2]
        simp [hu]
    · rw [PluginMonitor.eraseEmpty_of_ne_nil ht, if_neg fun h => ht (hstarts.mp h).1]
      exact (List.filter_cons_of_pos (by simpa using ht)).symm

theorem empty_empty_prefix : [[], []] <+: pieces str sep ↔ startsWithTwo sep str = true := by
  match str with
  | [] => exact iff_of_false (fun h => by simpa [pieces, Pieces.cuts] using h.length_le) Bool.false_ne_true
  | [c] =>
    refine iff_of_false (fun h => ?_) Bool.false_ne_true
    have hlen := h.length_le
    rw [pieces, List.length_map, Pieces.cuts] at hlen
    split_ifs at hlen <;> simp [Pieces.cuts] at hlen
  | c :: d :: w =>
    rw [pieces, Pieces.cuts, startsWithTwo]
    cases hc : isSep sep c with
    | false =>
      have hlen : 1 + (d :: w).length ≤ (c :: d :: w).length := by simp only [List.length_cons]; omega
      obtain ⟨r, rest, hcuts, hne⟩ := Pieces.slice_head_ne_nil (p := isSep sep) Nat.one_pos hlen
      rw [if_neg Bool.false_ne_true, hcuts, List.map_cons, List.cons_prefix_cons]
      exact iff_of_false (fun h => hne h.1.symm) Bool.false_ne_true
    | true =>
      rw [if_pos rfl, List.map_cons, Pieces.slice_self, List.cons_prefix_cons, and_iff_right rfl, Bool.true_and,
        Pieces.cuts]
      cases hd : isSep sep d with
      | false =>
        have hlen : 2 + w.length ≤ (c :: d :: w).length := by simp only [List.length_cons]; omega
        obtain ⟨r, rest, hcuts, hne⟩ := Pieces.slice_head_ne_nil (p := isSep sep) Nat.one_lt_two hlen
        rw [if_neg Bool.false_ne_true, hcuts, List.map_cons, List.cons_prefix_cons]
        exact iff_of_false (fun h => hne h.1.symm) Bool.false_ne_true
      | true =>
        rw [if_pos rfl, List.map_cons, Pieces.slice_self, List.cons_prefix_cons]
        exact iff_of_true ⟨rfl, List.nil_prefix⟩ rfl

theorem are_pieces (str sep : Str) : Pieces.Are (isSep sep) str ((pieces str sep).filter (· ≠ [])) := by
  have hfilter : (pieces str sep).filter (· ≠ []) = (pieces str sep).filter fun t => !t.isEmpty :=
    List.filter_congr fun t _ => by cases t <;> rfl
  rw [hfilter]
  exact Pieces.are_filter_cuts str

/-- With `removeEmpty` the tokens are the maximal pieces without a separator if and only if the string does not start
with two separators. Without it, the tokens joined with the separators are the string if and only if the string does not
end with a separator. Strings of 2^32 characters and more have no tokens. -/
theorem tokenize_correct_iff (str sep : Str) :
    ((∃ tokens, Returns str sep true tokens ∧ Pieces.Are (isSep sep) str tokens) ↔
      str.length < 2 ^ 32 ∧ startsWithTwo sep str = false) ∧
    ((∃ tokens, Returns str sep false tokens ∧ Pieces.join tokens (str.filter (isSep sep)) = str) ↔
      str.length < 2 ^ 32 ∧ endsWithOne sep str = false) := by
  constructor
  · simp only [returns_iff, if_true, and_assoc, exists_and_left, exists_eq_left]
    refine and_congr_right fun _ => ?_
    rw [eraseEmpty_eq, ← Bool.not_eq_true, ← empty_empty_prefix]
    split_ifs with htwo
    · exact iff_of_false (fun h => h.ne_nil List.mem_cons_self) (not_not.mpr htwo)
    · exact iff_of_true (are_pieces str sep) htwo
  · simp only [returns_iff, Bool.false_eq_true, if_false, and_assoc, exists_and_left, exists_eq_left]
    refine and_congr_right fun _ => ?_
    rw [← Bool.not_eq_true]
    exact Pieces.join_cuts str

/-- Of `//a` an empty token is left, and the slash at the end of `a/` is lost. -/
theorem tokenize_slashes :
    Returns (CString.lit "//a") (CString.lit "/") true [[], CString.lit "a"] ∧
    ¬ (∃ tokens, Returns (CString.lit "//a") (CString.lit "/") true tokens ∧
      Pieces.Are (isSep (CString.lit "/")) (CString.lit "//a") tokens) ∧
    ¬ (∃ tokens, Returns (CString.lit "a/") (CString.lit "/") false tokens ∧
      Pieces.join tokens ((CString.lit "a/").filter (isSep (CString.lit "/"))) = CString.lit "a/") := by
  have htokens : Returns (CString.lit "//a") (CString.lit "/") true [[], CString.lit "a"] :=
    ⟨4, by decide⟩
  have hends : Returns (CString.lit "a/") (CString.lit "/") false [CString.lit "a"] := ⟨3, by decide⟩
  refine ⟨htokens, ?_, ?_⟩
  · rintro ⟨tokens, h, hare⟩
    rw [returns_iff] at h htokens
    rw [h.2, ← htokens.2] at hare
    exact hare.ne_nil List.mem_cons_self
  · rintro ⟨tokens, h, hjoin⟩
    rw [returns_iff] at h hends
    rw [h.2, ← hends.2] at hjoin
    exact absurd hjoin (by decide)

end V2xHub.StringUtils
