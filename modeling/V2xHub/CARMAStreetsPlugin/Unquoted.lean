import V2xHub.PropertyTree.Tokens
import Mathlib.Data.List.DropRight

/-!
# Numbers without quotes

What `HandleTimeSyncMessage` and `HandleSimulatedSensorDetectedMessage` make of the JSON of a tree of texts. The expressions are
searched for in the text as a whole: they match names as well as values, and what is behind the last quote in a string, with the
backslash in front of it left. Their numbers are not those of JSON.
-/

namespace V2xHub.CARMAStreetsPlugin.Unquoted

open PropertyTree

/-! ### The expressions -/

/-- `[0-9]+(\.[0-9]+)?` -/
def unsigned (s : Str) : Bool :=
  !(s.takeWhile Strtol.isdigit).isEmpty &&
    match s.dropWhile Strtol.isdigit with
    | [] => true
    | c :: fraction => c = 46 && !fraction.isEmpty && fraction.all Strtol.isdigit

/-- What is between the quotes of a match. The second expression has `-?` in front of the digits. -/
def expression (minus : Bool) (s : Str) : Bool :=
  words.contains s || unsigned s || (minus && s.head? = some 45 && unsigned s.tail)

/-- `$1` in place of each match, from the left. A match ends at the next quote. -/
def regex_replace (exp : Str → Bool) : Str → Str
  | [] => []
  | c :: s =>
    if c = 34 ∧ 34 ∈ s ∧ exp (s.takeWhile (· ≠ 34)) = true then
      s.takeWhile (· ≠ 34) ++ regex_replace exp ((s.dropWhile (· ≠ 34)).drop 1)
    else c :: regex_replace exp s
termination_by s => s.length
decreasing_by
  · have := (List.dropWhile_sublist (p := (· ≠ 34)) (l := s)).length_le
    simp only [List.length_drop, List.length_cons]
    omega
  · simp

/-- What is sent for the time. -/
def HandleTimeSyncMessage (msg : Ptree) : Option Str := (write_json msg).map (regex_replace (expression false))

/-- What is sent for a detected object. -/
def HandleSimulatedSensorDetectedMessage (msg : Ptree) : Option Str := (write_json msg).map (regex_replace (expression true))

/-! ### What is expected -/

open Classical in
/-- The tokens of a tree: a leaf that is a literal of JSON without its quotes. -/
noncomputable def token : Piece → Token
  | .mark c => .mark c
  | .key s => .string s
  | .leaf s => if IsLiteral s then .literal s else .string s

/-- What is sent, if anything can be written, has the tokens of the tree. -/
def Meets (msg : Ptree) (sent : Option Str) : Prop := ∀ rv ∈ sent, Tokens rv ((document msg).map token)

/-! ### When it is so -/

/-- What is behind the last quote. -/
def behindQuote (s : Str) : Str := s.rtakeWhile (· ≠ 34)

/-- A name has nothing that the expression matches behind its last quote, and a leaf only if all of it is a literal. -/
def Piece.Sound (exp : Str → Bool) : Piece → Prop
  | .mark _ => True
  | .key s => exp (behindQuote s) = false
  | .leaf s => if exp (behindQuote s) = true then 34 ∉ s ∧ IsLiteral s else ¬ IsLiteral s

def Sound (exp : Str → Bool) (msg : Ptree) : Prop := ∀ p ∈ document msg, Piece.Sound exp p

variable {exp : Str → Bool} {s t front last u : Str} {c : UInt8} {x : Token} {ts : List Token}

/-! ### The expressions -/

/-- What an expression matches is not empty, has no characters that are written in another way, and does not start with `u`. -/
def Matches (exp : Str → Bool) : Prop := ∀ s, exp s = true → s ≠ [] ∧ (∀ c ∈ s, Inner c) ∧ s.head? ≠ some 117

theorem unsigned_inner (h : unsigned s = true) : s ≠ [] ∧ ∀ c ∈ s, Inner c := by
  simp only [unsigned, Bool.and_eq_true, Bool.not_eq_true', List.isEmpty_eq_false_iff] at h
  obtain ⟨hwhole, hfraction⟩ := h
  have hsplit := List.takeWhile_append_dropWhile (p := Strtol.isdigit) (l := s)
  refine ⟨fun hnil => hwhole (by rw [hnil]; rfl), fun c hc => ?_⟩
  rw [← hsplit] at hc
  rcases List.mem_append.1 hc with hc | hc
  · exact inner_of_isdigit (List.mem_takeWhile_imp hc)
  · rcases hdrop : s.dropWhile Strtol.isdigit with _ | ⟨d, fraction⟩
    · rw [hdrop] at hc
      cases hc
    · rw [hdrop] at hc hfraction
      simp only [Bool.and_eq_true, decide_eq_true_eq, List.all_eq_true] at hfraction
      obtain ⟨⟨rfl, -⟩, hall⟩ := hfraction
      rcases List.mem_cons.1 hc with rfl | hc
      · decide
      · exact inner_of_isdigit (hall c hc)

theorem unsigned_head (h : unsigned s = true) : s.head? ≠ some 117 := by
  simp only [unsigned, Bool.and_eq_true, Bool.not_eq_true', List.isEmpty_eq_false_iff] at h
  rcases s with _ | ⟨c, s⟩
  · simp
  · intro hhead
    obtain rfl := Option.some.inj hhead
    exact h.1 rfl

theorem matches_expression (minus : Bool) : Matches (expression minus) := by
  intro s h
  simp only [expression, Bool.or_eq_true, Bool.and_eq_true, decide_eq_true_eq, List.contains_iff_mem] at h
  rcases h with (hword | hunsigned) | ⟨⟨-, hhead⟩, hunsigned⟩
  · obtain ⟨hne, hinner⟩ := inner_of_isLiteral (.inl hword)
    refine ⟨hne, hinner, ?_⟩
    rw [words, CString.lit_ofList, CString.lit_ofList, CString.lit_ofList] at hword
    simp only [List.mem_cons, List.not_mem_nil, or_false] at hword
    rcases hword with rfl | rfl | rfl <;> simp
  · obtain ⟨hne, hinner⟩ := unsigned_inner hunsigned
    exact ⟨hne, hinner, unsigned_head hunsigned⟩
  · obtain ⟨hne, hinner⟩ := unsigned_inner hunsigned
    rcases s with _ | ⟨c, s⟩
    · cases hhead
    · obtain rfl := Option.some.inj hhead
      refine ⟨List.cons_ne_nil _ _, fun c hc => ?_, by simp⟩
      rcases List.mem_cons.1 hc with rfl | hc
      · decide
      · exact hinner c hc

theorem flatMap_of_inner (h : ∀ c ∈ s, Inner c) : s.flatMap escape = s := flatMap_plain fun c hc => (h c hc).1

/-- A text is matched as it is, or not at all. -/
theorem exp_flatMap (hexp : Matches exp) (s : Str) : exp (s.flatMap escape) = exp s := by
  by_cases hplain : ∀ c ∈ s, Plain c
  · rw [flatMap_plain hplain]
  · have hwritten : exp (s.flatMap escape) ≠ true := by
      intro h
      simp only [not_forall] at hplain
      obtain ⟨c, hc, hnot⟩ := hplain
      have hmem : 92 ∈ s.flatMap escape := List.mem_flatMap.2 ⟨c, hc, (plain_or c).resolve_left hnot⟩
      exact ((hexp _ h).2.1 92 hmem).2.2.1 rfl
    have hread : exp s ≠ true := fun h => hplain fun c hc => ((hexp _ h).2.1 c hc).1
    rw [Bool.eq_false_iff.2 hwritten, Bool.eq_false_iff.2 hread]

/-! ### The replacement -/

theorem regex_replace_skip (h : 34 ∉ s) : regex_replace exp (s ++ t) = s ++ regex_replace exp t := by
  induction s with
  | nil => rfl
  | cons c s ih =>
    obtain ⟨hc, hs⟩ := not_or.1 (mt List.mem_cons.2 h)
    rw [List.cons_append, regex_replace, if_neg fun hand => hc hand.1.symm, ih hs, List.cons_append]

theorem takeWhile_quote (h : 34 ∉ s) : (s ++ 34 :: t).takeWhile (· ≠ 34) = s := takeWhile_ne_append h

theorem regex_replace_quote (h : 34 ∉ s) (hmatch : exp s = false) :
    regex_replace exp (34 :: (s ++ 34 :: t)) = 34 :: (s ++ regex_replace exp (34 :: t)) := by
  rw [regex_replace, takeWhile_quote h, if_neg (by simp [hmatch]), regex_replace_skip h]

theorem regex_replace_match (h : 34 ∉ s) (hmatch : exp s = true) :
    regex_replace exp (34 :: (s ++ 34 :: t)) = s ++ regex_replace exp t := by
  rw [regex_replace, takeWhile_quote h, if_pos ⟨rfl, by simp, hmatch⟩, dropWhile_ne_append h]
  rfl

/-- No match starts at the end of a string, where a mark follows. -/
theorem regex_replace_end (hexp : Matches exp) (ht : ∀ c ∈ t.head?, c ∈ marks) :
    regex_replace exp (34 :: t) = 34 :: regex_replace exp t := by
  rw [regex_replace, if_neg]
  rintro ⟨-, -, hmatch⟩
  obtain ⟨hne, hinner, -⟩ := hexp _ hmatch
  rcases t with _ | ⟨c, t⟩
  · exact hne rfl
  · have hc : c ≠ 34 := fun heq => absurd (heq ▸ ht c rfl) (by decide)
    rw [List.takeWhile_cons_of_pos (by simpa using hc)] at hinner
    exact (hinner c List.mem_cons_self).2.2.2.1 (ht c rfl)

/-- Up to the last quote of a string nothing is matched. -/
theorem regex_replace_front (hexp : Matches exp) (front : Str) (hs : 34 ∉ s) :
    regex_replace exp (34 :: (s ++ (front.flatMap escape ++ 92 :: 34 :: t))) =
      34 :: (s ++ (front.flatMap escape ++ 92 :: regex_replace exp (34 :: t))) := by
  have hstop : ∀ s : Str, exp (s ++ [92]) = false := by
    intro s
    refine Bool.eq_false_iff.2 fun h => ?_
    exact ((hexp _ h).2.1 92 (by simp)).2.2.1 rfl
  induction front generalizing s with
  | nil =>
    have hquote := regex_replace_quote (t := t) (s := s ++ [92]) (by simpa using hs) (hstop s)
    simpa using hquote
  | cons c front ih =>
    by_cases hc : c = 34
    · subst hc
      have hquote := regex_replace_quote (t := front.flatMap escape ++ 92 :: 34 :: t) (s := s ++ [92]) (by simpa using hs) (hstop s)
      have hrest := ih (s := []) (by simp)
      rw [List.nil_append, List.nil_append] at hrest
      rw [hrest] at hquote
      have hescape : escape 34 = [92, 34] := by decide
      simpa [hescape] using hquote
    · have hnext := ih (s := s ++ escape c) (by simp [hs, quote_not_mem_escape hc])
      simpa using hnext

/-! ### A string -/

/-- Up to the last quote. -/
theorem split_quote (h : 34 ∈ s) : ∃ front, s = front ++ 34 :: behindQuote s ∧ 34 ∉ behindQuote s := by
  have hsplit := List.rdropWhile_append_rtakeWhile (p := (· ≠ (34 : UInt8))) (l := s)
  have hlast : 34 ∉ behindQuote s := fun hmem => absurd (List.mem_rtakeWhile_imp hmem) (by simp)
  have hne : s.rdropWhile (· ≠ 34) ≠ [] := by
    intro hnil
    exact absurd (List.rdropWhile_eq_nil_iff.1 hnil 34 h) (by simp)
  have hquote := List.rdropWhile_last_not (p := (· ≠ (34 : UInt8))) s hne
  refine ⟨(s.rdropWhile (· ≠ 34)).dropLast, ?_, hlast⟩
  have hend : (s.rdropWhile (· ≠ 34)).getLast hne = 34 := by simpa using hquote
  have hconcat := List.dropLast_append_getLast hne
  rw [hend] at hconcat
  rw [← List.singleton_append, ← List.append_assoc, hconcat]
  exact hsplit.symm

theorem behindQuote_eq (h : 34 ∉ s) : behindQuote s = s := by
  refine List.rtakeWhile_eq_self_iff.2 fun c hc => ?_
  simpa using ne_of_mem_of_not_mem hc h

/-- A string is left as it is if nothing matches behind its last quote. -/
theorem replace_of_not (hexp : Matches exp) (ht : ∀ c ∈ t.head?, c ∈ marks) (h : exp (behindQuote s) = false) :
    regex_replace exp (quoted s ++ t) = quoted s ++ regex_replace exp t := by
  have hlast : ∀ last : Str, 34 ∉ last → exp last = false →
      regex_replace exp (34 :: (last.flatMap escape ++ 34 :: t)) = 34 :: (last.flatMap escape ++ 34 :: regex_replace exp t) := by
    intro last hquote hmatch
    rw [regex_replace_quote (quote_not_mem_flatMap hquote) (by rw [exp_flatMap hexp, hmatch]), regex_replace_end hexp ht]
  by_cases hs : 34 ∈ s
  · obtain ⟨front, heq, hquote⟩ := split_quote hs
    have hfront := regex_replace_front (t := (behindQuote s).flatMap escape ++ 34 :: t) hexp front (s := []) (by simp)
    rw [hlast _ hquote h, List.nil_append, List.nil_append] at hfront
    have hescape : escape 34 = [92, 34] := by decide
    rw [quoted, heq]
    simpa [hescape] using hfront
  · rw [behindQuote_eq hs] at h
    simpa [quoted] using hlast s hs h

theorem replace_of_match (hexp : Matches exp) (hs : 34 ∉ s) (h : exp s = true) :
    regex_replace exp (quoted s ++ t) = s ++ regex_replace exp t := by
  have hplain := flatMap_of_inner (hexp s h).2.1
  have hmatch := regex_replace_match (t := t) hs h
  simpa [quoted, hplain] using hmatch

/-- The quote in the string is taken away, and the one at its end. -/
theorem replace_of_behind (hexp : Matches exp) (hs : s = front ++ 34 :: last) (hlast : 34 ∉ last) (h : exp last = true) :
    regex_replace exp (quoted s ++ t) = 34 :: (front.flatMap escape ++ 92 :: (last ++ regex_replace exp t)) := by
  have hplain := flatMap_of_inner (hexp last h).2.1
  have hfront := regex_replace_front (t := last ++ 34 :: t) hexp front (s := []) (by simp)
  rw [regex_replace_match hlast h, List.nil_append, List.nil_append] at hfront
  have hescape : escape 34 = [92, 34] := by decide
  rw [hs]
  simpa [quoted, hescape, hplain] using hfront

/-- What is left then is another string, or none. -/
theorem not_tokens_behind (hexp : Matches exp) (hs : s = front ++ 34 :: last) (hmatch : exp last = true)
    (hx : x = .string s ∨ x = .literal s) : ¬ Tokens (34 :: (front.flatMap escape ++ 92 :: (last ++ u))) (x :: ts) := by
  intro h
  obtain ⟨b, v, t', hstring, hchars, heq, -⟩ := tokens_quote h
  obtain ⟨b', v', rfl, hchars', heq'⟩ := chars_flatMap_append hchars heq.symm
  obtain ⟨hne, hinner, hhead⟩ := hexp last hmatch
  obtain ⟨c, last, rfl⟩ := List.exists_cons_of_ne_nil hne
  have hc := hinner c List.mem_cons_self
  have hv : s = front ++ v' := by
    rcases hx with rfl | rfl
    · exact Token.string.inj hstring
    · cases hstring
  have hv' := List.append_cancel_left (hs.symm.trans hv)
  cases hchars' with
  | nil => cases hv'
  | literal hl _ =>
    obtain ⟨rfl, -⟩ := List.cons.inj heq'
    exact hl.2.2 rfl
  | escape hmem _ =>
    obtain ⟨hquote, -⟩ := List.cons.inj hv'
    simp only [List.cons_append, List.cons.injEq, true_and] at heq'
    exact hc.2.1 (heq'.1.symm.trans ((escapes_spec _ hmem).2.1.2 hquote.symm))
  | unicode _ _ _ =>
    simp only [List.cons_append, List.cons.injEq, true_and] at heq'
    exact hhead (congrArg some heq'.1.symm)


/-! ### The parts of a document -/

/-- A string stands at the end or in front of a mark. -/
def Separated : List Piece → Prop
  | [] => True
  | .mark c :: ps => c ∈ marks ∧ Separated ps
  | .key _ :: ps => (∀ p ∈ ps.head?, ∃ c, p = .mark c) ∧ Separated ps
  | .leaf _ :: ps => (∀ p ∈ ps.head?, ∃ c, p = .mark c) ∧ Separated ps

theorem Separated.append {ps qs : List Piece} (hps : Separated ps) (hqs : Separated (.mark c :: qs)) :
    Separated (ps ++ .mark c :: qs) := by
  have hhead : ∀ ps : List Piece, (∀ p ∈ ps.head?, ∃ c, p = .mark c) → ∀ p ∈ (ps ++ .mark c :: qs).head?, ∃ c, p = .mark c := by
    rintro (_ | ⟨q, ps⟩) h p hp
    · exact ⟨c, (Option.some.inj hp).symm⟩
    · exact h p hp
  induction ps with
  | nil => exact hqs
  | cons p ps ih =>
    cases p with
    | mark _ => exact ⟨hps.1, ih hps.2⟩
    | key _ => exact ⟨hhead ps hps.1, ih hps.2⟩
    | leaf _ => exact ⟨hhead ps hps.1, ih hps.2⟩

mutual

theorem separated_pieces : (t : Ptree) → Separated (pieces t)
  | .node _ [] => ⟨by simp, trivial⟩
  | .node _ (child :: children) => by
    rw [pieces]
    split_ifs
    · exact ⟨by decide, separated_items (child :: children)⟩
    · exact ⟨by decide, separated_members (child :: children)⟩

theorem separated_items : (children : List (Str × Ptree)) → Separated (items children)
  | [] => ⟨by decide, trivial⟩
  | [(_, t)] => (separated_pieces t).append ⟨by decide, trivial⟩
  | (_, t) :: child :: rest => (separated_pieces t).append ⟨by decide, separated_items (child :: rest)⟩

theorem separated_members : (children : List (Str × Ptree)) → Separated (members children)
  | [] => ⟨by decide, trivial⟩
  | [(_, t)] => ⟨by simp, by decide, (separated_pieces t).append ⟨by decide, trivial⟩⟩
  | (_, t) :: child :: rest =>
    ⟨by simp, by decide, (separated_pieces t).append ⟨by decide, separated_members (child :: rest)⟩⟩

end

theorem separated_document (t : Ptree) : Separated (document t) := ⟨by decide, separated_members t.children⟩

/-! ### The tokens of what is sent -/

theorem regex_replace_mark (hc : c ∈ marks) : regex_replace exp (c :: t) = c :: regex_replace exp t := by
  rw [regex_replace, if_neg]
  rintro ⟨rfl, -⟩
  exact absurd hc (by decide)

/-- What follows a string starts with a mark, and so does what is made of it. -/
theorem Separated.ends (exp : Str → Bool) {ps : List Piece} (hhead : ∀ p ∈ ps.head?, ∃ c, p = .mark c) (h : Separated ps) :
    (∀ c ∈ (ps.flatMap Piece.text).head?, c ∈ marks) ∧ Ends (regex_replace exp (ps.flatMap Piece.text)) := by
  rcases ps with _ | ⟨p, ps⟩
  · rw [List.flatMap_nil, regex_replace]
    exact ⟨by simp, by simp [Ends]⟩
  · obtain ⟨c, rfl⟩ := hhead p rfl
    have hc := h.1
    rw [List.flatMap_cons, Piece.text, List.singleton_append, regex_replace_mark hc]
    refine ⟨?_, ?_⟩
    · rintro _ ⟨⟩
      exact hc
    · rintro _ ⟨⟩
      exact .inl hc

/-- What is made of a string is a token: the string if nothing matches, the literal if all of it matches and is one. -/
theorem tokens_string_iff (hexp : Matches exp) (ht : ∀ c ∈ t.head?, c ∈ marks) (hends : Ends (regex_replace exp t))
    (hx : x = .string s ∨ x = .literal s) : Tokens (regex_replace exp (quoted s ++ t)) (x :: ts) ↔
      (if exp (behindQuote s) = true then 34 ∉ s ∧ IsLiteral s ∧ x = .literal s else x = .string s) ∧
        Tokens (regex_replace exp t) ts := by
  split_ifs with hmatch
  · by_cases hs : 34 ∈ s
    · obtain ⟨front, heq, hlast⟩ := split_quote hs
      rw [replace_of_behind hexp heq hlast hmatch]
      exact iff_of_false (not_tokens_behind hexp heq hmatch hx) fun h => h.1.1 hs
    · rw [behindQuote_eq hs] at hmatch
      obtain ⟨hne, hinner, -⟩ := hexp s hmatch
      rw [replace_of_match hexp hs hmatch, tokens_inner hne hinner hends]
      constructor
      · rintro ⟨hliteral, his, htokens⟩
        exact ⟨⟨hs, his, hliteral⟩, htokens⟩
      · rintro ⟨⟨-, his, hliteral⟩, htokens⟩
        exact ⟨hliteral, his, htokens⟩
  · rw [replace_of_not hexp ht (Bool.eq_false_iff.2 hmatch), tokens_quoted]

theorem tokens_pieces_iff (hexp : Matches exp) {ps : List Piece} (h : Separated ps) :
    Tokens (regex_replace exp (ps.flatMap Piece.text)) (ps.map token) ↔ ∀ p ∈ ps, Piece.Sound exp p := by
  induction ps with
  | nil =>
    rw [List.flatMap_nil, regex_replace]
    exact iff_of_true .nil (by simp)
  | cons p ps ih =>
    rw [List.flatMap_cons, List.map_cons, List.forall_mem_cons]
    cases p with
    | mark c =>
      rw [Piece.text, List.singleton_append, regex_replace_mark h.1, token, tokens_mark h.1, ih h.2]
      simp [Piece.Sound]
    | key s =>
      obtain ⟨ht, hends⟩ := Separated.ends exp h.1 h.2
      rw [Piece.text, show token (.key s) = .string s from rfl, tokens_string_iff hexp ht hends (.inl rfl), ih h.2]
      refine and_congr_left fun _ => ?_
      rw [Piece.Sound]
      split_ifs with hmatch
      · simp [hmatch]
      · simp [Bool.eq_false_iff.2 hmatch]
    | leaf s =>
      obtain ⟨ht, hends⟩ := Separated.ends exp h.1 h.2
      have hx : token (.leaf s) = .string s ∨ token (.leaf s) = .literal s := by
        rw [token]
        split_ifs <;> simp
      rw [Piece.text, tokens_string_iff hexp ht hends hx, ih h.2]
      refine and_congr_left fun _ => ?_
      rw [Piece.Sound, token]
      split_ifs with hmatch hliteral hliteral <;> simp [hliteral]

theorem meets_iff (hexp : Matches exp) (msg : Ptree) :
    Meets msg ((write_json msg).map (regex_replace exp)) ↔ ((write_json msg).isSome = true → Sound exp msg) := by
  have htokens := tokens_pieces_iff hexp (separated_document msg)
  rw [write_json]
  split_ifs with hwrite
  · rw [Meets]
    simpa [Sound] using htokens
  · simp [Meets]

/-- The text that is sent has the tokens of the tree if and only if no name has a match behind its last quote, the leaves that
match are literals, and the others are none. -/
theorem unquotes_iff (msg : Ptree) :
    (Meets msg (HandleTimeSyncMessage msg) ↔ ((write_json msg).isSome = true → Sound (expression false) msg)) ∧
      (Meets msg (HandleSimulatedSensorDetectedMessage msg) ↔
        ((write_json msg).isSome = true → Sound (expression true) msg)) :=
  ⟨meets_iff (matches_expression false) msg, meets_iff (matches_expression true) msg⟩

/-- The text `007` is no number of JSON, and loses its quotes. -/
theorem not_unquotes :
    ¬ Meets (.node [] [([105, 100], .node [48, 48, 55] [])])
        (HandleTimeSyncMessage (.node [] [([105, 100], .node [48, 48, 55] [])])) ∧
      ¬ Meets (.node [] [([105, 100], .node [48, 48, 55] [])])
        (HandleSimulatedSensorDetectedMessage (.node [] [([105, 100], .node [48, 48, 55] [])])) := by
  have hnumber : ¬ IsLiteral [48, 48, 55] := by
    rintro (hword | hnumber)
    · rw [words, CString.lit_ofList, CString.lit_ofList, CString.lit_ofList] at hword
      exact absurd hword (by decide)
    · obtain ⟨minus, whole, fraction, exponent, heq, hminus, ⟨hwhole, hzero⟩, hfraction, hexponent⟩ := hnumber
      obtain rfl : minus = [] := by
        rcases hminus with rfl | rfl
        · rfl
        · simp at heq
      obtain ⟨c, whole, rfl⟩ := List.exists_cons_of_ne_nil hwhole.1
      obtain ⟨rfl, -⟩ := List.cons.inj heq
      rw [hzero rfl] at heq
      rcases hfraction with rfl | ⟨f, -, rfl⟩
      · rcases hexponent with rfl | ⟨e, he, sign, -, f, -, rfl⟩
        · simp at heq
        · obtain rfl : 48 = e := (List.cons.inj (List.cons.inj heq).2).1
          exact absurd he (by decide)
      · simp at heq
  have hwrite : (write_json (.node [] [([105, 100], .node [48, 48, 55] [])])).isSome = true := by decide
  have hbehind : behindQuote [48, 48, 55] = [48, 48, 55] := behindQuote_eq (by decide)
  have hmem : Piece.leaf [48, 48, 55] ∈ document (.node [] [([105, 100], .node [48, 48, 55] [])]) := by
    simp [document, members, pieces, Ptree.children]
  have hnot : ∀ minus : Bool, ¬ Sound (expression minus) (.node [] [([105, 100], .node [48, 48, 55] [])]) := by
    intro minus h
    have hleaf := h _ hmem
    have hmatch : expression minus [48, 48, 55] = true := by
      have hunsigned : unsigned [48, 48, 55] = true := by decide
      simp [expression, hunsigned]
    rw [Piece.Sound, hbehind, if_pos hmatch] at hleaf
    exact hnumber hleaf.2
  exact ⟨fun h => hnot false ((meets_iff (matches_expression false) _).1 h hwrite),
    fun h => hnot true ((meets_iff (matches_expression true) _).1 h hwrite)⟩

end V2xHub.CARMAStreetsPlugin.Unquoted
