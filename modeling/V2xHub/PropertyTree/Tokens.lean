import V2xHub.Lib.Strtol
import V2xHub.PropertyTree.Grammar
import Mathlib.Data.List.TakeWhile

/-!
# The tokens of JSON

`boost::property_tree::write_json` as the parts that it writes, and the tokens of a text of JSON, which tell its structure.
A string is found in a text only where it has been written (`tokens_quoted`), and a literal where it ends (`tokens_inner`).
-/

namespace PropertyTree

/-! ### What is written -/

/-- The parts of a text of JSON. -/
inductive Piece where
  | mark (c : UInt8)
  | key (s : Str)
  | leaf (s : Str)

def Piece.text : Piece → Str
  | mark c => [c]
  | key s => quoted s
  | leaf s => quoted s

mutual

/-- A tree with a text has no children. -/
def verify : Ptree → Bool
  | .node data children => (data.isEmpty || children.isEmpty) && verifyAll children

def verifyAll : List (Str × Ptree) → Bool
  | [] => true
  | (_, t) :: rest => verify t && verifyAll rest

end

mutual

/-- Children without names are an array. -/
def pieces : Ptree → List Piece
  | .node data [] => [.leaf data]
  | .node _ (child :: children) =>
    if (child :: children).all fun c => c.1.isEmpty then .mark 91 :: items (child :: children)
    else .mark 123 :: members (child :: children)

/-- The items, and the end of the array. -/
def items : List (Str × Ptree) → List Piece
  | [] => [.mark 93]
  | [(_, t)] => pieces t ++ [.mark 93]
  | (_, t) :: child :: rest => pieces t ++ .mark 44 :: items (child :: rest)

/-- The members, and the end of the object. -/
def members : List (Str × Ptree) → List Piece
  | [] => [.mark 125]
  | [(k, t)] => .key k :: .mark 58 :: (pieces t ++ [.mark 125])
  | (k, t) :: child :: rest => .key k :: .mark 58 :: (pieces t ++ .mark 44 :: members (child :: rest))

end

/-- The root is an object, whatever the names of its children. -/
def document (t : Ptree) : List Piece := .mark 123 :: members t.children

def write_json (t : Ptree) : Option Str := if t.data.isEmpty && verify t then some ((document t).flatMap Piece.text) else none

/-! ### What is read -/

inductive Token where
  | mark (c : UInt8)
  | string (s : Str)
  | literal (s : Str)

def marks : List UInt8 := [91, 93, 123, 125, 44, 58]

def spaces : List UInt8 := [32, 9, 10, 13]

def Digits (s : Str) : Prop := s ≠ [] ∧ ∀ c ∈ s, Strtol.isdigit c = true

/-- A number of JSON: a minus, digits without a zero in front, a fraction and an exponent. -/
def IsNumber (s : Str) : Prop := ∃ minus whole fraction exponent : Str, s = minus ++ whole ++ fraction ++ exponent ∧
  (minus = [] ∨ minus = [45]) ∧ (Digits whole ∧ (whole.head? = some 48 → whole = [48])) ∧
  (fraction = [] ∨ ∃ f, Digits f ∧ fraction = 46 :: f) ∧
  (exponent = [] ∨ ∃ e ∈ ([101, 69] : Str), ∃ sign ∈ ([[], [43], [45]] : List Str), ∃ f, Digits f ∧ exponent = e :: (sign ++ f))

def words : List Str := [CString.lit "null", CString.lit "true", CString.lit "false"]

def IsLiteral (s : Str) : Prop := s ∈ words ∨ IsNumber s

/-- A token that is not in quotes ends in front of these. -/
def Ends (t : Str) : Prop := ∀ c ∈ t.head?, c ∈ marks ∨ c ∈ spaces

/-- The text has the tokens. -/
inductive Tokens : Str → List Token → Prop
  | nil : Tokens [] []
  | space {c t ts} : c ∈ spaces → Tokens t ts → Tokens (c :: t) ts
  | mark {c t ts} : c ∈ marks → Tokens t ts → Tokens (c :: t) (.mark c :: ts)
  | string {b s t ts} : Chars b s → Tokens t ts → Tokens (34 :: (b ++ 34 :: t)) (.string s :: ts)
  | literal {w t ts} : IsLiteral w → Ends t → Tokens t ts → Tokens (w ++ t) (.literal w :: ts)

/-! ### Characters -/

variable {c d : UInt8} {s t b v r u w : Str}

/-- A character of a token that is not in quotes. -/
def Inner (c : UInt8) : Prop := Plain c ∧ c ≠ 34 ∧ c ≠ 92 ∧ c ∉ marks ∧ c ∉ spaces

instance (c : UInt8) : Decidable (Inner c) := inferInstanceAs (Decidable (_ ∧ _))

theorem inner_of_isdigit (h : Strtol.isdigit c = true) : Inner c := by
  have hall : ∀ n < 58, 48 ≤ n → Inner (UInt8.ofNat n) := by decide
  simp only [Strtol.isdigit, Bool.and_eq_true, decide_eq_true_eq, UInt8.le_iff_toNat_le] at h
  have hinner := hall c.toNat (Nat.lt_succ_of_le h.2) h.1
  rwa [UInt8.ofNat_toNat] at hinner

theorem plain_or (c : UInt8) : Plain c ∨ 92 ∈ escape c := by
  unfold Plain escape
  split_ifs <;> simp

theorem escape_cases (c : UInt8) : (∃ e ∈ escapes, c = e.2 ∧ escape c = [92, e.1]) ∨
    (c < 32 ∧ escape c = [92, 117, 48, 48, hexDigit (c / 16), hexDigit (c % 16)]) ∨ (Literal c ∧ escape c = [c]) := by
  by_cases hletter : ∃ e ∈ escapes, c = e.2
  · obtain ⟨e, he, rfl⟩ := hletter
    exact .inl ⟨e, he, rfl, escape_letter e he⟩
  · have hletter' : ∀ e ∈ escapes, c ≠ e.2 := fun e he h => hletter ⟨e, he, h⟩
    by_cases hc : c < 32
    · exact .inr (.inl ⟨hc, escape_control hc hletter'⟩)
    · obtain ⟨hescape, hliteral⟩ := escape_literal hc hletter'
      exact .inr (.inr ⟨hliteral, hescape⟩)

/-- What stands behind a backslash is no `u`, and stands for one character. -/
theorem escapes_spec : ∀ e ∈ escapes, e.1 ≠ 117 ∧ (e.1 = 34 ↔ e.2 = 34) ∧ ∀ e' ∈ escapes, e'.1 = e.1 → e'.2 = e.2 := by
  have hall : (escapes.all fun e => decide (e.1 ≠ 117) && decide (e.1 = 34 ↔ e.2 = 34) &&
      escapes.all fun e' => decide (e'.1 = e.1 → e'.2 = e.2)) = true := by decide
  intro e he
  have hspec := List.all_eq_true.1 hall e he
  simp only [Bool.and_eq_true, decide_eq_true_eq, List.all_eq_true] at hspec
  exact ⟨hspec.1.1, hspec.1.2, hspec.2⟩

theorem quote_not_mem_escape (h : c ≠ 34) : 34 ∉ escape c := by
  rcases escape_cases c with ⟨e, he, rfl, hescape⟩ | ⟨hc, hescape⟩ | ⟨hliteral, hescape⟩
  · rw [hescape]
    have hne : e.1 ≠ 34 := fun h34 => h ((escapes_spec e he).2.1.1 h34)
    simpa using hne.symm
  · obtain ⟨hhigh, hlow, -⟩ := hexDigit_control hc
    have hhigh' : hexDigit (c / 16) ≠ 34 := fun heq => absurd (heq ▸ hhigh) (by decide)
    have hlow' : hexDigit (c % 16) ≠ 34 := by
      intro heq
      rw [heq, CString.lit_ofList] at hlow
      exact absurd hlow (by decide)
    rw [hescape]
    simpa using ⟨hhigh'.symm, hlow'.symm⟩
  · rw [hescape]
    simpa using Ne.symm h

theorem quote_not_mem_flatMap (h : 34 ∉ s) : 34 ∉ s.flatMap escape := by
  simp only [List.mem_flatMap, not_exists, not_and]
  exact fun c hc => quote_not_mem_escape fun heq => h (heq ▸ hc)

/-- The first character of a string can be read off. -/
theorem chars_escape_append (h : Chars b v) (heq : b ++ 34 :: u = escape c ++ r) :
    ∃ b' v', v = c :: v' ∧ Chars b' v' ∧ b' ++ 34 :: u = r := by
  rcases escape_cases c with ⟨e, he, rfl, hescape⟩ | ⟨hc, hescape⟩ | ⟨hliteral, hescape⟩
  · rw [hescape] at heq
    cases h with
    | nil => simp at heq
    | literal hl _ =>
      obtain ⟨rfl, -⟩ := List.cons.inj heq
      exact absurd rfl hl.2.2
    | @escape c' d' b' v' hmem hrest =>
      simp only [List.cons_append, List.nil_append, List.cons.injEq, true_and] at heq
      obtain ⟨hfirst, heq⟩ := heq
      have hd : d' = e.2 := (escapes_spec e he).2.2 (c', d') hmem hfirst
      exact ⟨b', v', by rw [hd], hrest, heq⟩
    | unicode _ _ _ =>
      simp only [List.cons_append, List.nil_append, List.cons.injEq, true_and] at heq
      exact absurd heq.1.symm (escapes_spec e he).1
  · rw [hescape] at heq
    cases h with
    | nil => simp at heq
    | literal hl _ =>
      obtain ⟨rfl, -⟩ := List.cons.inj heq
      exact absurd rfl hl.2.2
    | escape hmem _ =>
      simp only [List.cons_append, List.cons.injEq, true_and] at heq
      exact absurd heq.1 (escapes_spec _ hmem).1
    | @unicode c' d' b' v' _ _ hrest =>
      simp only [List.cons_append, List.nil_append, List.cons.injEq, true_and] at heq
      obtain ⟨rfl, rfl, heq⟩ := heq
      exact ⟨b', v', by rw [(hexDigit_control hc).2.2], hrest, heq⟩
  · rw [hescape] at heq
    cases h with
    | nil =>
      obtain ⟨rfl, -⟩ := List.cons.inj heq
      exact absurd rfl hliteral.2.1
    | @literal c' b' v' _ hrest =>
      obtain ⟨rfl, htail⟩ := List.cons.inj heq
      exact ⟨b', v', rfl, hrest, htail⟩
    | escape _ _ =>
      obtain ⟨rfl, -⟩ := List.cons.inj heq
      exact absurd rfl hliteral.2.2
    | unicode _ _ _ =>
      obtain ⟨rfl, -⟩ := List.cons.inj heq
      exact absurd rfl hliteral.2.2

theorem chars_flatMap_append (h : Chars b v) (heq : b ++ 34 :: u = s.flatMap escape ++ r) :
    ∃ b' v', v = s ++ v' ∧ Chars b' v' ∧ b' ++ 34 :: u = r := by
  induction s generalizing b v with
  | nil => exact ⟨b, v, rfl, h, heq⟩
  | cons c s ih =>
    rw [List.flatMap_cons, List.append_assoc] at heq
    obtain ⟨b₁, v₁, rfl, h₁, heq₁⟩ := chars_escape_append h heq
    obtain ⟨b', v', rfl, h', heq'⟩ := ih h₁ heq₁
    exact ⟨b', v', rfl, h', heq'⟩

theorem inner_of_isLiteral {w : Str} (h : IsLiteral w) : w ≠ [] ∧ ∀ c ∈ w, Inner c := by
  have hdigits : ∀ {f : Str}, Digits f → ∀ c ∈ f, Inner c := fun hf c hc => inner_of_isdigit (hf.2 c hc)
  rcases h with hword | ⟨minus, whole, fraction, exponent, rfl, hminus, ⟨hwhole, -⟩, hfraction, hexponent⟩
  · have hwords : words = [[110, 117, 108, 108], [116, 114, 117, 101], [102, 97, 108, 115, 101]] := by
      rw [words, CString.lit_ofList, CString.lit_ofList, CString.lit_ofList]
      rfl
    have hall : ∀ w ∈ words, w.isEmpty = false ∧ w.all (fun c => Inner c) = true := by
      rw [hwords]
      simp only [List.forall_mem_cons, List.not_mem_nil, false_imp_iff, implies_true, and_true]
      decide
    obtain ⟨hne, hinner⟩ := hall w hword
    exact ⟨List.isEmpty_eq_false_iff.1 hne, by simpa using hinner⟩
  · refine ⟨by simp [hwhole.1], fun c hc => ?_⟩
    simp only [List.mem_append, or_assoc] at hc
    rcases hc with hc | hc | hc | hc
    · rcases hminus with rfl | rfl
      · cases hc
      · obtain rfl := List.mem_singleton.1 hc
        decide
    · exact hdigits hwhole c hc
    · rcases hfraction with rfl | ⟨f, hf, rfl⟩
      · cases hc
      · rcases List.mem_cons.1 hc with rfl | hc
        · decide
        · exact hdigits hf c hc
    · rcases hexponent with rfl | ⟨e, he, sign, hsign, f, hf, rfl⟩
      · cases hc
      · rcases List.mem_cons.1 hc with rfl | hc
        · simp only [List.mem_cons, List.not_mem_nil, or_false] at he
          rcases he with rfl | rfl <;> decide
        · rcases List.mem_append.1 hc with hc | hc
          · simp only [List.mem_cons, List.not_mem_nil, or_false] at hsign
            rcases hsign with rfl | rfl | rfl
            · cases hc
            · obtain rfl := List.mem_singleton.1 hc
              decide
            · obtain rfl := List.mem_singleton.1 hc
              decide
          · exact hdigits hf c hc

/-! ### Tokens -/

variable {x : Token} {ts : List Token}

theorem not_mem_marks (h : c ∈ spaces) : c ∉ marks := by
  simp only [spaces, List.mem_cons, List.not_mem_nil, or_false] at h
  rcases h with rfl | rfl | rfl | rfl <;> decide

theorem tokens_mark (hc : c ∈ marks) : Tokens (c :: t) (.mark c :: ts) ↔ Tokens t ts := by
  constructor
  · intro h
    generalize htext : c :: t = text at h
    generalize hts : Token.mark c :: ts = l at h
    cases h with
    | nil => cases htext
    | space hspace _ =>
      obtain ⟨rfl, -⟩ := List.cons.inj htext
      exact absurd hc (not_mem_marks hspace)
    | mark _ h =>
      obtain ⟨-, rfl⟩ := List.cons.inj htext
      obtain ⟨-, rfl⟩ := List.cons.inj hts
      exact h
    | string _ _ => cases hts
    | literal _ _ _ => cases hts
  · exact .mark hc

/-- What starts with a quote is a string. -/
theorem tokens_quote (h : Tokens (34 :: t) (x :: ts)) :
    ∃ b v t', x = .string v ∧ Chars b v ∧ t = b ++ 34 :: t' ∧ Tokens t' ts := by
  generalize htext : 34 :: t = text at h
  generalize hts : x :: ts = l at h
  cases h with
  | nil => cases htext
  | space hspace _ =>
    obtain ⟨rfl, -⟩ := List.cons.inj htext
    exact absurd hspace (by decide)
  | mark hmark _ =>
    obtain ⟨rfl, -⟩ := List.cons.inj htext
    exact absurd hmark (by decide)
  | string hchars h =>
    obtain ⟨rfl, rfl⟩ := List.cons.inj hts
    exact ⟨_, _, _, rfl, hchars, (List.cons.inj htext).2, h⟩
  | literal hliteral _ _ =>
    obtain ⟨hne, hinner⟩ := inner_of_isLiteral hliteral
    obtain ⟨c, w, rfl⟩ := List.exists_cons_of_ne_nil hne
    obtain ⟨rfl, -⟩ := List.cons.inj htext
    exact absurd rfl (hinner 34 List.mem_cons_self).2.1

theorem tokens_quoted : Tokens (quoted s ++ t) (x :: ts) ↔ x = .string s ∧ Tokens t ts := by
  constructor
  · intro h
    rw [quoted, List.cons_append, List.cons_append] at h
    obtain ⟨b, v, t', rfl, hchars, heq, htokens⟩ := tokens_quote h
    rw [List.append_assoc] at heq
    obtain ⟨b', v', rfl, hchars', heq'⟩ := chars_flatMap_append hchars heq.symm
    cases hchars' with
    | nil =>
      obtain ⟨-, rfl⟩ := List.cons.inj heq'
      exact ⟨by rw [List.append_nil], htokens⟩
    | literal hl _ =>
      obtain ⟨rfl, -⟩ := List.cons.inj heq'
      exact absurd rfl hl.2.1
    | escape _ _ => simp at heq'
    | unicode _ _ _ => simp at heq'
  · rintro ⟨rfl, h⟩
    have hstring := Tokens.string (chars_escape s) h
    rwa [quoted, List.cons_append, List.cons_append, List.append_assoc]

theorem takeWhile_inner (hs : ∀ c ∈ s, Inner c) (ht : Ends t) : (s ++ t).takeWhile (fun c => Inner c) = s := by
  rw [List.takeWhile_append_of_pos fun c hc => decide_eq_true (hs c hc)]
  rcases t with _ | ⟨c, t⟩
  · simp
  · have hc : ¬ Inner c := fun hinner => (ht c rfl).elim hinner.2.2.2.1 hinner.2.2.2.2
    rw [List.takeWhile_cons_of_neg (by simpa using hc), List.append_nil]

theorem tokens_inner (hne : s ≠ []) (hs : ∀ c ∈ s, Inner c) (ht : Ends t) :
    Tokens (s ++ t) (x :: ts) ↔ x = .literal s ∧ IsLiteral s ∧ Tokens t ts := by
  obtain ⟨c, s', rfl⟩ := List.exists_cons_of_ne_nil hne
  have hc := hs c List.mem_cons_self
  constructor
  · intro h
    generalize htext : c :: s' ++ t = text at h
    generalize hts : x :: ts = l at h
    cases h with
    | nil => cases htext
    | space hspace _ =>
      obtain ⟨rfl, -⟩ := List.cons.inj htext
      exact absurd hspace hc.2.2.2.2
    | mark hmark _ =>
      obtain ⟨rfl, -⟩ := List.cons.inj htext
      exact absurd hmark hc.2.2.2.1
    | string _ _ =>
      obtain ⟨rfl, -⟩ := List.cons.inj htext
      exact absurd rfl hc.2.1
    | @literal w t' _ hliteral hends h =>
      obtain ⟨rfl, rfl⟩ := List.cons.inj hts
      have htake := congrArg (List.takeWhile fun c => decide (Inner c)) htext
      rw [takeWhile_inner hs ht, takeWhile_inner (inner_of_isLiteral hliteral).2 hends] at htake
      subst htake
      obtain rfl := List.append_cancel_left htext
      exact ⟨rfl, hliteral, h⟩
  · rintro ⟨rfl, hliteral, h⟩
    exact .literal hliteral ht h

end PropertyTree
