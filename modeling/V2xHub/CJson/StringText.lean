import V2xHub.Lib.CString
import Mathlib.Tactic.Common

/-!
# Strings of cJSON

`print_string_ptr` and `parse_string`: every byte string without a NUL comes back as it was
(`parseString_printString`).
-/

namespace V2xHub.CJson

/-! ### Printing -/

/-- A digit of `%04x`. -/
def hexDigit (d : Nat) : UInt8 := UInt8.ofNat (if d < 10 then 48 + d else 87 + d)

/-- `"u%04x"`. -/
def printUnicode (token : Nat) : Str :=
  [117, hexDigit (token / 4096 % 16), hexDigit (token / 256 % 16), hexDigit (token / 16 % 16), hexDigit (token % 16)]

/-- A byte as it is printed in a string. -/
def escape (c : UInt8) : Str :=
  if 31 < c.toNat ∧ c ≠ 34 ∧ c ≠ 92 then [c]
  else if c = 92 then [92, 92]
  else if c = 34 then [92, 34]
  else if c = 8 then [92, 98]
  else if c = 12 then [92, 102]
  else if c = 10 then [92, 110]
  else if c = 13 then [92, 114]
  else if c = 9 then [92, 116]
  else 92 :: printUnicode c.toNat

/-- `print_string_ptr`. -/
def printString (str : Str) : Str := 34 :: str.flatMap escape ++ [34]

/-! ### Parsing -/

/-- The value of a hexadecimal digit. -/
def hexValue (c : UInt8) : Option Nat :=
  if 48 ≤ c.toNat ∧ c.toNat ≤ 57 then some (c.toNat - 48)
  else if 65 ≤ c.toNat ∧ c.toNat ≤ 70 then some (10 + c.toNat - 65)
  else if 97 ≤ c.toNat ∧ c.toNat ≤ 102 then some (10 + c.toNat - 97)
  else none

/-- `parse_hex4`: 0 where a digit is missing. -/
def parseHex4 : Str → Nat
  | a :: b :: c :: d :: _ =>
    match hexValue a, hexValue b, hexValue c, hexValue d with
    | some a, some b, some c, some d => ((a * 16 + b) * 16 + c) * 16 + d
    | _, _, _, _ => 0
  | _ => 0

/-- `(uc | 0x80) & 0xBF`, as a byte. -/
def trailByte (uc : Nat) : UInt8 := UInt8.ofNat ((uc ||| 0x80) &&& 0xBF)

/-- A code point in 1, 2, 3 or 4 bytes. -/
def utf8 (uc : Nat) : Str :=
  if uc < 0x80 then [UInt8.ofNat uc]
  else if uc < 0x800 then [UInt8.ofNat (uc / 64 ||| 0xC0), trailByte uc]
  else if uc < 0x10000 then [UInt8.ofNat (uc / 4096 ||| 0xE0), trailByte (uc / 64), trailByte uc]
  else [UInt8.ofNat (uc / 262144 ||| 0xF0), trailByte (uc / 4096), trailByte (uc / 64), trailByte uc]

/-- What follows `\u`: the bytes it stands for, and the text behind. An invalid code point stands for
nothing. -/
def unescapeUnicode (str : Str) : Str × Str :=
  let uc := parseHex4 str
  if 0xDC00 ≤ uc ∧ uc ≤ 0xDFFF ∨ uc = 0 then ([], str.drop 4)
  else if 0xD800 ≤ uc ∧ uc ≤ 0xDBFF then
    if (str.drop 4).take 2 ≠ [92, 117] then ([], str.drop 4)
    else
      let uc2 := parseHex4 (str.drop 6)
      if uc2 < 0xDC00 ∨ 0xDFFF < uc2 then ([], str.drop 10)
      else (utf8 (0x10000 + ((uc % 0x400) * 0x400 + uc2 % 0x400)), str.drop 10)
  else (utf8 uc, str.drop 4)

/-- What follows a backslash. Behind a backslash at the very end the parser would leave the text; here the
text ends. -/
def unescape : Str → Str × Str
  | [] => ([], [])
  | c :: str =>
    if c = 98 then ([8], str)
    else if c = 102 then ([12], str)
    else if c = 110 then ([10], str)
    else if c = 114 then ([13], str)
    else if c = 116 then ([9], str)
    else if c = 117 then unescapeUnicode str
    else ([c], str)

/-- The bytes up to the closing quote, or up to the end, and the text behind. -/
def parseChars : Nat → Str → Str × Str
  | 0, str => ([], str)
  | _ + 1, [] => ([], [])
  | fuel + 1, c :: str =>
    if c = 34 then ([], str)
    else if c = 92 then
      let (bytes, str) := unescape str
      (bytes ++ (parseChars fuel str).1, (parseChars fuel str).2)
    else (c :: (parseChars fuel str).1, (parseChars fuel str).2)

/-- `parse_string`. -/
def parseString : Str → Option (Str × Str)
  | [] => none
  | c :: str => if c = 34 then some (parseChars (str.length + 1) str) else none

/-! ### Round trip -/

theorem hexValue_hexDigit {d : Nat} (h : d < 16) : hexValue (hexDigit d) = some d := by
  have hall : ∀ d : Fin 16, hexValue (hexDigit d) = some d.val := by decide
  exact hall ⟨d, h⟩

theorem unescape_printUnicode {token : Nat} (h0 : token ≠ 0) (h : token < 0x80) (t : Str) :
    unescape (printUnicode token ++ t) = ([UInt8.ofNat token], t) := by
  have hhex : parseHex4 ((printUnicode token).tail ++ t) = token := by
    simp only [printUnicode, List.tail_cons, List.cons_append, List.nil_append, parseHex4]
    rw [hexValue_hexDigit (by omega), hexValue_hexDigit (by omega), hexValue_hexDigit (by omega),
      hexValue_hexDigit (by omega)]
    dsimp only
    omega
  have hunicode : unescapeUnicode ((printUnicode token).tail ++ t) = ([UInt8.ofNat token], t) := by
    unfold unescapeUnicode
    rw [hhex]
    dsimp only
    rw [if_neg (by omega), if_neg (by omega), utf8, if_pos h]
    rfl
  exact hunicode

/-- One byte of a string. -/
theorem parseChars_escape {c : UInt8} (hc : c ≠ 0) (fuel : Nat) (t : Str) :
    parseChars (fuel + 1) (escape c ++ t) = (c :: (parseChars fuel t).1, (parseChars fuel t).2) := by
  unfold escape
  split_ifs with hplain h92 h34 h8 h12 h10 h13 h9
  · rw [List.singleton_append, parseChars, if_neg hplain.2.1, if_neg hplain.2.2]
  · subst h92
    rfl
  · subst h34
    rfl
  · subst h8
    rfl
  · subst h12
    rfl
  · subst h10
    rfl
  · subst h13
    rfl
  · subst h9
    rfl
  · have hlt : c.toNat < 0x80 := by
      by_contra hge
      exact hplain ⟨by omega, h34, h92⟩
    have h0 : c.toNat ≠ 0 := fun h => hc (UInt8.toNat_inj.1 h)
    rw [List.cons_append, parseChars, if_neg (by decide), if_pos rfl, unescape_printUnicode h0 hlt, UInt8.ofNat_toNat]
    rfl

theorem parseChars_flatMap {s : Str} (hs : 0 ∉ s) {fuel : Nat} (hfuel : s.length < fuel) (t : Str) :
    parseChars fuel (s.flatMap escape ++ 34 :: t) = (s, t) := by
  induction s generalizing fuel with
  | nil =>
    obtain ⟨fuel, rfl⟩ := Nat.exists_eq_add_of_lt hfuel
    rw [List.length_nil, Nat.zero_add, List.flatMap_nil, List.nil_append, parseChars, if_pos rfl]
  | cons c s ih =>
    obtain ⟨hc, hs⟩ := not_or.1 (fun h => hs (List.mem_cons.2 h))
    obtain ⟨fuel, rfl⟩ : ∃ n, fuel = n + 1 := Nat.exists_eq_succ_of_ne_zero (by omega)
    rw [List.length_cons] at hfuel
    rw [List.flatMap_cons, List.append_assoc, parseChars_escape (Ne.symm hc), ih hs (by omega)]

theorem length_le_flatMap (s : Str) : s.length ≤ (s.flatMap escape).length := by
  have hone : ∀ c, 1 ≤ (escape c).length := by
    intro c
    unfold escape
    split_ifs <;> exact Nat.succ_le_succ (Nat.zero_le _)
  induction s with
  | nil => exact Nat.le_refl _
  | cons c s ih =>
    rw [List.flatMap_cons, List.length_append, List.length_cons]
    have := hone c
    omega

theorem parseString_printString {s : Str} (hs : 0 ∉ s) (t : Str) : parseString (printString s ++ t) = some (s, t) := by
  have hlen := length_le_flatMap s
  rw [printString, List.append_assoc, List.cons_append, parseString, if_pos rfl, List.singleton_append,
    parseChars_flatMap hs]
  rw [List.length_append]
  omega

/-- What is printed has no control bytes. -/
theorem printable_printString (s : Str) : CString.Printable (printString s) := by
  have hhex : ∀ d, d < 16 → 31 < (hexDigit d).toNat := by decide
  have hescape : ∀ c, CString.Printable (escape c) := by
    intro c
    unfold escape
    split_ifs with hplain
    · exact .cons hplain.1 CString.printable_nil
    iterate 7 decide
    exact .cons (by decide) (.cons (by decide) (.cons (hhex _ (by omega)) (.cons (hhex _ (by omega))
      (.cons (hhex _ (by omega)) (.cons (hhex _ (by omega)) CString.printable_nil)))))
  refine .append (.cons (by decide) fun c hc => ?_) (by decide)
  obtain ⟨b, -, hb⟩ := List.mem_flatMap.1 hc
  exact hescape b c hb

end V2xHub.CJson
