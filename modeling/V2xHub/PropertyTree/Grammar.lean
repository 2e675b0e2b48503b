import V2xHub.PropertyTree.Json
import Mathlib.Data.List.Nodup

/-!
# The grammar of JSON

Values of strings, objects and arrays, the texts that stand for them, and the values in an object as a whole, each at its
path of names. `Member` is a text with a value in an object. The texts may have white space around a value.
-/

namespace PropertyTree

inductive Json where
  | str (s : Str)
  | obj (members : List (Str × Json))
  | arr (items : List Json)

/-- A character that stands for itself in a string. -/
def Literal (c : UInt8) : Prop := 32 ≤ c ∧ c ≠ 34 ∧ c ≠ 92

instance (c : UInt8) : Decidable (Literal c) := inferInstanceAs (Decidable (_ ∧ _))

/-- A text that is the same in quotes. -/
def Clean (s : Str) : Prop := ∀ c ∈ s, Literal c

instance (s : Str) : Decidable (Clean s) := List.decidableBAll Literal s

/-- The characters behind a backslash, and what they stand for. -/
def escapes : List (UInt8 × UInt8) :=
  [(34, 34), (92, 92), (47, 47), (98, 8), (102, 12), (110, 10), (114, 13), (116, 9)]

/-- The number of a hexadecimal digit. -/
def hexValue (c : UInt8) : UInt8 := if c < 58 then c - 48 else if c < 71 then c - 55 else c - 87

/-- What is between the quotes of a string. Of the characters that are written with their numbers only those of ASCII. -/
inductive Chars : Str → Str → Prop
  | nil : Chars [] []
  | literal {c t s} : Literal c → Chars t s → Chars (c :: t) (c :: s)
  | escape {c d t s} : (c, d) ∈ escapes → Chars t s → Chars (92 :: c :: t) (d :: s)
  | unicode {c d t s} : c ∈ [48, 49, 50, 51, 52, 53, 54, 55] → d ∈ CString.lit "0123456789ABCDEFabcdef" → Chars t s →
      Chars (92 :: 117 :: 48 :: 48 :: c :: d :: t) ((hexValue c * 16 + hexValue d) :: s)

/-- The text of a member of an object. -/
structure Member where
  keyText : Str
  key : Str
  valueText : Str
  value : Json

def Member.text (m : Member) : Str := 34 :: m.keyText ++ 34 :: 58 :: m.valueText

/-- The text stands for the value. -/
inductive Value : Str → Json → Prop
  | str {t s} : Chars t s → Value (34 :: t ++ [34]) (.str s)
  | obj (ms : List Member) : (∀ m ∈ ms, Chars m.keyText m.key) → (∀ m ∈ ms, Value m.valueText m.value) →
      Value (123 :: commas (ms.map Member.text) ++ [125]) (.obj (ms.map fun m => (m.key, m.value)))
  | arr (items : List (Str × Json)) : (∀ i ∈ items, Value i.1 i.2) →
      Value (91 :: commas (items.map Prod.fst) ++ [93]) (.arr (items.map Prod.snd))
  | before {c t j} : c ∈ [32, 9, 10, 13] → Value t j → Value (c :: t) j
  | behind {c t j} : c ∈ [32, 9, 10, 13] → Value t j → Value (t ++ [c]) j

/-- The texts of a member stand for its name and value. -/
structure Member.Valid (m : Member) : Prop where
  key : Chars m.keyText m.key
  value : Value m.valueText m.value

theorem value_members (ms : List Member) (h : ∀ m ∈ ms, m.Valid) :
    Value (123 :: commas (ms.map Member.text) ++ [125]) (.obj (ms.map fun m => (m.key, m.value))) :=
  .obj ms (fun m hm => (h m hm).key) fun m hm => (h m hm).value

/-! ### What is written -/

theorem Chars.of_clean {s : Str} (h : Clean s) : Chars s s := by
  induction s with
  | nil => exact .nil
  | cons c s ih =>
    obtain ⟨hc, hs⟩ := List.forall_mem_cons.1 h
    exact .literal hc (ih hs)

/-- A control character that has no letter is written with its number. -/
theorem escape_control {c : UInt8} (hc : c < 32) (hletter : ∀ e ∈ escapes, c ≠ e.2) :
    escape c = [92, 117, 48, 48, hexDigit (c / 16), hexDigit (c % 16)] := by
  simp only [escapes, List.forall_mem_cons] at hletter
  obtain ⟨hquote, hbackslash, hslash, hb, hf, hn, hr, ht, -⟩ := hletter
  rw [escape, if_neg hb, if_neg hf, if_neg hn, if_neg hr, if_neg ht, if_neg hslash, if_neg hquote, if_neg hbackslash,
    if_pos hc]

theorem escape_literal {c : UInt8} (hc : ¬ c < 32) (hletter : ∀ e ∈ escapes, c ≠ e.2) : escape c = [c] ∧ Literal c := by
  simp only [escapes, List.forall_mem_cons] at hletter
  obtain ⟨hquote, hbackslash, hslash, hb, hf, hn, hr, ht, -⟩ := hletter
  refine ⟨?_, UInt8.not_lt.1 hc, hquote, hbackslash⟩
  rw [escape, if_neg hb, if_neg hf, if_neg hn, if_neg hr, if_neg ht, if_neg hslash, if_neg hquote, if_neg hbackslash,
    if_neg hc]

theorem escape_letter : ∀ e ∈ escapes, escape e.2 = [92, e.1] := by
  simp only [escapes, List.forall_mem_cons, List.not_mem_nil, false_imp_iff, implies_true, and_true]
  decide

/-- The two digits of a control character. -/
theorem hexDigit_control {c : UInt8} (hc : c < 32) : hexDigit (c / 16) ∈ [48, 49, 50, 51, 52, 53, 54, 55] ∧
    hexDigit (c % 16) ∈ CString.lit "0123456789ABCDEFabcdef" ∧
    hexValue (hexDigit (c / 16)) * 16 + hexValue (hexDigit (c % 16)) = c := by
  have hall : ∀ n < 32, hexDigit (UInt8.ofNat n / 16) ∈ [48, 49, 50, 51, 52, 53, 54, 55] ∧
      hexDigit (UInt8.ofNat n % 16) ∈ CString.lit "0123456789ABCDEFabcdef" ∧
      hexValue (hexDigit (UInt8.ofNat n / 16)) * 16 + hexValue (hexDigit (UInt8.ofNat n % 16)) = UInt8.ofNat n := by
    decide +kernel
  have := hall c.toNat (UInt8.lt_iff_toNat_lt.1 hc)
  rwa [UInt8.ofNat_toNat] at this

theorem chars_escape (s : Str) : Chars (s.flatMap escape) s := by
  induction s with
  | nil => exact .nil
  | cons c s ih =>
    rw [List.flatMap_cons]
    by_cases hletter : ∃ e ∈ escapes, c = e.2
    · obtain ⟨e, he, rfl⟩ := hletter
      rw [escape_letter e he]
      exact .escape he ih
    · have hletter' : ∀ e ∈ escapes, c ≠ e.2 := fun e he h => hletter ⟨e, he, h⟩
      by_cases hc : c < 32
      · obtain ⟨hhigh, hlow, hvalue⟩ := hexDigit_control hc
        rw [escape_control hc hletter']
        have := Chars.unicode hhigh hlow ih
        rwa [hvalue] at this
      · obtain ⟨hescape, hliteral⟩ := escape_literal hc hletter'
        rw [hescape]
        exact .literal hliteral ih

theorem value_quoted (s : Str) : Value (quoted s) (.str s) := .str (chars_escape s)

/-! ### The values in an object -/

def Json.isStr (s : Str) : Json → Bool
  | .str s' => s' = s
  | _ => false

def Json.isNamed (name : Str) : Json → Bool
  | .obj members => members.any fun m => m.1 = CString.lit "name" && m.2.isStr name
  | _ => false

/-- What is under a name; in an array the item with the name. The last one counts. -/
def Json.get (j : Json) (key : Str) : Option Json :=
  match j with
  | .str _ => none
  | .obj members => (members.reverse.find? fun m => m.1 = key).map Prod.snd
  | .arr items => items.reverse.find? (Json.isNamed key)

/-- The string at a path. -/
def Json.leaf : Json → List Str → Option Str
  | .str s, [] => some s
  | _, [] => none
  | j, key :: path => (j.get key).bind fun i => i.leaf path

variable {members members' : List (Str × Json)} {path : List Str} {s : Str}

theorem leaf_str {s' : Str} : (Json.str s').leaf path = some s ↔ path = [] ∧ s' = s := by
  cases path with
  | nil => simp [Json.leaf]
  | cons key path => simp [Json.leaf, Json.get]

theorem find_key {key : Str} {j : Json} (hnodup : (members.map Prod.fst).Nodup) (h : (key, j) ∈ members) :
    members.find? (fun m => m.1 = key) = some (key, j) := by
  induction members with
  | nil => exact absurd h List.not_mem_nil
  | cons m members ih =>
    rw [List.map_cons, List.nodup_cons] at hnodup
    rcases List.mem_cons.1 h with rfl | h
    · exact List.find?_cons_of_pos (by simp)
    · have hne : m.1 ≠ key := fun hm => hnodup.1 (hm ▸ List.mem_map_of_mem h)
      rw [List.find?_cons_of_neg (by simpa using hne)]
      exact ih hnodup.2 h

theorem get_obj (hnodup : (members.map Prod.fst).Nodup) {key : Str} {j : Json} :
    (Json.obj members).get key = some j ↔ (key, j) ∈ members := by
  simp only [Json.get, Option.map_eq_some_iff]
  constructor
  · rintro ⟨⟨k, j'⟩, hfind, rfl⟩
    have hmem := List.mem_reverse.1 (List.mem_of_find?_eq_some hfind)
    have hk : k = key := by simpa using List.find?_some hfind
    exact hk ▸ hmem
  · intro hmem
    have hnodup' : (members.reverse.map Prod.fst).Nodup := by
      rw [List.map_reverse]
      exact List.nodup_reverse.2 hnodup
    exact ⟨(key, j), find_key hnodup' (List.mem_reverse.2 hmem), rfl⟩

theorem leaf_obj (hnodup : (members.map Prod.fst).Nodup) : (Json.obj members).leaf path = some s ↔
    ∃ key rest j, path = key :: rest ∧ (key, j) ∈ members ∧ j.leaf rest = some s := by
  cases path with
  | nil => simp [Json.leaf]
  | cons key rest =>
    simp only [Json.leaf, Option.bind_eq_some_iff, get_obj hnodup]
    constructor
    · rintro ⟨j, hmem, hj⟩
      exact ⟨key, rest, j, rfl, hmem, hj⟩
    · rintro ⟨key, rest, j, ⟨rfl, rfl⟩, hmem, hj⟩
      exact ⟨j, hmem, hj⟩

/-- The values of an object with a member for each entry. -/
theorem leaf_obj_map {α : Type} {entries : List (Str × α)} (member : Str × α → Json)
    (hnodup : (entries.map Prod.fst).Nodup) : (Json.obj (entries.map fun e => (e.1, member e))).leaf path = some s ↔
      ∃ e ∈ entries, ∃ rest, path = e.1 :: rest ∧ (member e).leaf rest = some s := by
  have hmembers : ((entries.map fun e => (e.1, member e)).map Prod.fst).Nodup := by
    rw [List.map_map]
    exact hnodup
  rw [leaf_obj hmembers]
  constructor
  · rintro ⟨key, rest, j, rfl, hmem, hleaf⟩
    obtain ⟨e, he, hej⟩ := List.mem_map.1 hmem
    obtain ⟨rfl, rfl⟩ := Prod.mk.inj hej
    exact ⟨e, he, rest, rfl, hleaf⟩
  · rintro ⟨e, he, rest, rfl, hleaf⟩
    exact ⟨e.1, rest, _, rfl, List.mem_map.2 ⟨e, he, rfl⟩, hleaf⟩

end PropertyTree
