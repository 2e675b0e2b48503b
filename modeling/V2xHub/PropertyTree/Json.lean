import V2xHub.Lib.CString
import Mathlib.Data.List.Basic

/-!
# Property trees and the JSON that they write

`boost::property_tree::ptree`, as far as it is looked into: the paths are single names, and what throws `ptree_bad_path` is
`none`. The texts of `write_json` are without line breaks, as far as strings and arrays go.
-/

/-- A text and the named children in their order. -/
inductive Ptree where
  | node (data : Str) (children : List (Str × Ptree))

namespace Ptree

def data : Ptree → Str
  | node data _ => data

def children : Ptree → List (Str × Ptree)
  | node _ children => children

def empty : Ptree := node [] []

/-- `empty()`: there are no children. -/
def isEmpty (pt : Ptree) : Bool := pt.children.isEmpty

/-- The first child with the name. -/
def get_child (key : String) (pt : Ptree) : Option Ptree :=
  (pt.children.find? fun child => child.1 = CString.lit key).map Prod.snd

/-- `get<std::string>` -/
def get (key : String) (pt : Ptree) : Option Str := (pt.get_child key).map data

end Ptree

namespace PropertyTree

/-- A hexadecimal digit. -/
def hexDigit (n : UInt8) : UInt8 := if n < 10 then 48 + n else 55 + n

/-- What a character of a string is written as. -/
def escape (c : UInt8) : Str :=
  if c = 8 then [92, 98]
  else if c = 12 then [92, 102]
  else if c = 10 then [92, 110]
  else if c = 13 then [92, 114]
  else if c = 9 then [92, 116]
  else if c = 47 then [92, 47]
  else if c = 34 then [92, 34]
  else if c = 92 then [92, 92]
  else if c < 32 then [92, 117, 48, 48, hexDigit (c / 16), hexDigit (c % 16)]
  else [c]

/-- A string in quotes. -/
def quoted (s : Str) : Str := 34 :: s.flatMap escape ++ [34]

/-- The items with a comma in between. -/
def commas (items : List Str) : Str := List.intercalate [44] items

variable {s : Str} {items items' : List Str}

/-- A character that is written as it is. -/
def Plain (c : UInt8) : Prop := escape c = [c]

instance (c : UInt8) : Decidable (Plain c) := inferInstanceAs (Decidable (_ = _))

theorem not_plain_quote : ¬ Plain 34 := by decide

theorem flatMap_plain (h : ∀ c ∈ s, Plain c) : s.flatMap escape = s := by
  induction s with
  | nil => rfl
  | cons c s ih =>
    obtain ⟨hc, hs⟩ := List.forall_mem_cons.1 h
    rw [List.flatMap_cons, ih hs, hc]
    rfl

theorem commas_singleton (item : Str) : commas [item] = item := List.intercalate_singleton

theorem commas_cons_cons (item item' : Str) (items : List Str) :
    commas (item :: item' :: items) = item ++ [44] ++ commas (item' :: items) := List.intercalate_cons_cons

theorem commas_append (hitems : items ≠ []) (hitems' : items' ≠ []) :
    commas (items ++ items') = commas items ++ [44] ++ commas items' := by
  induction items with
  | nil => exact absurd rfl hitems
  | cons item items ih =>
    cases items with
    | nil =>
      cases items' with
      | nil => exact absurd rfl hitems'
      | cons item' items' => rw [List.singleton_append, commas_cons_cons, commas_singleton]
    | cons item' items =>
      have hrest := ih (List.cons_ne_nil _ _)
      rw [List.cons_append] at hrest
      rw [List.cons_append, List.cons_append, commas_cons_cons, hrest, commas_cons_cons]
      simp only [List.append_assoc]

theorem commas_concat (hitems : items ≠ []) (item : Str) : commas (items ++ [item]) = commas items ++ [44] ++ item := by
  rw [commas_append hitems (List.cons_ne_nil _ _), commas_singleton]

/-- An append with a comma where there is something already. -/
theorem commas_join (hitems' : items' ≠ []) (hne : ∀ item ∈ items, item ≠ []) : commas (items ++ items') =
    (if commas items ≠ [] then commas items ++ [44] else commas items) ++ commas items' := by
  cases items with
  | nil => rfl
  | cons item rest =>
    have hnonempty : commas (item :: rest) ≠ [] := by
      have hitem := hne item List.mem_cons_self
      cases rest with
      | nil => rwa [commas_singleton]
      | cons item' rest =>
        rw [commas_cons_cons]
        simp [hitem]
    rw [if_pos hnonempty, commas_append (List.cons_ne_nil _ _) hitems']

/-! ### The ends of a text -/

theorem dropWhile_ne_append {c : UInt8} {s t : Str} (h : c ∉ s) : (s ++ c :: t).dropWhile (· ≠ c) = c :: t := by
  have hs : ∀ d ∈ s, decide (d ≠ c) = true := fun d hd => decide_eq_true (ne_of_mem_of_not_mem hd h)
  rw [List.dropWhile_append_of_pos hs, List.dropWhile_cons_of_neg (by simp)]

theorem takeWhile_ne_append {c : UInt8} {s t : Str} (h : c ∉ s) : (s ++ c :: t).takeWhile (· ≠ c) = s := by
  have hs : ∀ d ∈ s, decide (d ≠ c) = true := fun d hd => decide_eq_true (ne_of_mem_of_not_mem hd h)
  rw [List.takeWhile_append_of_pos hs, List.takeWhile_cons_of_neg (by simp), List.append_nil]

end PropertyTree
