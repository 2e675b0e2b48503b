import Mathlib.Data.List.DropRight
import Mathlib.Data.List.Basic

/-!
# Collations

A collation of single byte texts gives each byte a weight. Two texts are equal in it if their weights are, where blanks at
the end do not count; `LIKE` compares byte by byte, with the wildcards `_` and `%` and the escape `\`, and here blanks at the
end do count. `latin1_swedish_ci` is the collation of a column of character set latin1.
-/

/-- The weight of each byte, and its lower case. -/
structure Collation where
  weight : UInt8 → UInt8
  lower : UInt8 → UInt8

namespace Collation

/-- The key of a text in a unique index: two texts are equal if their keys are. -/
def key (col : Collation) (s : List UInt8) : List UInt8 := (s.map col.weight).rdropWhile (· = col.weight 32)

/-- `s > ''` for the text with the key `c`: behind the blanks at its start, the first weight is greater than that of a blank. -/
def afterEmpty (col : Collation) (c : List UInt8) : Bool :=
  match c.dropWhile (· = col.weight 32) with
  | [] => false
  | w :: _ => col.weight 32 < w

/-- The letters in both cases, and the accents of the other letters, are ignored: `Ü` is a `Y`, and `Å`, `Ä` and `Ö` follow
`Z`. -/
def latin1_swedish_ci : Collation where
  weight c :=
    if 97 ≤ c ∧ c ≤ 122 then c - 32
    else if c < 192 ∨ c = 215 ∨ c = 223 ∨ c = 247 ∨ c = 255 then c
    else
      match if 224 ≤ c then c - 32 else c with
      | 192 | 193 | 194 | 195 => 65
      | 196 | 198 => 92
      | 197 => 91
      | 199 => 67
      | 200 | 201 | 202 | 203 => 69
      | 204 | 205 | 206 | 207 => 73
      | 208 => 68
      | 209 => 78
      | 210 | 211 | 212 | 213 => 79
      | 214 => 93
      | 217 | 218 | 219 => 85
      | 220 | 221 => 89
        | d => d
  lower c := if 65 ≤ c ∧ c ≤ 90 ∨ 192 ≤ c ∧ c ≤ 222 ∧ c ≠ 215 then c + 32 else c

/-- `LIKE` for a pattern and a text: `%` is any text and `_` any byte, and `\` takes the byte behind it as it is. -/
def like (col : Collation) : List UInt8 → List UInt8 → Bool
  | [], s => s.isEmpty
  | 37 :: pattern, s => s.tails.any (col.like pattern)
  | 95 :: pattern, s =>
    match s with
    | [] => false
    | _ :: s => col.like pattern s
  | 92 :: c :: pattern, s =>
    match s with
    | [] => false
    | d :: s => col.weight c == col.weight d && col.like pattern s
  | c :: pattern, s =>
    match s with
    | [] => false
    | d :: s => col.weight c == col.weight d && col.like pattern s

variable {col : Collation}

@[simp] theorem key_nil : col.key [] = [] := rfl

@[simp] theorem afterEmpty_nil : col.afterEmpty [] = false := rfl

end Collation
