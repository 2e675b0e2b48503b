import V2xHub.Lib.CString
import V2xHub.Lib.Single

/-!
# Numbers at the start of a text

`atoi`, `std::stoi` and their like: white space, a sign, and the digits that follow. `std::stoi` throws
`std::invalid_argument` where there is no digit and `std::out_of_range` where the number does not fit.
-/

namespace Strtol

def isspace (c : UInt8) : Bool := c = 32 || (9 ≤ c && c ≤ 13)

def isdigit (c : UInt8) : Bool := 48 ≤ c && c ≤ 57

/-- The text behind a sign, and whether the sign is a minus. -/
def sign : Str → Bool × Str
  | 43 :: s => (false, s)
  | 45 :: s => (true, s)
  | s => (false, s)

/-- The number that the digits at the start stand for, if there are any. -/
def digits (s : Str) : Option Nat :=
  match s.takeWhile isdigit with
  | [] => none
  | ds => some (ds.foldl (fun n c => 10 * n + (c.toNat - 48)) 0)

/-- The number at the start of the text. -/
def number (s : Str) : Option Int :=
  let (negative, s) := sign (s.dropWhile isspace)
  (digits s).map fun n => if negative then -n else n

inductive Error where
  | invalid_argument
  | out_of_range
deriving DecidableEq

def bounded (low high : Int) (s : Str) : Except Error Int :=
  match number s with
  | none => .error .invalid_argument
  | some n => if low ≤ n ∧ n ≤ high then .ok n else .error .out_of_range

def stoi (s : Str) : Except Error Int := bounded (-2 ^ 31) (2 ^ 31 - 1) s

/-- The nearest `long` of 64 bits, as an `int`. -/
def atoi (s : Str) : Int := (max (-2 ^ 63) (min (2 ^ 63 - 1) ((number s).getD 0))).bmod (2 ^ 32)

/-! ### Any base -/

def digitValue (c : UInt8) : Nat :=
  if isdigit c then c.toNat - 48
  else if 97 ≤ c ∧ c ≤ 122 then c.toNat - 87
  else if 65 ≤ c ∧ c ≤ 90 then c.toNat - 55
  else 36

/-- The number that the digits of a base at the start stand for, 0 without any. -/
def digitsIn (base : Nat) (s : Str) : Nat :=
  (s.takeWhile fun c => digitValue c < base).foldl (fun n c => base * n + digitValue c) 0

/-- The base that a text announces, and the text behind the announcement. -/
def baseOf : Str → Nat × Str
  | 48 :: x :: d :: s => if (x = 120 ∨ x = 88) ∧ digitValue d < 16 then (16, d :: s) else (8, 48 :: x :: d :: s)
  | 48 :: s => (8, 48 :: s)
  | s => (10, s)

/-- `strtol` with base 0, where a `long` has 64 bits. -/
def strtol (s : Str) : Int :=
  let (negative, s) := sign (s.dropWhile isspace)
  let (base, s) := baseOf s
  let n : Int := digitsIn base s
  max (-2 ^ 63) (min (2 ^ 63 - 1) (if negative then -n else n))

end Strtol

/-! ### Floats

`std::stof`: white space, a sign, and a number in decimal or hexadecimal digits, `inf` or `nan`. It throws
`std::invalid_argument` where there is no number and `std::out_of_range` where the number overflows, or is below the normal
floats and not one of the others. -/

namespace Strtof
open Strtol

def isxdigit (c : UInt8) : Bool := isdigit c || (65 ≤ c && c ≤ 70) || (97 ≤ c && c ≤ 102)

def digitValue (c : UInt8) : Nat :=
  if isdigit c then c.toNat - 48 else (CString.tolower c).toNat - 87

/-- The digits at the start with at most one point among them: their value, and what follows. -/
def mantissa (base : Nat) (digit : UInt8 → Bool) (s : Str) : Option (ℚ × Str) :=
  let whole := s.takeWhile digit
  let rest := s.dropWhile digit
  let (fraction, rest) := match rest with
    | 46 :: t => (t.takeWhile digit, t.dropWhile digit)
    | _ => ([], rest)
  if whole = [] ∧ fraction = [] then none
  else some (((whole ++ fraction).foldl (fun n c => base * n + digitValue c) 0 : Nat) / (base : ℚ) ^ fraction.length, rest)

/-- The exponent behind the letter, 0 if there is none. -/
def exponentOf (letter : UInt8) : Str → Int
  | c :: s =>
    if CString.tolower c = letter then
      let (negative, s) := sign s
      ((digits s).map fun n => if negative then -(n : Int) else n).getD 0
    else 0
  | [] => 0

/-- Without a digit behind it, the `0` of `0x` is the number. -/
def finite? (s : Str) : Option ℚ :=
  match s with
  | 48 :: c :: t =>
    if CString.tolower c = 120 then
      match mantissa 16 isxdigit t with
      | some (m, rest) => some (m * 2 ^ exponentOf 112 rest)
      | none => some 0
    else (mantissa 10 isdigit s).map fun (m, rest) => m * 10 ^ exponentOf 101 rest
  | _ => (mantissa 10 isdigit s).map fun (m, rest) => m * 10 ^ exponentOf 101 rest

/-- The float nearest to `q`, if it is in range. -/
def inRange (q : ℚ) : Except Error Double :=
  if 2 ^ 128 ≤ |Single.round q| ∨ |q| < 2 ^ (-126 : ℤ) ∧ Single.round q ≠ q then .error .out_of_range
  else .ok (.finite (Single.round q))

def stof (s : Str) : Except Error Double :=
  let (negative, s) := sign (s.dropWhile isspace)
  let letters := (s.take 3).map CString.tolower
  if letters = CString.lit "inf" then .ok (.infinity negative)
  else if letters = CString.lit "nan" then .ok .nan
  else
    match finite? s with
    | none => .error .invalid_argument
    | some q => inRange (if negative then -q else q)

end Strtof
