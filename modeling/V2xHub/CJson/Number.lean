import V2xHub.CJson.Basic
import V2xHub.Lib.Printf

/-!
# Numbers of cJSON

`print_number` and `parse_number`: the number goes through a double both ways. An integer below `2 ^ 53`
comes back as it was, whichever of the formats it is printed with (`parseNumber_printNumber`).
-/

namespace V2xHub

/-- What is taken from the C library: `pow(10.0, k)`, and what `malloc` leaves in a fresh
`IvpDsrcMetadata` (its `channel` and its `psid`). -/
structure Libc where
  pow10 : Int → Double
  pow10_zero : pow10 0 = .finite 1
  channel : Int
  psid : Int

/-- A library that rounds the power correctly and leaves zeros. -/
def Libc.rounding : Libc where
  pow10 k := .ofRat (10 ^ k)
  pow10_zero := by decide +kernel
  channel := 0
  psid := 0

namespace CJson

/-- `cJSON_CreateNumber`. -/
def createNumber (num : Double) : CJson := number (num.add (.finite (1 / 2))).toInt64 num

/-! ### Printing -/

def DBL_EPSILON : Double := .finite (1 / 2 ^ 52)
def INT_MAX : Double := .finite (2 ^ 31 - 1)
def INT_MIN : Double := .finite (-2 ^ 31)

def printNumber (valueint : Int) (d : Double) : Str :=
  if ((Double.ofInt valueint).sub d).abs.le DBL_EPSILON && d.le INT_MAX && INT_MIN.le d then Printf.lld valueint
  else if (d.floor.sub d).abs.le DBL_EPSILON && d.abs.lt (.finite (10 ^ 60)) then Printf.fixed0 d
  else if d.abs.lt (.finite (1 / 10 ^ 6)) || Double.lt (.finite (10 ^ 9)) d.abs then Printf.scientific6 d
  else Printf.fixed6 d

/-! ### Parsing -/

def isDigit (c : UInt8) : Bool := 48 ≤ c.toNat && c.toNat ≤ 57

/-- `n=(n*10.0)+(*num++ -'0')` while there are digits. -/
def parseDigits (n : Double) : Str → Double × Str
  | [] => (n, [])
  | c :: num =>
    if isDigit c then parseDigits ((n.mul (.finite 10)).add (.finite (c.toNat - 48 : Nat))) num else (n, c :: num)

/-- The same behind a `'.'`, with `scale--`. -/
def parseFraction (n : Double) (scale : Int) : Str → Double × Int × Str
  | [] => (n, scale, [])
  | c :: num =>
    if isDigit c then parseFraction ((n.mul (.finite 10)).add (.finite (c.toNat - 48 : Nat))) (scale - 1) num
    else (n, scale, c :: num)

/-- `subscale=(subscale*10)+(*num++ - '0')` while there are digits. -/
def parseSubscale (subscale : Int) : Str → Int × Str
  | [] => (subscale, [])
  | c :: num => if isDigit c then parseSubscale (subscale * 10 + (c.toNat - 48 : Nat)) num else (subscale, c :: num)

/-- The exponent, with its sign. -/
def parseExponent (num : Str) : Int × Str :=
  if num.head? = some 43 then parseSubscale 0 num.tail
  else if num.head? = some 45 then ((parseSubscale 0 num.tail).1 * -1, (parseSubscale 0 num.tail).2)
  else parseSubscale 0 num

def parseNumber (libc : Libc) (num : Str) : CJson × Str :=
  let (sign, num) := if num.head? = some 45 then (Double.finite (-1), num.tail) else (Double.finite 1, num)
  let num := num.dropWhile (· = 48)
  let (n, num) := if num.head?.any (fun c => 49 ≤ c.toNat && c.toNat ≤ 57) then parseDigits (.finite 0) num
    else (.finite 0, num)
  let (n, scale, num) := if num.head? = some 46 then parseFraction n 0 num.tail else (n, 0, num)
  let (exponent, num) := if num.head? = some 101 ∨ num.head? = some 69 then parseExponent num.tail else (0, num)
  let n := (sign.mul n).mul (libc.pow10 (scale + exponent))
  (number n.toInt64 n, num)

/-! ### Integers -/

variable {libc : Libc} {n : Int} {t : Str}

/-- `valuedouble` is the integer `n`, and `valueint` is what a constructor makes of it or the parser. -/
def IsInt (n : Int) (valueint : Int) (valuedouble : Double) : Prop :=
  |n| < 2 ^ 53 ∧ valuedouble = .finite n ∧ (|n| ≤ 2 ^ 31 → valueint = n ∨ valueint = n + 1)

theorem isInt_createNumber (h : |n| < 2 ^ 53) :
    ∃ v, createNumber (Double.ofInt n) = number v (.finite n) ∧ IsInt n v (.finite n) := by
  refine ⟨_, by rw [createNumber, Double.ofInt_eq h], h, rfl, fun hsmall => ?_⟩
  rw [Double.toInt64_add_half hsmall]
  split_ifs
  · exact Or.inr rfl
  · exact Or.inl rfl

theorem lld_of_close {v : Int} (hn : |n| ≤ 2 ^ 31) (hv : v = n ∨ v = n + 1)
    (h : ((Double.ofInt v).sub (.finite n)).abs.le DBL_EPSILON) : v = n := by
  obtain ⟨hlower, hupper⟩ := abs_le.1 hn
  have hv' : |v| < 2 ^ 53 := abs_lt.2 ⟨by omega, by omega⟩
  have hsub : |v - n| < 2 ^ 53 := abs_lt.2 ⟨by omega, by omega⟩
  rw [Double.ofInt_eq hv', Double.sub_intCast hsub] at h
  have hle : |((v - n : ℤ) : ℚ)| ≤ 1 / 2 ^ 52 := of_decide_eq_true h
  rcases hv with rfl | rfl
  · rfl
  · exfalso
    rw [add_sub_cancel_left, Int.cast_one, abs_one] at hle
    exact absurd hle (by norm_num)

theorem printNumber_of_isInt {v : Int} {d : Double} (h : IsInt n v d) : printNumber v d = Printf.lld n := by
  obtain ⟨hn, rfl, hv⟩ := h
  unfold printNumber
  split_ifs with hint hwhole hbig
  · simp only [Bool.and_eq_true] at hint
    obtain ⟨⟨hclose, hmax⟩, hmin⟩ := hint
    have hmax' : (n : ℚ) ≤ 2 ^ 31 - 1 := of_decide_eq_true hmax
    have hmin' : (-2 ^ 31 : ℚ) ≤ n := of_decide_eq_true hmin
    have hrange : |n| ≤ 2 ^ 31 := by
      refine abs_le.2 ⟨by exact_mod_cast hmin', ?_⟩
      have hle : n ≤ 2 ^ 31 - 1 := by exact_mod_cast hmax'
      omega
    rw [lld_of_close hrange (hv hrange) hclose]
  · exact Printf.fixed0_intCast n
  all_goals
    -- a whole number is printed with one of the first two formats
    refine absurd ?_ hwhole
    have hfloor : (Double.floor (.finite n)).sub (.finite n) = .finite ((0 : ℤ) : ℚ) := by
      rw [Double.floor, Int.floor_intCast, Double.sub_intCast (by rw [sub_self, abs_zero]; norm_num), sub_self]
    have hsmall : |(n : ℚ)| < 10 ^ 60 := by
      rw [← Int.cast_abs]
      calc ((|n| : ℤ) : ℚ) < ((2 ^ 53 : ℤ) : ℚ) := Int.cast_lt.2 hn
        _ ≤ 10 ^ 60 := by norm_num
    rw [hfloor, Bool.and_eq_true]
    exact ⟨by decide +kernel, decide_eq_true hsmall⟩

/-- Nothing that continues a number. -/
def Delimited (t : Str) : Prop := ∀ c ∈ t.head?, isDigit c = Bool.false ∧ c ≠ 46 ∧ c ≠ 101 ∧ c ≠ 69

theorem Delimited.parseDigits (h : Delimited t) (d : Double) : parseDigits d t = (d, t) := by
  cases t with
  | nil => rfl
  | cons c t => rw [CJson.parseDigits, (h c rfl).1, if_neg Bool.false_ne_true]

theorem parseDigits_digit {q d : Nat} (hd : d < 10) (h : 10 * q + d < 2 ^ 53) :
    parseDigits (.finite q) (Printf.digit d :: t) = parseDigits (.finite ((10 * q + d : Nat) : ℚ)) t := by
  have htoNat := Printf.toNat_digit hd
  have hdigit : isDigit (Printf.digit d) = Bool.true := by
    rw [isDigit, htoNat, Bool.and_eq_true, decide_eq_true_eq, decide_eq_true_eq]
    omega
  have hmul : (Double.finite q).mul (.finite 10) = .finite ((q * 10 : ℤ) : ℚ) :=
    Double.mul_intCast (a := q) (b := 10) (abs_lt.2 ⟨by omega, by omega⟩)
  have hadd : (Double.finite ((q * 10 : ℤ) : ℚ)).add (.finite d) = .finite (((q * 10 + d : ℤ)) : ℚ) :=
    Double.add_intCast (a := q * 10) (b := d) (abs_lt.2 ⟨by omega, by omega⟩)
  rw [parseDigits, if_pos hdigit, htoNat, Nat.add_sub_cancel_left, hmul, hadd]
  congr 2
  push_cast
  ring

/-- The digits of a number, read from the first to the last. -/
theorem parseDigits_decimal {n : Nat} (h : n < 2 ^ 53) :
    parseDigits (.finite 0) (Printf.decimal n ++ t) = parseDigits (.finite n) t := by
  induction n using Nat.strong_induction_on generalizing t with
  | _ n ih =>
    rcases Nat.lt_or_ge n 10 with hlt | hle
    · rw [Printf.decimal_of_lt hlt, List.singleton_append]
      simpa using parseDigits_digit (q := 0) (t := t) hlt (by omega)
    · rw [Printf.decimal_of_le hle, List.append_assoc, List.singleton_append, ih (n / 10) (by omega) (by omega),
        parseDigits_digit (by omega) (by omega)]
      congr 3
      omega

theorem head?_decimal_append {n : Nat} : ∃ c, (Printf.decimal n ++ t).head? = some c ∧ 48 ≤ c.toNat := by
  cases hd : Printf.decimal n with
  | nil =>
    rcases eq_or_ne n 0 with rfl | hne
    · nomatch hd
    · obtain ⟨c, cs, hcs, -⟩ := Printf.decimal_eq_cons hne
      rw [hcs] at hd
      nomatch hd
  | cons c cs => exact ⟨c, rfl, (Printf.mem_decimal (hd ▸ List.mem_cons_self ..)).1⟩

/-- The digits behind the sign, with the zeros skipped. -/
theorem parse_natAbs (h : |n| < 2 ^ 53) (ht : Delimited t) :
    let num := (Printf.decimal n.natAbs ++ t).dropWhile (· = 48)
    (if num.head?.any (fun c => 49 ≤ c.toNat && c.toNat ≤ 57) then parseDigits (.finite 0) num
      else (.finite 0, num)) = (.finite n.natAbs, t) := by
  have hlt : n.natAbs < 2 ^ 53 := by
    rw [Int.abs_eq_natAbs] at h
    omega
  rcases eq_or_ne n.natAbs 0 with h0 | hne
  · have hdrop : t.dropWhile (· = 48) = t := by
      cases t with
      | nil => rfl
      | cons c t =>
        refine List.dropWhile_cons_of_neg ?_
        rw [decide_eq_true_iff]
        rintro rfl
        exact Bool.noConfusion (ht 48 rfl).1
    have hany : t.head?.any (fun c => 49 ≤ c.toNat && c.toNat ≤ 57) = Bool.false := by
      cases t with
      | nil => rfl
      | cons c t =>
        have := (ht c rfl).1
        simp only [isDigit, Bool.and_eq_false_iff, decide_eq_false_iff_not] at this
        simp only [List.head?_cons, Option.any_some, Bool.and_eq_false_iff, decide_eq_false_iff_not]
        omega
    rw [h0]
    have hzero : (Printf.decimal 0 ++ t).dropWhile (· = 48) = t := hdrop
    simp only [hzero, hany]
    rfl
  · obtain ⟨c, cs, hcs, hlower, hupper⟩ := Printf.decimal_eq_cons hne
    have hc : ¬ c = 48 := by
      rintro rfl
      exact absurd hlower (by decide)
    have hdrop : (Printf.decimal n.natAbs ++ t).dropWhile (· = 48) = Printf.decimal n.natAbs ++ t := by
      rw [hcs]
      exact List.dropWhile_cons_of_neg (by simpa using hc)
    have hany : (Printf.decimal n.natAbs ++ t).head?.any (fun c => 49 ≤ c.toNat && c.toNat ≤ 57) = Bool.true := by
      rw [hcs]
      simpa using ⟨hlower, hupper⟩
    simp only [hdrop, hany, if_true]
    rw [parseDigits_decimal hlt, ht.parseDigits]

/-- An integer that is printed with `%lld` is parsed as itself. -/
theorem parseNumber_lld (h : |n| < 2 ^ 53) (ht : Delimited t) :
    parseNumber libc (Printf.lld n ++ t) = (number n (.finite n), t) := by
  have habs : |(n.natAbs : ℤ)| < 2 ^ 53 := by rwa [Int.natCast_natAbs, abs_abs]
  have hdot : ¬ t.head? = some 46 := fun hc => (ht 46 hc).2.1 rfl
  have hexp : ¬ (t.head? = some 101 ∨ t.head? = some 69) :=
    fun hc => hc.elim (fun hc => (ht 101 hc).2.2.1 rfl) fun hc => (ht 69 hc).2.2.2 rfl
  have hone : ∀ m : Int, |m| < 2 ^ 53 → (Double.finite m).mul (.finite 1) = .finite m := fun m hm => by
    simpa using Double.mul_intCast (a := m) (b := 1) (by simpa using hm)
  have hdigits := parse_natAbs h ht
  dsimp only at hdigits
  unfold parseNumber
  rcases lt_or_ge n 0 with hneg | hpos
  · have hmul : (Double.finite (-1)).mul (.finite n.natAbs) = .finite n := by
      have := Double.mul_intCast (a := -1) (b := n.natAbs) (by rw [neg_one_mul, abs_neg]; exact habs)
      rw [show (-1 * (n.natAbs : ℤ)) = n by omega] at this
      simpa using this
    rw [Printf.lld, Printf.signOf, if_pos hneg]
    simp only [List.cons_append, List.nil_append, List.head?_cons, if_true, List.tail_cons, hdigits, hdot, hexp, if_false,
      hmul, add_zero, libc.pow10_zero, hone n h, Double.toInt64_intCast h]
  · have hmul : (Double.finite 1).mul (.finite n.natAbs) = .finite n := by
      have := Double.mul_intCast (a := 1) (b := n.natAbs) (by rwa [one_mul])
      rw [show (1 * (n.natAbs : ℤ)) = n by omega] at this
      simpa using this
    obtain ⟨c, hc, hle⟩ := head?_decimal_append (n := n.natAbs) (t := t)
    have hsign : ¬ (Printf.decimal n.natAbs ++ t).head? = some 45 := by
      rw [hc]
      rintro ⟨⟩
      exact absurd hle (by decide)
    rw [Printf.lld, Printf.signOf, if_neg (not_lt.2 hpos), List.nil_append]
    simp only [hsign, if_false, hdigits, hdot, hexp, hmul, add_zero, libc.pow10_zero, hone n h, Double.toInt64_intCast h]

theorem parseNumber_printNumber {v : Int} {d : Double} (h : IsInt n v d) (ht : Delimited t) :
    parseNumber libc (printNumber v d ++ t) = (number n (.finite n), t) := by
  rw [printNumber_of_isInt h, parseNumber_lld h.1 ht]

end CJson

end V2xHub
