import V2xHub.Lib.CString
import V2xHub.Lib.Double
import Mathlib.Data.Nat.Digits.Lemmas

/-!
# Formatted numbers

The conversions `%lld`, `%.0f`, `%f` and `%e` of `sprintf`, the last three rounding the exact value half to
even. Integers are written the same way by the first two (`Printf.fixed0_intCast`).
-/

namespace Printf

def digit (d : Nat) : UInt8 := UInt8.ofNat (48 + d)

def decimal (n : Nat) : Str := if n = 0 then [digit 0] else (Nat.digits 10 n).reverse.map digit

def signOf (negative : Prop) [Decidable negative] : Str := if negative then [45] else []

/-- `%lld`. -/
def lld (n : Int) : Str := signOf (n < 0) ++ decimal n.natAbs

/-- What is printed for a double that is not a number of digits. The sign of a `nan` is not kept. -/
def special : Double → Str
  | .infinity negative => signOf negative ++ CString.lit "inf"
  | _ => CString.lit "nan"

/-- `%.0f`. -/
def fixed0 : Double → Str
  | .finite q => signOf (q < 0) ++ decimal (Double.roundHalfEven |q|).toNat
  | d => special d

/-- Six digits, with leading zeros. -/
def sixDigits (n : Nat) : Str := List.replicate (6 - (decimal n).length) (digit 0) ++ decimal n

/-- `%f`. -/
def fixed6 : Double → Str
  | .finite q =>
    let m := (Double.roundHalfEven (|q| * 10 ^ 6)).toNat
    signOf (q < 0) ++ decimal (m / 10 ^ 6) ++ 46 :: sixDigits (m % 10 ^ 6)
  | d => special d

/-- `%e`, the exponent having two digits at least. -/
def scientific6 : Double → Str
  | .finite q =>
    let x := Int.log 10 |q|
    let m := (Double.roundHalfEven (|q| / 10 ^ (x - 6))).toNat
    let (m, x) := if m = 10 ^ 7 then (10 ^ 6, x + 1) else (m, x)
    signOf (q < 0) ++ decimal (m / 10 ^ 6) ++ 46 :: sixDigits (m % 10 ^ 6) ++
      101 :: (if x < 0 then 45 else 43) :: (if x.natAbs < 10 then [digit 0] else []) ++ decimal x.natAbs
  | d => special d

/-! ### Digits -/

theorem toNat_digit {d : Nat} (h : d < 10) : (digit d).toNat = 48 + d := by
  rw [digit, UInt8.toNat_ofNat']
  omega

theorem decimal_of_lt {d : Nat} (h : d < 10) : decimal d = [digit d] := by
  rw [decimal]
  split_ifs with h0
  · rw [h0]
  · rw [Nat.digits_of_lt 10 d h0 h]
    rfl

/-- The last digit comes last. -/
theorem decimal_of_le {n : Nat} (h : 10 ≤ n) : decimal n = decimal (n / 10) ++ [digit (n % 10)] := by
  have hn : n ≠ 0 := by omega
  have hq : n / 10 ≠ 0 := by omega
  rw [decimal, if_neg hn, decimal, if_neg hq, Nat.digits_def' (by omega) (by omega), List.reverse_cons,
    List.map_append]
  rfl

theorem mem_decimal {n : Nat} {c : UInt8} (h : c ∈ decimal n) : 48 ≤ c.toNat ∧ c.toNat ≤ 57 := by
  induction n using Nat.strong_induction_on with
  | _ n ih =>
    rcases Nat.lt_or_ge n 10 with hlt | hle
    · rw [decimal_of_lt hlt, List.mem_singleton] at h
      rw [h, toNat_digit hlt]
      omega
    · rw [decimal_of_le hle, List.mem_append, List.mem_singleton] at h
      rcases h with h | rfl
      · exact ih (n / 10) (by omega) h
      · rw [toNat_digit (by omega)]
        omega

/-- The first digit of a number other than zero is not zero. -/
theorem decimal_eq_cons {n : Nat} (h : n ≠ 0) : ∃ c cs, decimal n = c :: cs ∧ 49 ≤ c.toNat ∧ c.toNat ≤ 57 := by
  induction n using Nat.strong_induction_on with
  | _ n ih =>
    rcases Nat.lt_or_ge n 10 with hlt | hle
    · refine ⟨digit n, [], decimal_of_lt hlt, ?_⟩
      rw [toNat_digit hlt]
      omega
    · obtain ⟨c, cs, hcs, hc⟩ := ih (n / 10) (by omega) (by omega)
      exact ⟨c, cs ++ [digit (n % 10)], by rw [decimal_of_le hle, hcs, List.cons_append], hc⟩

theorem decimal_injective {n m : Nat} (h : decimal n = decimal m) : n = m := by
  have hlong : ∀ {a b : Nat}, a < 10 → 10 ≤ b → decimal a ≠ decimal b := by
    intro a b ha hb h
    have hlength := congrArg List.length h
    obtain ⟨c, cs, hcs, -⟩ := decimal_eq_cons (n := b / 10) (by omega)
    rw [decimal_of_lt ha, decimal_of_le hb, hcs] at hlength
    simp at hlength
  induction n using Nat.strong_induction_on generalizing m with
  | _ n ih =>
    rcases Nat.lt_or_ge n 10 with hn | hn
    · rcases Nat.lt_or_ge m 10 with hm | hm
      · rw [decimal_of_lt hn, decimal_of_lt hm] at h
        have hdigit := congrArg UInt8.toNat (List.cons.inj h).1
        rw [toNat_digit hn, toNat_digit hm] at hdigit
        omega
      · exact absurd h (hlong hn hm)
    · rcases Nat.lt_or_ge m 10 with hm | hm
      · exact absurd h.symm (hlong hm hn)
      · rw [decimal_of_le hn, decimal_of_le hm] at h
        obtain ⟨hrest, hlast⟩ := List.append_inj' h rfl
        have hdiv := ih (n / 10) (by omega) hrest
        have hdigit := congrArg UInt8.toNat (List.cons.inj hlast).1
        rw [toNat_digit (by omega), toNat_digit (by omega)] at hdigit
        omega

theorem lld_injective {n m : Int} (h : lld n = lld m) : n = m := by
  have hsign : ∀ {a b : Int}, a < 0 → 0 ≤ b → lld a ≠ lld b := by
    intro a b ha hb h
    rw [lld, signOf, if_pos ha, lld, signOf, if_neg (not_lt.2 hb), List.nil_append, List.singleton_append] at h
    have hmem : (45 : UInt8) ∈ decimal b.natAbs := h ▸ List.mem_cons_self ..
    exact absurd (mem_decimal hmem).1 (by decide)
  rcases lt_or_ge n 0 with hn | hn
  · rcases lt_or_ge m 0 with hm | hm
    · rw [lld, signOf, if_pos hn, lld, signOf, if_pos hm] at h
      have habs := decimal_injective (List.append_cancel_left h)
      omega
    · exact absurd h (hsign hn hm)
  · rcases lt_or_ge m 0 with hm | hm
    · exact absurd h.symm (hsign hm hn)
    · rw [lld, signOf, if_neg (not_lt.2 hn), lld, signOf, if_neg (not_lt.2 hm)] at h
      have habs := decimal_injective (List.append_cancel_left h)
      omega

/-- An integer is printed the same as a double. -/
theorem fixed0_intCast (n : Int) : fixed0 (.finite n) = lld n := by
  have hround : Double.roundHalfEven |(n : ℚ)| = |n| := by rw [← Int.cast_abs, Double.roundHalfEven_intCast]
  have hnat : |n|.toNat = n.natAbs := by rw [← Int.natCast_natAbs, Int.toNat_natCast]
  simp only [fixed0, lld, hround, hnat, signOf, Int.cast_lt_zero]

/-! ### No control bytes -/

open CString

variable {n : Nat} {d : Double}

theorem printable_signOf {negative : Prop} [Decidable negative] : Printable (signOf negative) := by
  rw [signOf]
  split_ifs
  · decide
  · exact printable_nil

theorem printable_decimal : Printable (decimal n) := by
  intro c hc
  have := mem_decimal hc
  omega

theorem printable_sixDigits : Printable (sixDigits n) := by
  refine Printable.append (fun c hc => ?_) printable_decimal
  rw [List.eq_of_mem_replicate hc]
  decide

theorem printable_special : Printable (special d) := by
  unfold special
  split
  · exact printable_signOf.append (by decide)
  · decide

theorem printable_lld {n : Int} : Printable (lld n) := printable_signOf.append printable_decimal

theorem printable_fixed0 : Printable (fixed0 d) := by
  unfold fixed0
  split
  · exact printable_signOf.append printable_decimal
  · exact printable_special

theorem printable_fixed6 : Printable (fixed6 d) := by
  unfold fixed6
  split
  · exact (printable_signOf.append printable_decimal).append (.cons (by decide) printable_sixDigits)
  · exact printable_special

theorem printable_scientific6 : Printable (scientific6 d) := by
  have hpad : ∀ n : Nat, Printable (if n < 10 then [digit 0] else []) := by
    intro n
    split_ifs
    · decide
    · exact printable_nil
  have hsign : ∀ x : Int, 31 < (if x < 0 then 45 else 43 : UInt8).toNat := by
    intro x
    split_ifs
    · decide
    · decide
  unfold scientific6
  split
  · exact (((printable_signOf.append printable_decimal).append (.cons (by decide) printable_sixDigits)).append
      (.cons (by decide) (.cons (hsign _) (hpad _)))).append printable_decimal
  · exact printable_special

end Printf
