import Mathlib.Data.Int.Log
import Mathlib.Data.Rat.Floor
import Mathlib.Tactic.Linarith
import Mathlib.Tactic.Positivity
import Mathlib.Tactic.Ring

/-!
# Double precision numbers

`double` with its arithmetic: the exact result, rounded to 53 bits, half to even. There is one zero. On the
integers below `2 ^ 53` the arithmetic is exact (`Double.ofRat_intCast` and the lemmas after it).
-/

inductive Double where
  | finite (value : ℚ)
  | infinity (negative : Bool)
  | nan
deriving DecidableEq

namespace Double

/-- The nearest integer, of two the even one. -/
def roundHalfEven (q : ℚ) : Int :=
  if q - ⌊q⌋ < 1 / 2 ∨ (q - ⌊q⌋ = 1 / 2 ∧ ⌊q⌋ % 2 = 0) then ⌊q⌋ else ⌊q⌋ + 1

/-- The exponent of the last bit of a number of the size of `q`. -/
def exponent (q : ℚ) : Int := max (Int.log 2 |q| - 52) (-1074)

/-- The double nearest to `q`. -/
def ofRat (q : ℚ) : Double :=
  let r := roundHalfEven (q / 2 ^ exponent q) * (2 : ℚ) ^ exponent q
  if |r| < 2 ^ 1024 then .finite r else .infinity (r < 0)

def ofInt (n : Int) : Double := ofRat n

def neg : Double → Double
  | finite a => finite (-a)
  | infinity s => infinity !s
  | nan => nan

def add : Double → Double → Double
  | finite a, finite b => ofRat (a + b)
  | finite _, infinity s => infinity s
  | infinity s, finite _ => infinity s
  | infinity s, infinity t => if s = t then infinity s else nan
  | _, _ => nan

def sub (a b : Double) : Double := a.add b.neg

def mul : Double → Double → Double
  | finite a, finite b => ofRat (a * b)
  | finite a, infinity s => if a = 0 then nan else infinity (s != decide (a < 0))
  | infinity s, finite a => if a = 0 then nan else infinity (s != decide (a < 0))
  | infinity s, infinity t => infinity (s != t)
  | _, _ => nan

def div : Double → Double → Double
  | finite a, finite b =>
    if b ≠ 0 then ofRat (a / b) else if a = 0 then nan else infinity (a < 0)
  | finite _, infinity _ => finite 0
  | infinity s, finite b => infinity (s != decide (b < 0))
  | _, _ => nan

/-- `fabs`. -/
def abs : Double → Double
  | finite a => finite |a|
  | infinity _ => infinity false
  | nan => nan

def floor : Double → Double
  | finite a => finite ⌊a⌋
  | d => d

/-- `a <= b`: false where one of the two is not a number. -/
def le : Double → Double → Bool
  | finite a, finite b => a ≤ b
  | finite _, infinity s => !s
  | infinity s, finite _ => s
  | infinity s, infinity t => s || !t
  | _, _ => false

/-- `a < b`. -/
def lt : Double → Double → Bool
  | finite a, finite b => a < b
  | finite _, infinity s => !s
  | infinity s, finite _ => s
  | infinity s, infinity t => s && !t
  | _, _ => false

/-- `(int64_t)d`; what is out of range becomes the least integer, as the hardware has it. -/
def toInt64 : Double → Int
  | finite a =>
    let n := if a < 0 then ⌈a⌉ else ⌊a⌋
    if -2 ^ 63 ≤ n ∧ n < 2 ^ 63 then n else -2 ^ 63
  | _ => -2 ^ 63

/-! ### Integers -/

@[simp] theorem roundHalfEven_intCast (n : Int) : roundHalfEven n = n := by
  rw [roundHalfEven, Int.floor_intCast, sub_self, if_pos (Or.inl (by norm_num))]

theorem exponent_le {q : ℚ} {k : Nat} (hk : k ≤ 52) (h : |q| < 2 ^ (53 - k : ℤ)) : exponent q ≤ -k := by
  refine max_le ?_ (by omega)
  rcases eq_or_ne q 0 with rfl | hne
  · rw [abs_zero, Int.log_zero_right]
    omega
  · have hlt : |q| < ((2 : ℕ) : ℚ) ^ (53 - k : ℤ) := h
    have := (Int.lt_zpow_iff_log_lt (by norm_num) (abs_pos.2 hne)).1 hlt
    omega

/-- Whole numbers of `2 ^ -k` are doubles, up to 53 bits. -/
theorem ofRat_dyadic {m : Int} {k : Nat} (hk : k ≤ 52) (h : |m| < 2 ^ 53) : ofRat (m / 2 ^ k) = .finite (m / 2 ^ k) := by
  have hm : |(m : ℚ)| < 2 ^ 53 := by
    rw [← Int.cast_abs]
    exact_mod_cast h
  have hpos : (0 : ℚ) < 2 ^ k := by positivity
  have habs : |(m : ℚ) / 2 ^ k| = |(m : ℚ)| / 2 ^ k := by rw [abs_div, abs_of_pos hpos]
  have hexp : exponent ((m : ℚ) / 2 ^ k) ≤ -k := by
    refine exponent_le hk ?_
    rw [habs, zpow_sub₀ two_ne_zero, zpow_natCast]
    exact div_lt_div_of_pos_right hm hpos
  obtain ⟨j, hj⟩ := Int.eq_ofNat_of_zero_le (by omega : 0 ≤ -(k : ℤ) - exponent ((m : ℚ) / 2 ^ k))
  have hexp : exponent ((m : ℚ) / 2 ^ k) = -((k + j : ℕ) : ℤ) := by omega
  have hscaled : (m : ℚ) / 2 ^ k / 2 ^ exponent ((m : ℚ) / 2 ^ k) = ((m * 2 ^ j : ℤ) : ℚ) := by
    rw [hexp, zpow_neg, zpow_natCast, div_inv_eq_mul, pow_add, ← mul_assoc, div_mul_cancel₀ _ hpos.ne']
    push_cast
    rfl
  have hround : (roundHalfEven ((m : ℚ) / 2 ^ k / 2 ^ exponent ((m : ℚ) / 2 ^ k)) : ℚ) *
      2 ^ exponent ((m : ℚ) / 2 ^ k) = m / 2 ^ k := by
    rw [hscaled, roundHalfEven_intCast, ← hscaled, div_mul_cancel₀ _ (zpow_ne_zero _ two_ne_zero)]
  have hsmall : |(m : ℚ) / 2 ^ k| < 2 ^ 1024 := by
    rw [habs]
    calc |(m : ℚ)| / 2 ^ k ≤ |(m : ℚ)| := div_le_self (abs_nonneg _) (one_le_pow₀ (by norm_num))
      _ < 2 ^ 53 := hm
      _ ≤ 2 ^ 1024 := pow_le_pow_right₀ (by norm_num) (by norm_num)
  simp only [ofRat, hround, if_pos hsmall]

/-- Integers below `2 ^ 53` are doubles. -/
theorem ofRat_intCast {n : Int} (h : |n| < 2 ^ 53) : ofRat n = .finite n := by
  simpa using ofRat_dyadic (k := 0) (by omega) h

theorem ofInt_eq {n : Int} (h : |n| < 2 ^ 53) : ofInt n = .finite n := ofRat_intCast h

theorem add_intCast {a b : Int} (h : |a + b| < 2 ^ 53) : add (.finite a) (.finite b) = .finite ((a + b : Int) : ℚ) := by
  rw [add, ← Int.cast_add, ofRat_intCast h]

theorem sub_intCast {a b : Int} (h : |a - b| < 2 ^ 53) : sub (.finite a) (.finite b) = .finite ((a - b : Int) : ℚ) := by
  rw [sub, neg, add, ← sub_eq_add_neg, ← Int.cast_sub, ofRat_intCast h]

theorem mul_intCast {a b : Int} (h : |a * b| < 2 ^ 53) : mul (.finite a) (.finite b) = .finite ((a * b : Int) : ℚ) := by
  rw [mul, ← Int.cast_mul, ofRat_intCast h]

theorem toInt64_intCast {n : Int} (h : |n| < 2 ^ 53) : toInt64 (.finite n) = n := by
  obtain ⟨hlower, hupper⟩ := abs_lt.1 h
  rw [toInt64, Int.ceil_intCast, Int.floor_intCast, ite_self]
  exact if_pos ⟨by omega, by omega⟩

/-- `(int64_t)(n + 0.5)`: one more than a negative `n`. -/
theorem toInt64_add_half {n : Int} (h : |n| ≤ 2 ^ 31) :
    toInt64 (add (.finite n) (.finite (1 / 2))) = if n < 0 then n + 1 else n := by
  obtain ⟨hlower, hupper⟩ := abs_le.1 h
  have hhalf : (n : ℚ) + 1 / 2 = ((2 * n + 1 : ℤ) : ℚ) / 2 ^ 1 := by
    push_cast
    ring
  have hadd : add (.finite n) (.finite (1 / 2)) = .finite (n + 1 / 2) := by
    rw [add, hhalf]
    exact ofRat_dyadic (by omega) (abs_lt.2 ⟨by omega, by omega⟩)
  have hceil : ⌈(n : ℚ) + 1 / 2⌉ = n + 1 := by
    rw [Int.ceil_eq_iff]
    push_cast
    exact ⟨by linarith, by linarith⟩
  have hfloor : ⌊(n : ℚ) + 1 / 2⌋ = n := by
    rw [Int.floor_eq_iff]
    exact ⟨by linarith, by linarith⟩
  have hneg : (n : ℚ) + 1 / 2 < 0 ↔ n < 0 := by
    constructor
    · intro hlt
      have : (n : ℚ) < 0 := by linarith
      exact_mod_cast this
    · intro hlt
      have : (n : ℚ) ≤ -1 := by exact_mod_cast (by omega : n ≤ -1)
      linarith
  rw [hadd, toInt64, hceil, hfloor]
  simp only [hneg]
  refine if_pos ?_
  split_ifs
  · exact ⟨by omega, by omega⟩
  · exact ⟨by omega, by omega⟩

end Double
