import Mathlib.Algebra.Field.ZMod
import Mathlib.Algebra.Polynomial.Div
import Mathlib.Algebra.CharP.Two
import Mathlib.Data.BitVec
import Mathlib.Data.List.Induction

/-!
# Cyclic redundancy checks

The bits of a word are the coefficients of a polynomial over the field of two elements (`poly`), and so are those of a list of
words, the first one highest (`message`). A register of `w` bits that moves by one bit at a time, and takes in the lower part of
the generator where a bit leaves it, is the remainder by the generator (`poly_shift`); one that words enter at its upper end is
that of their message, times `X ^ w` (`poly_foldl_enter`). Behind a message that ends with its own remainder the register is empty
(`remainder_append`).
-/

namespace Cyclic

open Polynomial

variable {b w : Nat} {r low : BitVec w}

/-! ### Words as polynomials -/

noncomputable def poly (r : BitVec w) : (ZMod 2)[X] := ∑ i ∈ Finset.range w, if r.getLsbD i then X ^ i else 0

theorem coeff_poly (r : BitVec w) (i : Nat) : (poly r).coeff i = if r.getLsbD i then 1 else 0 := by
  rw [poly, finsetSum_coeff]
  by_cases hi : i < w
  · rw [Finset.sum_eq_single i]
    · split_ifs
      · exact coeff_X_pow_self i
      · exact coeff_zero i
    · intro j _ hji
      split_ifs
      · rw [coeff_X_pow, if_neg hji.symm]
      · exact coeff_zero i
    · exact fun h => absurd (Finset.mem_range.2 hi) h
  · have hbit : r.getLsbD i = false := BitVec.getLsbD_of_ge r i (Nat.le_of_not_lt hi)
    rw [hbit, if_neg Bool.false_ne_true]
    refine Finset.sum_eq_zero fun j hj => ?_
    split_ifs
    · rw [coeff_X_pow, if_neg fun h : i = j => hi (h ▸ Finset.mem_range.1 hj)]
    · exact coeff_zero i

theorem poly_zero : poly (0 : BitVec w) = 0 := by
  ext i
  rw [coeff_poly, coeff_zero]
  simp

theorem poly_injective : Function.Injective (poly : BitVec w → (ZMod 2)[X]) := by
  intro r s h
  refine BitVec.eq_of_getLsbD_eq fun i _ => ?_
  have hcoeff := congrArg (coeff · i) h
  simp only [coeff_poly] at hcoeff
  cases hr : r.getLsbD i <;> cases hs : s.getLsbD i <;> simp_all

theorem poly_xor (r s : BitVec w) : poly (r ^^^ s) = poly r + poly s := by
  ext i
  rw [coeff_add, coeff_poly, coeff_poly, coeff_poly, BitVec.getLsbD_xor]
  cases r.getLsbD i <;> cases s.getLsbD i <;> simp [CharTwo.add_self_eq_zero]

theorem poly_setWidth {v : Nat} (h : w ≤ v) (r : BitVec w) : poly (r.setWidth v) = poly r := by
  ext i
  rw [coeff_poly, coeff_poly, BitVec.getLsbD_setWidth]
  by_cases hi : i < v
  · rw [decide_eq_true hi, Bool.true_and]
  · rw [BitVec.getLsbD_of_ge r i (h.trans (Nat.le_of_not_lt hi)), Bool.and_false]

/-- Bits that stay within the word move to higher powers. -/
theorem poly_shiftLeft (k : Nat) (h : ∀ i, w ≤ i + k → r.getLsbD i = false) : poly (r <<< k) = poly r * X ^ k := by
  ext i
  rw [coeff_poly, coeff_mul_X_pow', BitVec.getLsbD_shiftLeft]
  by_cases hk : k ≤ i
  · rw [if_pos hk, coeff_poly, decide_eq_false (Nat.not_lt.2 hk), Bool.not_false, Bool.and_true]
    by_cases hi : i < w
    · rw [decide_eq_true hi, Bool.true_and]
    · rw [decide_eq_false hi, Bool.false_and, h (i - k) (by omega)]
  · rw [if_neg hk, decide_eq_true (Nat.lt_of_not_le hk), Bool.not_true, Bool.and_false, Bool.false_and, if_neg Bool.false_ne_true]

theorem degree_poly_lt (r : BitVec w) : (poly r).degree < w := by
  rw [degree_lt_iff_coeff_zero]
  intro i hi
  rw [coeff_poly, BitVec.getLsbD_of_ge r i hi, if_neg Bool.false_ne_true]

/-! ### The register -/

/-- The generator, its upper bit being the one behind the register. -/
noncomputable def generator (low : BitVec w) : (ZMod 2)[X] := X ^ w + poly low

theorem generator_monic (low : BitVec w) : (generator low).Monic := monic_X_pow_add (degree_poly_lt low)

theorem degree_generator (low : BitVec w) : (generator low).degree = w := by
  rw [generator, degree_add_eq_left_of_degree_lt, degree_X_pow]
  rw [degree_X_pow]
  exact degree_poly_lt low

theorem poly_modByMonic (low r : BitVec w) : poly r %ₘ generator low = poly r := by
  rw [modByMonic_eq_self_iff (generator_monic low), degree_generator]
  exact degree_poly_lt r

/-- One bit leaves the register. -/
def shift (low r : BitVec w) : BitVec w := if r.msb then (r <<< 1) ^^^ low else r <<< 1

def shifts (low : BitVec w) : Nat → BitVec w → BitVec w
  | 0, r => r
  | k + 1, r => shifts low k (shift low r)

/-- A word enters at the upper end. -/
def enter (low r : BitVec w) (word : BitVec b) : BitVec w := shifts low b (r ^^^ word.setWidth w <<< (w - b))

theorem poly_mul_X (r : BitVec w) : poly r * X = poly (r <<< 1) + if r.msb then X ^ w else 0 := by
  ext i
  rw [coeff_add, coeff_poly, BitVec.getLsbD_shiftLeft]
  cases i with
  | zero =>
    rw [coeff_mul_X_zero, decide_eq_true Nat.one_pos, Bool.not_true, Bool.and_false, Bool.false_and, if_neg Bool.false_ne_true]
    cases w with
    | zero => simp [BitVec.eq_nil r]
    | succ w => split_ifs <;> simp
  | succ i =>
    rw [coeff_mul_X, coeff_poly, Nat.add_sub_cancel, decide_eq_false (Nat.not_lt.2 (Nat.le_add_left 1 i)), Bool.not_false,
      Bool.and_true]
    rcases Nat.lt_trichotomy (i + 1) w with hi | hi | hi
    · rw [decide_eq_true hi, Bool.true_and]
      have hne : (X ^ w : (ZMod 2)[X]).coeff (i + 1) = 0 := (coeff_X_pow w (i + 1)).trans (if_neg hi.ne)
      split_ifs <;> simp [hne]
    · subst hi
      have hmsb : r.msb = r.getLsbD i := by rw [BitVec.msb_eq_getLsbD_last, Nat.add_sub_cancel]
      rw [hmsb, decide_eq_false (Nat.lt_irrefl _), Bool.false_and, if_neg Bool.false_ne_true, zero_add]
      split_ifs
      · exact (coeff_X_pow_self (i + 1)).symm
      · exact (coeff_zero (i + 1)).symm
    · have hne : (X ^ w : (ZMod 2)[X]).coeff (i + 1) = 0 := (coeff_X_pow w (i + 1)).trans (if_neg hi.ne')
      rw [BitVec.getLsbD_of_ge r i (Nat.le_of_lt_succ hi), Bool.and_false]
      split_ifs <;> simp [hne]

/-- The step of the register is the step of the remainder. -/
theorem poly_shift (low r : BitVec w) : poly (shift low r) = (poly r * X) %ₘ generator low := by
  have hsum : poly (shift low r) + generator low * (if r.msb then 1 else 0) = poly r * X := by
    rw [shift, poly_mul_X, generator]
    split_ifs
    · rw [poly_xor, mul_one, add_comm (X ^ w), add_assoc, ← add_assoc (poly low), CharTwo.add_self_eq_zero, zero_add]
    · rw [mul_zero]
  refine ((div_modByMonic_unique _ _ (generator_monic low) ⟨hsum, ?_⟩).2).symm
  rw [degree_generator]
  exact degree_poly_lt _

/-- A factor may be taken by its remainder. -/
theorem mul_modByMonic_left {g : (ZMod 2)[X]} (hg : g.Monic) (p q : (ZMod 2)[X]) : (p %ₘ g * q) %ₘ g = (p * q) %ₘ g := by
  refine modByMonic_eq_of_dvd_sub hg ?_
  rw [← sub_mul]
  refine Dvd.dvd.mul_right ?_ q
  rw [modByMonic_eq_sub_mul_div p g, sub_sub_cancel_left]
  exact (Dvd.intro _ rfl).neg_right

theorem poly_shifts (low : BitVec w) (k : Nat) (r : BitVec w) : poly (shifts low k r) = (poly r * X ^ k) %ₘ generator low := by
  induction k generalizing r with
  | zero => rw [shifts, pow_zero, mul_one, poly_modByMonic]
  | succ k ih => rw [shifts, ih, poly_shift, mul_modByMonic_left (generator_monic low), mul_assoc, ← pow_succ']

theorem poly_enter (h : b ≤ w) (low r : BitVec w) (word : BitVec b) :
    poly (enter low r word) = (poly r * X ^ b + poly word * X ^ w) %ₘ generator low := by
  have hclear : ∀ i, w ≤ i + (w - b) → (word.setWidth w).getLsbD i = false := by
    intro i hi
    rw [BitVec.getLsbD_setWidth, BitVec.getLsbD_of_ge word i (by omega), Bool.and_false]
  rw [enter, poly_shifts, poly_xor, poly_shiftLeft _ hclear, poly_setWidth h, add_mul, mul_assoc, ← pow_add, Nat.sub_add_cancel h]

/-! ### Messages -/

noncomputable def message (words : List (BitVec b)) : (ZMod 2)[X] := words.foldl (fun p word => p * X ^ b + poly word) 0

theorem message_concat (words : List (BitVec b)) (word : BitVec b) :
    message (words ++ [word]) = message words * X ^ b + poly word := by
  rw [message, List.foldl_append, List.foldl_cons, List.foldl_nil, ← message]

theorem message_append (words check : List (BitVec b)) :
    message (words ++ check) = message words * X ^ (b * check.length) + message check := by
  induction check using List.reverseRecOn with
  | nil => rw [List.append_nil, List.length_nil, Nat.mul_zero, pow_zero, mul_one]; exact (add_zero _).symm
  | append_singleton check word ih =>
    rw [← List.append_assoc, message_concat, ih, message_concat, List.length_append, List.length_singleton, Nat.mul_add,
      Nat.mul_one, pow_add, add_mul, ← add_assoc, mul_assoc]

/-- The register behind a message is the remainder of the message, times `X ^ w`. -/
theorem poly_foldl_enter (h : b ≤ w) (low : BitVec w) (words : List (BitVec b)) :
    poly (words.foldl (enter low) 0) = (message words * X ^ w) %ₘ generator low := by
  induction words using List.reverseRecOn with
  | nil => rw [List.foldl_nil, poly_zero, message, List.foldl_nil, zero_mul, zero_modByMonic]
  | append_singleton words word ih =>
    rw [List.foldl_append, List.foldl_cons, List.foldl_nil, poly_enter h, ih, message_concat, add_mul, add_modByMonic,
      mul_modByMonic_left (generator_monic low), ← add_modByMonic, mul_assoc, mul_assoc, ← pow_add, ← pow_add, Nat.add_comm w]

/-- A message that ends with its own remainder has none. -/
theorem remainder_append (low : BitVec w) {words check : List (BitVec b)} (hlength : b * check.length = w)
    (hcheck : message check = (message words * X ^ w) %ₘ generator low) :
    (message (words ++ check) * X ^ w) %ₘ generator low = 0 := by
  have hzero : message (words ++ check) %ₘ generator low = 0 := by
    have hself : message check %ₘ generator low = message check := by
      rw [hcheck, modByMonic_eq_self_iff (generator_monic low)]
      exact degree_modByMonic_lt _ (generator_monic low)
    rw [message_append, hlength, add_modByMonic, hself, ← hcheck, CharTwo.add_self_eq_zero]
  rw [← mul_modByMonic_left (generator_monic low), hzero, zero_mul, zero_modByMonic]

end Cyclic
