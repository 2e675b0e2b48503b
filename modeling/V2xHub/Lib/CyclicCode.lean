import V2xHub.Lib.Cyclic
import Mathlib.RingTheory.PrincipalIdealDomain
import Mathlib.Algebra.Polynomial.FieldDivision

/-!
# Tables and bursts for cyclic redundancy checks

The step of a register is linear, so what leaves it at its upper end can be looked up in a table (`enter_eq`). As polynomials
the words of a message are its bits (`message_bits`); where the generator has the lowest bit, no two messages that differ within
as many bits as the register has leave the same behind (`foldl_enter_burst`).
-/

namespace Cyclic

open Polynomial

variable {b w : Nat} {low : BitVec w}

/-! ### Tables -/

theorem shift_xor (low r s : BitVec w) : shift low (r ^^^ s) = shift low r ^^^ shift low s := by
  unfold shift
  rw [BitVec.msb_xor, BitVec.shiftLeft_xor_distrib]
  cases r.msb <;> cases s.msb
  · rfl
  · exact BitVec.xor_assoc ..
  · rw [if_pos (by rfl), if_pos rfl, if_neg (by simp), BitVec.xor_assoc, BitVec.xor_assoc, BitVec.xor_comm (s <<< 1)]
  · rw [if_neg (by simp), if_pos rfl, if_pos rfl, BitVec.xor_comm (s <<< 1) low, BitVec.xor_assoc, ← BitVec.xor_assoc low,
      BitVec.xor_self, BitVec.zero_xor]

theorem shifts_xor (low : BitVec w) (k : Nat) (r s : BitVec w) : shifts low k (r ^^^ s) = shifts low k r ^^^ shifts low k s := by
  induction k generalizing r s with
  | zero => rfl
  | succ k ih => rw [shifts, shift_xor, ih, shifts, shifts]

/-- A register whose upper bits are clear only moves. -/
theorem shifts_of_lt (low : BitVec w) (k : Nat) {r : BitVec w} (h : r.toNat * 2 ^ k < 2 ^ w) : shifts low k r = r <<< k := by
  induction k generalizing r with
  | zero => exact (BitVec.shiftLeft_zero r).symm
  | succ k ih =>
    have hdouble : r.toNat * 2 * 2 ^ k < 2 ^ w := by
      rwa [Nat.mul_assoc, ← Nat.pow_succ']
    have hlt : r.toNat * 2 < 2 ^ w := lt_of_le_of_lt (Nat.le_mul_of_pos_right _ (Nat.two_pow_pos k)) hdouble
    have hmsb : r.msb = false := by
      rw [BitVec.msb_eq_false_iff_two_mul_lt]
      omega
    have hstep : shift low r = r <<< 1 := by rw [shift, hmsb, if_neg Bool.false_ne_true]
    have hnat : (r <<< 1).toNat = r.toNat * 2 := by
      rw [BitVec.toNat_shiftLeft, Nat.shiftLeft_eq, Nat.pow_one, Nat.mod_eq_of_lt hlt]
    rw [shifts, hstep, ih (by rwa [hnat]), ← BitVec.shiftLeft_add, Nat.add_comm]

/-- What a word that leaves the register becomes. -/
def table (low : BitVec w) (word : BitVec b) : BitVec w := shifts low b (word.setWidth w <<< (w - b))

/-- The upper word of a register, and the rest. -/
theorem split_register (h : b ≤ w) (r : BitVec w) :
    r = ((r >>> (w - b)).setWidth b).setWidth w <<< (w - b) ^^^ (r.setWidth (w - b)).setWidth w := by
  ext i hi
  by_cases hlow : i < w - b
  · simp [hlow, BitVec.getLsbD_eq_getElem hi]
  · have hb : i - (w - b) < b := by omega
    have hadd : w - b + (i - (w - b)) = i := by omega
    simp [hlow, hb, hadd, BitVec.getLsbD_eq_getElem hi]

theorem lower_shiftLeft (h : b ≤ w) (r : BitVec w) : (r.setWidth (w - b)).setWidth w <<< b = r <<< b := by
  ext i hi
  by_cases hb : i < b
  · simp [hb]
  · have hlt : i - b < w - b := by omega
    simp [hb, hlt, BitVec.getLsbD_eq_getElem (show i - b < w by omega)]

theorem enter_eq (h : b ≤ w) (low r : BitVec w) (word : BitVec b) :
    enter low r word = r <<< b ^^^ table low ((r >>> (w - b)).setWidth b ^^^ word) := by
  have hlower : ((r.setWidth (w - b)).setWidth w).toNat * 2 ^ b < 2 ^ w := by
    have hlt : (r.setWidth (w - b)).toNat < 2 ^ (w - b) := (r.setWidth (w - b)).isLt
    have hpow : 2 ^ w = 2 ^ (w - b) * 2 ^ b := by rw [← Nat.pow_add, Nat.sub_add_cancel h]
    rw [BitVec.toNat_setWidth, Nat.mod_eq_of_lt (hlt.trans_le (Nat.pow_le_pow_right (by decide) (Nat.sub_le w b))), hpow]
    exact Nat.mul_lt_mul_of_pos_right hlt (Nat.two_pow_pos b)
  conv_lhs => rw [enter, split_register h r, BitVec.xor_assoc, BitVec.xor_comm ((r.setWidth (w - b)).setWidth w), ← BitVec.xor_assoc,
    shifts_xor, shifts_of_lt low b hlower, lower_shiftLeft h, ← BitVec.shiftLeft_xor_distrib, ← BitVec.setWidth_xor]
  exact BitVec.xor_comm ..

theorem table_zero (low : BitVec w) : table low (0 : BitVec b) = 0 := by
  have hzero : ((0 : BitVec b).setWidth w <<< (w - b)) = 0 := by simp
  rw [table, hzero, shifts_of_lt low b (by simp)]
  simp

/-- The upper word of the register leaves it without a trace where it enters. -/
theorem enter_upper (h : b ≤ w) (low r : BitVec w) : enter low r ((r >>> (w - b)).setWidth b) = r <<< b := by
  rw [enter_eq h, BitVec.xor_self]
  exact (congrArg (r <<< b ^^^ ·) (table_zero low)).trans BitVec.xor_zero

/-! ### Bits -/

/-- The bits of a word, the upper one first. -/
def wordBits (word : BitVec b) : List Bool := List.ofFn fun i : Fin b => word.getMsbD i

def bits (words : List (BitVec b)) : List Bool := words.flatMap wordBits

noncomputable def bitPoly (l : List Bool) : (ZMod 2)[X] := message (l.map BitVec.ofBool)

theorem bitPoly_append (l l' : List Bool) : bitPoly (l ++ l') = bitPoly l * X ^ l'.length + bitPoly l' := by
  rw [bitPoly, List.map_append, message_append, List.length_map, Nat.one_mul]
  rfl

theorem coeff_bitPoly (l : List Bool) (i : Nat) : (bitPoly l).coeff i = if l.reverse[i]? = some true then 1 else 0 := by
  induction l using List.reverseRecOn generalizing i with
  | nil => simp [bitPoly, message]
  | append_singleton l a ih =>
    have hsingle : ∀ j, (bitPoly [a]).coeff j = if j = 0 ∧ a = true then 1 else 0 := by
      intro j
      rw [bitPoly, List.map_singleton, message, List.foldl_cons, List.foldl_nil, zero_mul, zero_add, coeff_poly, BitVec.getLsbD_ofBool]
      simp
    rw [bitPoly_append, coeff_add, hsingle, List.length_singleton, pow_one, List.reverse_append, List.reverse_singleton,
      List.singleton_append]
    cases i with
    | zero => simp
    | succ i => rw [coeff_mul_X, ih]; simp

theorem poly_eq_bitPoly (word : BitVec b) : poly word = bitPoly (wordBits word) := by
  ext i
  rw [coeff_poly, coeff_bitPoly]
  congr 1
  by_cases hi : i < b
  · have hlast : b - 1 - (b - 1 - i) = i := by omega
    simp [wordBits, hi, BitVec.getMsbD, hlast]
    
  · simp [wordBits, hi, BitVec.getLsbD_of_ge word i (Nat.le_of_not_lt hi)]

theorem message_eq_bitPoly (words : List (BitVec b)) : message words = bitPoly (bits words) := by
  induction words using List.reverseRecOn with
  | nil => rfl
  | append_singleton words word ih =>
    have hbits : bits (words ++ [word]) = bits words ++ wordBits word := by simp [bits]
    have hlength : (wordBits word).length = b := List.length_ofFn
    rw [message_concat, ih, poly_eq_bitPoly, hbits, bitPoly_append, hlength]

theorem bitPoly_injective {l l' : List Bool} (hlength : l.length = l'.length) (h : bitPoly l = bitPoly l') : l = l' := by
  rw [← List.reverse_inj]
  refine List.ext_getElem? fun i => ?_
  have hcoeff := congrArg (coeff · i) h
  simp only [coeff_bitPoly] at hcoeff
  by_cases hi : i < l.length
  · obtain ⟨a, ha⟩ : ∃ a, l.reverse[i]? = some a := ⟨_, List.getElem?_eq_getElem (by simpa using hi)⟩
    obtain ⟨a', ha'⟩ : ∃ a', l'.reverse[i]? = some a' := ⟨_, List.getElem?_eq_getElem (by simpa [← hlength] using hi)⟩
    rw [ha, ha'] at hcoeff ⊢
    cases a <;> cases a' <;> simp_all
  · rw [List.getElem?_eq_none (by simpa using hi), List.getElem?_eq_none (by simpa [← hlength] using hi)]

theorem degree_bitPoly_lt (l : List Bool) : (bitPoly l).degree < l.length := by
  rw [degree_lt_iff_coeff_zero]
  intro i hi
  rw [coeff_bitPoly, List.getElem?_eq_none (by simpa using hi)]
  simp

/-! ### Bursts -/

/-- The bits differ, and only within `k` places that follow each other. -/
def Burst (k : Nat) (l l' : List Bool) : Prop :=
  ∃ before old new after, l = before ++ old ++ after ∧ l' = before ++ new ++ after ∧ old.length = new.length ∧ old.length ≤ k ∧
    old ≠ new

theorem Burst.length_eq {k : Nat} {l l' : List Bool} (h : Burst k l l') : l.length = l'.length := by
  obtain ⟨before, old, new, after, rfl, rfl, hlength, -, -⟩ := h
  simp [hlength]

theorem isCoprime_generator_X (hlow : low.getLsbD 0 = true) : IsCoprime (generator low) X := by
  refine IsCoprime.symm ((irreducible_X (R := ZMod 2)).coprime_iff_not_dvd.mpr ?_)
  have hpos : w ≠ 0 := by
    intro hw
    rw [BitVec.getLsbD_of_ge low 0 hw.le] at hlow
    exact Bool.false_ne_true hlow
  rw [X_dvd_iff, generator, coeff_add, coeff_poly, if_pos hlow, coeff_X_pow, if_neg hpos.symm, zero_add]
  exact one_ne_zero

/-- A burst changes the remainder. -/
theorem burst_modByMonic_ne (hlow : low.getLsbD 0 = true) {l l' : List Bool} (h : Burst w l l') (k : Nat) :
    (bitPoly l * X ^ k) %ₘ generator low ≠ (bitPoly l' * X ^ k) %ₘ generator low := by
  obtain ⟨before, old, new, after, rfl, rfl, hlength, hw, hne⟩ := h
  intro heq
  have hzero : ((bitPoly old - bitPoly new) * X ^ (after.length + k)) %ₘ generator low = 0 := by
    have hdiff : (bitPoly old - bitPoly new) * X ^ (after.length + k) =
        bitPoly (before ++ old ++ after) * X ^ k - bitPoly (before ++ new ++ after) * X ^ k := by
      rw [bitPoly_append, bitPoly_append, bitPoly_append, bitPoly_append, hlength]
      ring
    rw [hdiff, sub_modByMonic, heq, sub_self]
  have hdvd := (modByMonic_eq_zero_iff_dvd (generator_monic low)).mp hzero
  have hburst : generator low ∣ bitPoly old - bitPoly new :=
    ((isCoprime_generator_X hlow).pow_right).dvd_of_dvd_mul_right hdvd
  have hdegree : (bitPoly old - bitPoly new).degree < (generator low).degree := by
    rw [degree_generator]
    refine (degree_sub_le _ _).trans_lt (max_lt ?_ ?_)
    · exact (degree_bitPoly_lt old).trans_le (by exact_mod_cast hw)
    · exact (degree_bitPoly_lt new).trans_le (by exact_mod_cast hlength ▸ hw)
  exact hne (bitPoly_injective hlength (sub_eq_zero.mp (eq_zero_of_dvd_of_degree_lt hburst hdegree)))

/-- A message with a burst of at most the width of the register leaves something else behind. -/
theorem foldl_enter_burst (hb : b ≤ w) (hlow : low.getLsbD 0 = true) {words words' : List (BitVec b)}
    (h : Burst w (bits words) (bits words')) : words.foldl (enter low) 0 ≠ words'.foldl (enter low) 0 := by
  intro heq
  refine burst_modByMonic_ne hlow h w ?_
  rw [← message_eq_bitPoly, ← message_eq_bitPoly, ← poly_foldl_enter hb, ← poly_foldl_enter hb, heq]

end Cyclic
