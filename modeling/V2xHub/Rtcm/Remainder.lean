import V2xHub.Lib.Cyclic
import V2xHub.Rtcm.Crc24q

/-!
# The parity of RTCM 3 as a remainder

The bitwise check is the register of a cyclic code, so the hash of the code is the remainder of the message by the polynomial
0x1864CFB (`crc24q_remainder`), and the bytes of the hash behind their message leave nothing.
-/

namespace V2xHub.Rtcm

open Polynomial

namespace Crc24q

theorem generator_low : Cyclic.generator low = Cyclic.poly 0x1864CFB#25 := by
  have hsplit : 0x1864CFB#25 = 1#25 <<< 24 ^^^ low.setWidth 25 := by decide
  have hone : Cyclic.poly (1#25 : BitVec 25) = 1 := by
    ext i
    rw [Cyclic.coeff_poly, coeff_one, BitVec.getLsbD_one]
    cases i <;> simp
  have hclear : ∀ i, 25 ≤ i + 24 → (1#25).getLsbD i = false := by
    intro i hi
    rw [BitVec.getLsbD_one, decide_eq_false (by omega : ¬ i = 0), Bool.and_false]
  rw [hsplit, Cyclic.poly_xor, Cyclic.poly_shiftLeft 24 hclear, hone, one_mul, Cyclic.poly_setWidth (by decide), Cyclic.generator]

/-- The three bytes of the register, the upper one first. -/
def bytes (crc : Nat) : ByteStream := [UInt8.ofNat (crc / 2 ^ 16), UInt8.ofNat (crc / 2 ^ 8), UInt8.ofNat crc]

theorem split_bytes (r : BitVec 24) :
    r = (((r >>> 16).setWidth 8).setWidth 24 <<< 8 ^^^ ((r >>> 8).setWidth 8).setWidth 24) <<< 8 ^^^ (r.setWidth 8).setWidth 24 := by
  ext i hi
  by_cases h8 : i < 8
  · simp [h8, BitVec.getLsbD_eq_getElem hi]
  · by_cases h16 : i < 16
    · have hlt : i - 8 < 8 := by omega
      have hadd : 8 + (i - 8) = i := by omega
      simp [h8, hlt, hadd, BitVec.getLsbD_eq_getElem hi]
    · have hge : ¬ i - 8 < 8 := by omega
      have hlt : i - 8 - 8 < 8 := by omega
      have hadd : 16 + (i - 8 - 8) = i := by omega
      simp [h8, hge, hlt, hadd, BitVec.getLsbD_eq_getElem hi]

end Crc24q

/-- The bytes of a stream as a polynomial, the first one highest. -/
noncomputable def streamPoly (data : ByteStream) : (ZMod 2)[X] := Cyclic.message (data.map UInt8.toBitVec)

theorem crc24q_eq (data : ByteStream) : crc24q data = (data.map UInt8.toBitVec).foldl (Cyclic.enter Crc24q.low) 0 := by
  rw [List.foldl_map, crc24q]
  exact congrArg (List.foldl · 0 data) (funext fun r => funext fun byte => Crc24q.enter_eq r byte)

theorem poly_crc24q (data : ByteStream) :
    Cyclic.poly (crc24q data) = (streamPoly data * X ^ 24) %ₘ Cyclic.poly 0x1864CFB#25 := by
  rw [crc24q_eq, Cyclic.poly_foldl_enter (by decide), Crc24q.generator_low, streamPoly]

theorem streamPoly_bytes (r : BitVec 24) : streamPoly (Crc24q.bytes r.toNat) = Cyclic.poly r := by
  have hclear (v : BitVec 24) (hv : v.toNat < 2 ^ 16) : ∀ i, 24 ≤ i + 8 → v.getLsbD i = false := by
    intro i hi
    refine Nat.testBit_lt_two_pow (lt_of_lt_of_le hv (Nat.pow_le_pow_right (by decide) (by omega)))
  have hwiden (v : BitVec 8) : Cyclic.poly (v.setWidth 24) = Cyclic.poly v :=
    Cyclic.poly_setWidth (by decide : 8 ≤ 24) v
  have hupper : (((r >>> 16).setWidth 8).setWidth 24).toNat < 2 ^ 16 := by
    rw [BitVec.toNat_setWidth, BitVec.toNat_setWidth]
    omega
  have hlower : ((((r >>> 16).setWidth 8).setWidth 24 <<< 8) ^^^ ((r >>> 8).setWidth 8).setWidth 24).toNat < 2 ^ 16 := by
    rw [BitVec.toNat_xor]
    refine Nat.xor_lt_two_pow ?_ ?_
    · rw [BitVec.toNat_shiftLeft, BitVec.toNat_setWidth, BitVec.toNat_setWidth, Nat.shiftLeft_eq]
      omega
    · rw [BitVec.toNat_setWidth, BitVec.toNat_setWidth]
      omega
  conv_rhs => rw [Crc24q.split_bytes r, Cyclic.poly_xor, Cyclic.poly_shiftLeft 8 (hclear _ hlower), Cyclic.poly_xor,
    Cyclic.poly_shiftLeft 8 (hclear _ hupper), hwiden, hwiden, hwiden]
  have h16 : (UInt8.ofNat (r.toNat / 2 ^ 16)).toBitVec = (r >>> 16).setWidth 8 := by
    apply BitVec.eq_of_toNat_eq
    simp [Nat.shiftRight_eq_div_pow]
  have h8 : (UInt8.ofNat (r.toNat / 2 ^ 8)).toBitVec = (r >>> 8).setWidth 8 := by
    apply BitVec.eq_of_toNat_eq
    simp [Nat.shiftRight_eq_div_pow]
  have h0 : (UInt8.ofNat r.toNat).toBitVec = r.setWidth 8 := by
    apply BitVec.eq_of_toNat_eq
    simp
  rw [streamPoly, Crc24q.bytes, List.map_cons, List.map_cons, List.map_cons, List.map_nil, h16, h8, h0, Cyclic.message]
  simp only [List.foldl_cons, List.foldl_nil, zero_mul, zero_add]

/-- The hash by the table is the bitwise redundancy check, which is the remainder of the stream, times `X ^ 24`, by the
polynomial; and the bytes of the hash behind the stream have no remainder. -/
theorem crc24q_remainder (data : ByteStream) :
    (crc24q_hash data).toNat = (crc24q data).toNat ∧
      Cyclic.poly (BitVec.ofNat 24 (crc24q_hash data).toNat) = (streamPoly data * X ^ 24) %ₘ Cyclic.poly 0x1864CFB#25 ∧
      crc24q_hash (data ++ Crc24q.bytes (crc24q_hash data).toNat) = 0 := by
  have hbits : ∀ s : ByteStream, (crc24q_hash s).toNat = (crc24q s).toNat := crc24q_hash_eq
  refine ⟨hbits data, ?_, ?_⟩
  · rw [hbits, BitVec.ofNat_toNat, BitVec.setWidth_eq, poly_crc24q]
  · have hempty : crc24q (data ++ Crc24q.bytes (crc24q data).toNat) = 0 := by
      apply Cyclic.poly_injective
      have hcheck : Cyclic.message ((Crc24q.bytes (crc24q data).toNat).map UInt8.toBitVec) =
          (Cyclic.message (data.map UInt8.toBitVec) * X ^ 24) %ₘ Cyclic.generator Crc24q.low := by
        rw [Crc24q.generator_low]
        exact (streamPoly_bytes _).trans (poly_crc24q data)
      rw [poly_crc24q, streamPoly, List.map_append, ← Crc24q.generator_low, Cyclic.remainder_append Crc24q.low rfl hcheck,
        Cyclic.poly_zero]
    apply UInt32.toNat_inj.1
    rw [hbits, hbits, hempty]
    rfl

end V2xHub.Rtcm
