import V2xHub.Lib.CString
import Mathlib.Algebra.Order.Group.Nat
import Mathlib.Tactic.Ring

/-!
# Base64

The bits of numbers, the upper one first, and the text of RFC 4648 that stands for bytes: six bits a character, three bytes in a
group of four characters, the last group filled up with `=`. The bits of the characters are those of the bytes, and zeros
(`flatMap_indices`).
-/

namespace Base64Text

/-! ### Bits -/

/-- The lowest `w` bits of a number. -/
def bitsOf : Nat → Nat → List Bool
  | 0, _ => []
  | w + 1, n => decide (n / 2 ^ w % 2 = 1) :: bitsOf w n

/-- The number that has these bits. -/
def value (bits : List Bool) : Nat := bits.foldl (fun n b => 2 * n + b.toNat) 0

variable {v w n : Nat}

@[simp] theorem length_bitsOf (w n : Nat) : (bitsOf w n).length = w := by
  induction w with
  | zero => rfl
  | succ w ih => rw [bitsOf, List.length_cons, ih]

/-- Only the lowest bits count. -/
theorem bitsOf_mod (w n : Nat) (h : v ≤ w) : bitsOf v (n % 2 ^ w) = bitsOf v n := by
  induction v with
  | zero => rfl
  | succ v ih =>
    have hdvd : 2 ^ v * 2 ∣ 2 ^ w := by
      rw [← pow_succ]
      exact Nat.pow_dvd_pow 2 h
    have hbit : n % 2 ^ w / 2 ^ v % 2 = n / 2 ^ v % 2 := by
      rw [← Nat.mod_mul_right_div_self, ← Nat.mod_mul_right_div_self, Nat.mod_mod_of_dvd _ hdvd]
    rw [bitsOf, bitsOf, hbit, ih (by omega)]

theorem bitsOf_add (v w n : Nat) : bitsOf (v + w) n = bitsOf v (n / 2 ^ w) ++ bitsOf w n := by
  induction v with
  | zero => rw [Nat.zero_add]; rfl
  | succ v ih =>
    have hadd : v + 1 + w = v + w + 1 := by omega
    rw [hadd, bitsOf, ih, bitsOf, List.cons_append, Nat.div_div_eq_div_mul, ← pow_add, Nat.add_comm w v]

/-- Two numbers in one. -/
theorem bitsOf_glue (v a : Nat) {b : Nat} (h : b < 2 ^ w) : bitsOf (v + w) (a * 2 ^ w + b) = bitsOf v a ++ bitsOf w b := by
  have hdiv : (a * 2 ^ w + b) / 2 ^ w = a := by
    rw [Nat.add_comm, Nat.add_mul_div_right _ _ (Nat.two_pow_pos w), Nat.div_eq_of_lt h, Nat.zero_add]
  have hmod : (a * 2 ^ w + b) % 2 ^ w = b := by
    rw [Nat.add_comm, Nat.add_mul_mod_self_right, Nat.mod_eq_of_lt h]
  rw [bitsOf_add, hdiv, ← bitsOf_mod w (a * 2 ^ w + b) le_rfl, hmod]

theorem value_append (l l' : List Bool) : value (l ++ l') = value l * 2 ^ l'.length + value l' := by
  have hfold : ∀ n, l'.foldl (fun n b => 2 * n + b.toNat) n = n * 2 ^ l'.length + value l' := by
    induction l' with
    | nil => intro n; simp [value]
    | cons b l' ih =>
      intro n
      rw [value, List.foldl_cons, List.foldl_cons, ih, ih (2 * 0 + _), List.length_cons, pow_succ]
      ring
  rw [value, List.foldl_append]
  exact hfold _

theorem value_bitsOf (w n : Nat) : value (bitsOf w n) = n % 2 ^ w := by
  induction w with
  | zero => rw [pow_zero, Nat.mod_one]; rfl
  | succ w ih =>
    have hbit : value [decide (n / 2 ^ w % 2 = 1)] = n / 2 ^ w % 2 := by
      rcases Nat.mod_two_eq_zero_or_one (n / 2 ^ w) with h | h <;> simp [value, h]
    rw [bitsOf, ← List.singleton_append, value_append, ih, hbit, length_bitsOf, pow_succ, Nat.mod_mul, Nat.mul_comm, Nat.add_comm]

/-! ### Characters -/

def alphabet : Str := CString.lit "ABCDEFGHIJKLMNOPQRSTUVWXYZabcdefghijklmnopqrstuvwxyz0123456789+/"

def pad : UInt8 := 61

def char (i : Nat) : UInt8 := alphabet.getD i 0

/-- The codes of the characters: capital letters, letters, digits, and the last two. -/
def code (i : Nat) : Nat :=
  if i ≤ 25 then 65 + i else if i ≤ 51 then 71 + i else if i ≤ 61 then i - 4 else if i = 62 then 43 else 47

theorem toNat_char {i : Nat} (hi : i < 64) : (char i).toNat = code i := by
  have hall : ∀ i < 64, (char i).toNat = code i := by
    unfold char alphabet
    rw [CString.lit_ofList]
    decide +kernel
  exact hall i hi

theorem char_eq {i : Nat} (hi : i < 64) : char i = UInt8.ofNat (code i) := by
  rw [← toNat_char hi, UInt8.ofNat_toNat]

theorem char_inj {i j : Nat} (hi : i < 64) (hj : j < 64) (h : char i = char j) : i = j := by
  have hcode := congrArg UInt8.toNat h
  rw [toNat_char hi, toNat_char hj, code, code] at hcode
  split_ifs at hcode
  all_goals omega

theorem char_ne_pad {i : Nat} (hi : i < 64) : char i ≠ pad := by
  intro h
  have hcode : code i = 61 := (toNat_char hi).symm.trans (congrArg UInt8.toNat h)
  rw [code] at hcode
  split_ifs at hcode
  all_goals omega

/-- What the characters stand for. -/
def indices : List UInt8 → List Nat
  | a :: b :: c :: bytes =>
    a.toNat / 4 :: (a.toNat % 4 * 16 + b.toNat / 16) :: (b.toNat % 16 * 4 + c.toNat / 64) :: c.toNat % 64 :: indices bytes
  | [a, b] => [a.toNat / 4, a.toNat % 4 * 16 + b.toNat / 16, b.toNat % 16 * 4]
  | [a] => [a.toNat / 4, a.toNat % 4 * 16]
  | [] => []

/-- How many characters the last group lacks. -/
def padding (bytes : List UInt8) : Nat := (3 - bytes.length % 3) % 3

def encode (bytes : List UInt8) : Str := (indices bytes).map char ++ List.replicate (padding bytes) pad

/-- The bits of bytes. -/
def byteBits (bytes : List UInt8) : List Bool := bytes.flatMap fun b => bitsOf 8 b.toNat

/-- A full group leaves the padding as it is. -/
theorem padding_cons (a b c : UInt8) (bytes : List UInt8) : padding (a :: b :: c :: bytes) = padding bytes := by
  rw [padding, padding, List.length_cons, List.length_cons, List.length_cons, Nat.add_assoc, Nat.add_assoc, Nat.add_mod_right]

theorem indices_lt (bytes : List UInt8) : ∀ i ∈ indices bytes, i < 64 := by
  induction bytes using indices.induct with
  | case1 a b c bytes ih =>
    have := a.toNat_lt
    have := b.toNat_lt
    have := c.toNat_lt
    rw [indices, List.forall_mem_cons, List.forall_mem_cons, List.forall_mem_cons, List.forall_mem_cons]
    exact ⟨by omega, by omega, by omega, by omega, ih⟩
  | case2 a b =>
    have := a.toNat_lt
    have := b.toNat_lt
    rw [indices, List.forall_mem_cons, List.forall_mem_cons, List.forall_mem_singleton]
    omega
  | case3 a =>
    have := a.toNat_lt
    rw [indices, List.forall_mem_cons, List.forall_mem_singleton]
    omega
  | case4 => exact List.forall_mem_nil _

/-- The bits of a byte that begins in one character and ends in the next. -/
theorem bitsOf_byte (v w : Nat) (h : v + w = 8) (b : UInt8) : bitsOf 8 b.toNat = bitsOf v (b.toNat / 2 ^ w) ++ bitsOf w b.toNat := by
  rw [← h, bitsOf_add]

theorem bitsOf_char {v w a b : Nat} (h : v + w = 6) (hb : b < 2 ^ w) :
    bitsOf 6 (a % 2 ^ v * 2 ^ w + b) = bitsOf v a ++ bitsOf w b := by
  rw [← h, bitsOf_glue v _ hb, bitsOf_mod v a le_rfl]

/-- The bits of two bytes, of which the last four are left. -/
theorem pair_bits (a b : UInt8) :
    bitsOf 6 (a.toNat / 4) ++ bitsOf 6 (a.toNat % 4 * 16 + b.toNat / 16) ++ bitsOf 4 b.toNat =
      bitsOf 8 a.toNat ++ bitsOf 8 b.toNat := by
  have hb := b.toNat_lt
  have hfirst : bitsOf 8 a.toNat = bitsOf 6 (a.toNat / 4) ++ bitsOf 2 a.toNat := bitsOf_byte 6 2 rfl a
  have hsecond : bitsOf 6 (a.toNat % 4 * 16 + b.toNat / 16) = bitsOf 2 a.toNat ++ bitsOf 4 (b.toNat / 16) :=
    bitsOf_char (v := 2) (w := 4) rfl (by omega)
  have hlast : bitsOf 8 b.toNat = bitsOf 4 (b.toNat / 16) ++ bitsOf 4 b.toNat := bitsOf_byte 4 4 rfl b
  rw [hfirst, hsecond, hlast]
  simp only [List.append_assoc]

theorem group_bits (a b c : UInt8) :
    bitsOf 6 (a.toNat / 4) ++ bitsOf 6 (a.toNat % 4 * 16 + b.toNat / 16) ++ bitsOf 6 (b.toNat % 16 * 4 + c.toNat / 64) ++
      bitsOf 6 (c.toNat % 64) = bitsOf 8 a.toNat ++ bitsOf 8 b.toNat ++ bitsOf 8 c.toNat := by
  have hc := c.toNat_lt
  have hthird : bitsOf 6 (b.toNat % 16 * 4 + c.toNat / 64) = bitsOf 4 b.toNat ++ bitsOf 2 (c.toNat / 64) :=
    bitsOf_char (v := 4) (w := 2) rfl (by omega)
  have hfourth : bitsOf 6 (c.toNat % 64) = bitsOf 6 c.toNat := bitsOf_mod 6 c.toNat le_rfl
  have hlast : bitsOf 8 c.toNat = bitsOf 2 (c.toNat / 64) ++ bitsOf 6 c.toNat := bitsOf_byte 2 6 rfl c
  rw [← pair_bits, hthird, hfourth, hlast]
  simp only [List.append_assoc]

/-- The bits of the characters are those of the bytes, and two zeros for each `=`. -/
theorem flatMap_indices (bytes : List UInt8) :
    (indices bytes).flatMap (bitsOf 6) = byteBits bytes ++ List.replicate (2 * padding bytes) false := by
  induction bytes using indices.induct with
  | case1 a b c bytes ih =>
    calc (indices (a :: b :: c :: bytes)).flatMap (bitsOf 6)
        = bitsOf 6 (a.toNat / 4) ++ bitsOf 6 (a.toNat % 4 * 16 + b.toNat / 16) ++ bitsOf 6 (b.toNat % 16 * 4 + c.toNat / 64) ++
            bitsOf 6 (c.toNat % 64) ++ (indices bytes).flatMap (bitsOf 6) := by
          rw [indices]
          simp only [List.flatMap_cons, List.append_assoc]
      _ = bitsOf 8 a.toNat ++ bitsOf 8 b.toNat ++ bitsOf 8 c.toNat ++
            (byteBits bytes ++ List.replicate (2 * padding bytes) false) := by rw [group_bits, ih]
      _ = byteBits (a :: b :: c :: bytes) ++ List.replicate (2 * padding (a :: b :: c :: bytes)) false := by
          rw [padding_cons]
          simp only [byteBits, List.flatMap_cons, List.append_assoc]
  | case2 a b =>
    have hthird : bitsOf 6 (b.toNat % 16 * 4 + 0) = bitsOf 4 b.toNat ++ bitsOf 2 0 :=
      bitsOf_char (v := 4) (w := 2) rfl (by decide)
    have hzeros : List.replicate (2 * padding [a, b]) false = bitsOf 2 0 := rfl
    have hbits : byteBits [a, b] = bitsOf 8 a.toNat ++ bitsOf 8 b.toNat := by
      simp only [byteBits, List.flatMap_cons, List.flatMap_nil, List.append_nil]
    rw [Nat.add_zero] at hthird
    rw [indices, hzeros, hbits, ← pair_bits]
    simp only [List.flatMap_cons, List.flatMap_nil, hthird, List.append_assoc, List.append_nil]
  | case3 a =>
    have hsecond : bitsOf 6 (a.toNat % 4 * 16 + 0) = bitsOf 2 a.toNat ++ bitsOf 4 0 :=
      bitsOf_char (v := 2) (w := 4) rfl (by decide)
    have hfirst : bitsOf 8 a.toNat = bitsOf 6 (a.toNat / 4) ++ bitsOf 2 a.toNat := bitsOf_byte 6 2 rfl a
    have hzeros : List.replicate (2 * padding [a]) false = bitsOf 4 0 := rfl
    rw [Nat.add_zero] at hsecond
    rw [indices, hzeros]
    simp only [byteBits, List.flatMap_cons, List.flatMap_nil, hfirst, hsecond, List.append_assoc, List.append_nil]
  | case4 => rfl

end Base64Text
