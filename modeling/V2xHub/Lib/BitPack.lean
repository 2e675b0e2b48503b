import Mathlib.Data.List.Forall2
import Mathlib.Data.Nat.Bitwise
import Mathlib.Algebra.Order.Group.Nat
import Mathlib.Algebra.BigOperators.Group.List.Basic
import Mathlib.Tactic.Ring

/-!
# Fields of bits

`pack ws vs` is the number that has the values `vs` in fields of `ws` bits, the first one highest, `unpack ws x`
the values that are in these fields of `x`. The two are inverse to each other (`unpack_pack`, `pack_unpack`), so
what is packed by one division into fields and unpacked by another can be packed and unpacked back.
-/

namespace BitPack

/-- Each value has its width. -/
def Fits (ws vs : List Nat) : Prop := List.Forall₂ (fun w v => v < 2 ^ w) ws vs

def pack : List Nat → List Nat → Nat
  | _ :: ws, v :: vs => v * 2 ^ ws.sum + pack ws vs
  | _, _ => 0

def unpack : List Nat → Nat → List Nat
  | [], _ => []
  | w :: ws, x => x / 2 ^ ws.sum % 2 ^ w :: unpack ws x

variable {w v x a : Nat} {ws vs : List Nat}

theorem fits_nil : Fits [] [] := List.Forall₂.nil

theorem fits_cons : Fits (w :: ws) (v :: vs) ↔ v < 2 ^ w ∧ Fits ws vs := List.forall₂_cons

theorem Fits.length_eq (h : Fits ws vs) : ws.length = vs.length := List.Forall₂.length_eq h

theorem pack_lt (h : Fits ws vs) : pack ws vs < 2 ^ ws.sum := by
  induction h with
  | nil => exact Nat.one_pos
  | @cons w v ws vs hv _ ih =>
    rw [pack, List.sum_cons, Nat.pow_add]
    calc v * 2 ^ ws.sum + pack ws vs < v * 2 ^ ws.sum + 2 ^ ws.sum := Nat.add_lt_add_left ih _
      _ = (v + 1) * 2 ^ ws.sum := by ring
      _ ≤ 2 ^ w * 2 ^ ws.sum := Nat.mul_le_mul_right _ hv

@[simp] theorem length_unpack : (unpack ws x).length = ws.length := by
  induction ws with
  | nil => rfl
  | cons w ws ih => rw [unpack, List.length_cons, List.length_cons, ih]

theorem fits_unpack : Fits ws (unpack ws x) := by
  induction ws with
  | nil => exact fits_nil
  | cons w ws ih => exact fits_cons.2 ⟨Nat.mod_lt _ (Nat.two_pow_pos w), ih⟩

/-- What is above the fields does not matter. -/
theorem unpack_add (ws : List Nat) (a x : Nat) : unpack ws (a * 2 ^ ws.sum + x) = unpack ws x := by
  induction ws generalizing a with
  | nil => rfl
  | cons w ws ih =>
    have hsplit : a * 2 ^ (w :: ws).sum + x = a * 2 ^ w * 2 ^ ws.sum + x := by
      rw [List.sum_cons, Nat.pow_add]
      ring
    rw [hsplit, unpack, unpack, ih, Nat.mul_comm (a * 2 ^ w), Nat.mul_add_div (Nat.two_pow_pos _), Nat.mul_comm a,
      Nat.mul_add_mod]

theorem lt_of_mem_unpack {n : Nat} (h : v ∈ unpack (List.replicate n w) x) : v < 2 ^ w := by
  induction n with
  | zero => exact absurd h List.not_mem_nil
  | succ n ih =>
    rw [List.replicate_succ, unpack] at h
    rcases List.mem_cons.1 h with rfl | h
    · exact Nat.mod_lt _ (Nat.two_pow_pos w)
    · exact ih h

theorem unpack_pack (h : Fits ws vs) : unpack ws (pack ws vs) = vs := by
  induction h with
  | nil => rfl
  | @cons w v ws vs hv hvs ih =>
    have hlt : pack ws vs < 2 ^ ws.sum := pack_lt hvs
    have hdiv : (v * 2 ^ ws.sum + pack ws vs) / 2 ^ ws.sum = v := by
      rw [Nat.mul_comm, Nat.mul_add_div (Nat.two_pow_pos _), Nat.div_eq_of_lt hlt, Nat.add_zero]
    rw [pack, unpack, unpack_add, ih, hdiv, Nat.mod_eq_of_lt hv]

theorem pack_unpack (h : x < 2 ^ ws.sum) : pack ws (unpack ws x) = x := by
  induction ws generalizing x with
  | nil =>
    obtain rfl : x = 0 := by simpa using h
    rfl
  | cons w ws ih =>
    have hdiv : x / 2 ^ ws.sum < 2 ^ w := by
      rw [Nat.div_lt_iff_lt_mul (Nat.two_pow_pos _), ← Nat.pow_add]
      exact h
    have hmod : unpack ws x = unpack ws (x % 2 ^ ws.sum) := by
      conv_lhs => rw [← Nat.div_add_mod' x (2 ^ ws.sum)]
      exact unpack_add ws _ _
    rw [unpack, pack, Nat.mod_eq_of_lt hdiv, hmod, ih (Nat.mod_lt _ (Nat.two_pow_pos _))]
    exact Nat.div_add_mod' x (2 ^ ws.sum)

theorem pack_append {ws' vs' : List Nat} (h : ws.length = vs.length) :
    pack (ws ++ ws') (vs ++ vs') = pack ws vs * 2 ^ ws'.sum + pack ws' vs' := by
  induction ws generalizing vs with
  | nil =>
    obtain rfl := List.eq_nil_of_length_eq_zero h.symm
    simp [pack]
  | cons w ws ih =>
    cases vs with
    | nil => nomatch h
    | cons v vs =>
      rw [List.cons_append, List.cons_append, pack, pack, ih (Nat.succ.inj h), List.sum_append, Nat.pow_add]
      ring

theorem unpack_append {ws' : List Nat} {y : Nat} (hy : y < 2 ^ ws'.sum) :
    unpack (ws ++ ws') (x * 2 ^ ws'.sum + y) = unpack ws x ++ unpack ws' y := by
  induction ws with
  | nil => exact unpack_add ws' x y
  | cons w ws ih =>
    have hdiv : (x * 2 ^ ws'.sum + y) / 2 ^ (ws ++ ws').sum = x / 2 ^ ws.sum := by
      rw [List.sum_append, Nat.add_comm ws.sum, Nat.pow_add, ← Nat.div_div_eq_div_mul, Nat.mul_comm x,
        Nat.mul_add_div (Nat.two_pow_pos _), Nat.div_eq_of_lt hy, Nat.add_zero]
    rw [List.cons_append, unpack, unpack, ih, hdiv, List.cons_append]

/-- Two packings of one number, from the same values back to the same values. -/
theorem unpack_pack_unpack (ws' : List Nat) (h : Fits ws vs) (hsum : ws'.sum = ws.sum) :
    unpack ws (pack ws' (unpack ws' (pack ws vs))) = vs := by
  rw [pack_unpack (hsum ▸ pack_lt h), unpack_pack h]

/-! ### Shifts and masks -/

theorem shiftLeft_or (h : v < 2 ^ w) : a <<< w ||| v = a * 2 ^ w + v := by
  rw [← Nat.shiftLeft_add_eq_or_of_lt h, Nat.shiftLeft_eq]

end BitPack
