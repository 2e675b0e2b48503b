import V2xHub.Lib.Double

/-!
# Single precision numbers

`float`: the exact result rounded to 24 bits, half to even. A number of normal size changes by at most its 2^24th part
(`Single.abs_round_sub_le`). The largest float is above every 64-bit integer, so nothing here overflows.
-/

namespace Single
open Double

/-- The exponent of the last bit of a float of the size of `q`. -/
def exponent (q : ℚ) : Int := max (Int.log 2 |q| - 23) (-149)

/-- The float nearest to `q`. -/
def round (q : ℚ) : ℚ := roundHalfEven (q / 2 ^ exponent q) * 2 ^ exponent q

variable {q a b : ℚ} {n : Int}

theorem abs_roundHalfEven_sub_le (q : ℚ) : |(roundHalfEven q : ℚ) - q| ≤ 1 / 2 := by
  have hfloor := Int.floor_le q
  have hlt := Int.lt_floor_add_one q
  unfold roundHalfEven
  split_ifs with h
  · have hhalf : q - ⌊q⌋ ≤ 1 / 2 := h.elim le_of_lt fun h => h.1.le
    rw [abs_le]
    constructor <;> linarith
  · have hhalf : 1 / 2 ≤ q - ⌊q⌋ := le_of_not_gt fun hlt => h (.inl hlt)
    push_cast
    rw [abs_le]
    constructor <;> linarith

theorem round_zero : round 0 = 0 := by
  have hzero : roundHalfEven 0 = 0 := roundHalfEven_intCast 0
  rw [round, zero_div, hzero, Int.cast_zero, zero_mul]

theorem abs_round_sub_le (h : (2 : ℚ) ^ (-126 : ℤ) ≤ |q|) : |round q - q| ≤ |q| / 2 ^ 24 := by
  have hpos : 0 < |q| := lt_of_lt_of_le (by positivity) h
  have hlog : -126 ≤ Int.log 2 |q| := (Int.zpow_le_iff_le_log (by norm_num) hpos).1 (by exact_mod_cast h)
  have hexp : exponent q = Int.log 2 |q| - 23 := max_eq_left (by omega)
  have hunit : (2 : ℚ) ^ exponent q / 2 ≤ |q| / 2 ^ 24 := by
    have hself : ((2 : ℕ) : ℚ) ^ Int.log 2 |q| ≤ |q| := Int.zpow_log_le_self (by norm_num) hpos
    rw [hexp, zpow_sub₀ two_ne_zero]
    norm_num at hself ⊢
    linarith
  have hscale : round q - q = (roundHalfEven (q / 2 ^ exponent q) - q / 2 ^ exponent q) * 2 ^ exponent q := by
    rw [round, sub_mul, div_mul_cancel₀ _ (zpow_ne_zero _ two_ne_zero)]
  have hhalf := abs_roundHalfEven_sub_le (q / 2 ^ exponent q)
  have hunit_pos : (0 : ℚ) < 2 ^ exponent q := zpow_pos two_pos _
  rw [hscale, abs_mul, abs_of_pos hunit_pos]
  calc |(roundHalfEven (q / 2 ^ exponent q) : ℚ) - q / 2 ^ exponent q| * 2 ^ exponent q
      ≤ 1 / 2 * 2 ^ exponent q := mul_le_mul_of_nonneg_right hhalf hunit_pos.le
    _ ≤ |q| / 2 ^ 24 := by linarith

/-- `n / c` for an integer and a float. -/
def intDiv (n : Int) (c : ℚ) : ℚ := round (round n / c)

theorem intDiv_zero (c : ℚ) : intDiv 0 c = 0 := by
  rw [intDiv, Int.cast_zero, round_zero, zero_div, round_zero]

/-- Two roundings change a quotient by little. -/
theorem abs_intDiv_sub_le {c : ℚ} (hlow : 1 / 2 ^ 10 ≤ c) (hhigh : c ≤ 2 ^ 30) (n : Int) :
    |intDiv n c - n / c| ≤ |n / c| / 2 ^ 22 := by
  rcases eq_or_ne n 0 with rfl | hn
  · rw [intDiv_zero, Int.cast_zero, zero_div, sub_zero, abs_zero, zero_div]
  have hc : 0 < c := lt_of_lt_of_le (by norm_num) hlow
  have hone : (1 : ℚ) ≤ |(n : ℚ)| := by
    rw [← Int.cast_abs]
    exact_mod_cast Int.one_le_abs hn
  have hfirst : |round n - n| ≤ |(n : ℚ)| / 2 ^ 24 := abs_round_sub_le (le_trans (by norm_num) hone)
  have hquot : |round n / c - n / c| ≤ |n / c| / 2 ^ 24 := by
    rw [← sub_div, abs_div, abs_div, abs_of_pos hc, div_right_comm]
    exact div_le_div_of_nonneg_right hfirst hc.le
  have hsize : (2 : ℚ) ^ (-126 : ℤ) ≤ |round n / c| := by
    have habs := abs_sub_abs_le_abs_sub ((n : ℚ) / c) (round n / c)
    rw [abs_sub_comm] at habs
    have hbig : 1 / 2 ^ 30 ≤ |(n : ℚ) / c| := by
      rw [abs_div, abs_of_pos hc]
      exact div_le_div₀ (abs_nonneg _) hone hc hhigh
    norm_num at hquot hbig ⊢
    linarith
  have hsecond := abs_round_sub_le hsize
  have htri : |round n / c| ≤ |n / c| + |round n / c - n / c| := by
    have := abs_add_le ((n : ℚ) / c) (round n / c - n / c)
    rwa [add_sub_cancel] at this
  calc |intDiv n c - n / c| ≤ |round (round n / c) - round n / c| + |round n / c - n / c| := abs_sub_le _ _ _
    _ ≤ |round n / c| / 2 ^ 24 + |n / c| / 2 ^ 24 := add_le_add hsecond hquot
    _ ≤ |n / c| / 2 ^ 22 := by
      have := abs_nonneg ((n : ℚ) / c)
      norm_num at hquot htri ⊢
      linarith

end Single
