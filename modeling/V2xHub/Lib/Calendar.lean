import Mathlib.Algebra.Order.Group.Int

/-!
# Years

The seconds since 1970 at which a year starts, and the year of a moment (`gmtime`), in UTC and without leap seconds.
-/

namespace Calendar

/-- The days from 1970 to the start of the year, in the Gregorian calendar. -/
def daysBefore (year : Int) : Int :=
  365 * (year - 1970) + (year - 1) / 4 - (year - 1) / 100 + (year - 1) / 400 - 477

def yearStart (year : Int) : Int := daysBefore year * 86400

/-- The year by the mean length of a year, which may be off by one. -/
def estimate (seconds : Int) : Int := seconds / 86400 * 400 / 146097 + 1970

def yearOf (seconds : Int) : Int :=
  if seconds < yearStart (estimate seconds) then estimate seconds - 1
  else if seconds < yearStart (estimate seconds + 1) then estimate seconds
  else estimate seconds + 1

example : yearStart 2025 = 1735689600 ∧ yearOf 1735689599 = 2024 ∧ yearOf 1735689600 = 2025 := by decide

variable {year : Int}

theorem yearStart_succ (year : Int) : yearStart year + 365 * 86400 ≤ yearStart (year + 1) := by
  unfold yearStart daysBefore
  omega

theorem yearStart_mono {year' : Int} (h : year ≤ year') : yearStart year ≤ yearStart year' := by
  unfold yearStart daysBefore
  omega

theorem yearStart_estimate_sub (seconds : Int) : yearStart (estimate seconds - 1) ≤ seconds := by
  unfold yearStart daysBefore estimate
  omega

theorem lt_yearStart_estimate (seconds : Int) : seconds < yearStart (estimate seconds + 2) := by
  unfold yearStart daysBefore estimate
  omega

theorem yearStart_yearOf (seconds : Int) : yearStart (yearOf seconds) ≤ seconds := by
  unfold yearOf
  split_ifs with hbefore hafter
  · exact yearStart_estimate_sub seconds
  · exact not_lt.1 hbefore
  · exact not_lt.1 hafter

theorem lt_yearStart_yearOf (seconds : Int) : seconds < yearStart (yearOf seconds + 1) := by
  unfold yearOf
  split_ifs with hbefore hafter
  · rwa [Int.sub_add_cancel]
  · exact hafter
  · have := lt_yearStart_estimate seconds
    rwa [Int.add_assoc]

end Calendar
