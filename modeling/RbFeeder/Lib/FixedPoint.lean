import Mathlib

/-! Conversion of rationals to integers, as C does it: towards zero. -/
namespace RbFeeder.FixedPoint

/-- The integral part, towards zero. -/
def truncate (q : ℚ) : ℤ := if 0 ≤ q then ⌊q⌋ else ⌈q⌉

theorem truncate_of_nonneg {q : ℚ} (h : 0 ≤ q) : truncate q = ⌊q⌋ := if_pos h

theorem truncate_of_neg {q : ℚ} (h : q < 0) : truncate q = ⌈q⌉ := if_neg (not_le.mpr h)

theorem truncate_intCast (n : ℤ) : truncate n = n := by
  rw [truncate]
  split
  · exact Int.floor_intCast n
  · exact Int.ceil_intCast n

/-- The quotient of integers, truncated. -/
theorem truncate_div (a : ℤ) (b : ℕ) : truncate (a / b) = a.tdiv b := by
  obtain hb | hb := Nat.eq_zero_or_pos b
  · subst hb
    simp [truncate]
  have hb' : (0 : ℚ) < b := by exact_mod_cast hb
  by_cases ha : 0 ≤ a
  · have hq : 0 ≤ (a / b : ℚ) := div_nonneg (by exact_mod_cast ha) hb'.le
    rw [truncate_of_nonneg hq, Rat.floor_intCast_div_natCast, Int.tdiv_eq_ediv_of_nonneg ha]
  · have hq : (a / b : ℚ) < 0 := div_neg_of_neg_of_pos (by exact_mod_cast not_le.mp ha) hb'
    rw [truncate_of_neg hq, Rat.ceil_intCast_div_natCast, ← Int.tdiv_eq_ediv_of_nonneg (by omega), Int.neg_tdiv,
      neg_neg]

/-- Truncation is off by less than one. -/
theorem abs_truncate_sub_lt (q : ℚ) : |(truncate q : ℚ) - q| < 1 := by
  rw [truncate]
  split
  · rw [abs_sub_comm, Int.self_sub_floor, abs_of_nonneg (Int.fract_nonneg q)]
    exact Int.fract_lt_one q
  · rw [abs_lt]
    have hle := Int.le_ceil q
    have hlt := Int.ceil_lt_add_one q
    constructor <;> linarith

/-- Truncation of a bounded number is bounded. -/
theorem abs_truncate_le {q : ℚ} {n : ℤ} (h : |q| ≤ n) : |truncate q| ≤ n := by
  obtain ⟨hlow, hhigh⟩ := abs_le.mp h
  rw [abs_le, truncate]
  split
  case isTrue hpos =>
    have hfloor : 0 ≤ ⌊q⌋ := Int.floor_nonneg.mpr hpos
    have hn : ⌊q⌋ ≤ n := by exact_mod_cast (Int.floor_le q).trans hhigh
    exact ⟨by omega, hn⟩
  case isFalse hneg =>
    have hceil : ⌈q⌉ ≤ 0 := Int.ceil_le.mpr (by exact_mod_cast (not_le.mp hneg).le)
    have hn : -n ≤ ⌈q⌉ := by exact_mod_cast hlow.trans (Int.le_ceil q)
    exact ⟨hn, by omega⟩

/-- Rounding by truncation of `1 / 2 + q` is off by more than one where a negative number is
closer to the integer above it. -/
theorem abs_round_sub_le_one_iff (q : ℚ) :
    |(truncate (1 / 2 + q) : ℚ) - q| ≤ 1 ↔ -1 / 2 ≤ q ∨ Int.fract q ≤ 1 / 2 := by
  by_cases hpos : -1 / 2 ≤ q
  · have hfloor := Int.floor_le (1 / 2 + q)
    have hnext := Int.lt_floor_add_one (1 / 2 + q)
    rw [truncate_of_nonneg (by linarith), abs_le]
    exact iff_of_true ⟨by linarith, by linarith⟩ (.inl hpos)
  · have hparts := Int.floor_add_fract q
    rw [truncate_of_neg (by linarith), or_iff_right hpos]
    by_cases hfract : Int.fract q ≤ 1 / 2
    · have hle : ⌈1 / 2 + q⌉ ≤ ⌊q⌋ + 1 := Int.ceil_le.mpr (by push_cast; linarith)
      have hle' : (⌈1 / 2 + q⌉ : ℚ) ≤ ⌊q⌋ + 1 := by exact_mod_cast hle
      have hceil := Int.le_ceil (1 / 2 + q)
      have hnonneg := Int.fract_nonneg q
      rw [abs_le]
      exact iff_of_true ⟨by linarith, by linarith⟩ hfract
    · -- the integer above the one above it
      have hlt : ⌊q⌋ + 1 < ⌈1 / 2 + q⌉ := Int.lt_ceil.mpr (by push_cast; linarith)
      have hlt' : (⌊q⌋ + 1 + 1 : ℚ) ≤ ⌈1 / 2 + q⌉ := by exact_mod_cast hlt
      have hone := Int.fract_lt_one q
      refine iff_of_false (fun h => ?_) hfract
      linarith [(abs_le.mp h).2]

end RbFeeder.FixedPoint
