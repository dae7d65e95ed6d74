import RbFeeder.Lib.Unrolled
import RbFeeder.Sdr.Fifo

/-! Mean level and power: `mean_power_u16` and `magnitude_power_uc8`.

The implementations of one function differ in how they add up: in 64 bits, in blocks of 65536
samples in 32 bits and then in a double, along with the lookup of the magnitudes, or four of
these in a turn. Doubles are exact rationals here; the sums of the blocks are integers below
2^53. A product of two `uint16_t` is one of `int`s, and `none` is its overflow. -/
namespace RbFeeder.Dsp
open Unrolled
open Sdr (Sample)

/-! ### The implementations of `mean_power_u16` -/

/-- `(uint32_t)mag * mag`. -/
def square (mag : Sample) : BitVec 32 := mag.setWidth 32 * mag.setWidth 32

/-- The sums in 64 bits. -/
def sums64 (xs : List Sample) : BitVec 64 × BitVec 64 :=
  xs.foldl (fun s mag => (s.1 + mag.setWidth 64, s.2 + (square mag).setWidth 64)) (0, 0)

/-- `out_mean_mag` and `out_mean_magsq`. -/
def mean_power_u16_u64 (xs : List Sample) : ℚ × ℚ :=
  let s := sums64 xs
  (s.1.toNat / xs.length / 65536, s.2.toNat / xs.length / 65536 / 65536)

/-- The sums of a block in 32 bits. -/
def sums32 (xs : List Sample) : BitVec 32 × BitVec 32 :=
  xs.foldl (fun s mag => (s.1 + mag.setWidth 32, s.2 + square mag >>> 16)) (0, 0)

/-- The loop over the blocks. -/
def sumBlocks (sum sumsq : ℚ) (xs : List Sample) : ℚ × ℚ :=
  if xs = [] then (sum, sumsq)
  else
    let s := sums32 (xs.take 65536)
    sumBlocks (sum + s.1.toNat) (sumsq + s.2.toNat) (xs.drop 65536)
termination_by xs.length
decreasing_by
  rw [List.length_drop]
  have := List.length_pos_iff.mpr ‹xs ≠ []›
  omega

def mean_power_u16_u32 (xs : List Sample) : ℚ × ℚ :=
  let s := sumBlocks 0 0 xs
  (s.1 / xs.length / 65536, s.2 / xs.length / 65536)

/-! ### Sums -/

/-- The sum of the samples, and of their squares in units of `unit`. -/
def levels (xs : List Sample) : Nat := (xs.map BitVec.toNat).sum

def powers (unit : Nat) (xs : List Sample) : Nat := (xs.map fun mag => mag.toNat ^ 2 / unit).sum

theorem toNat_le (mag : Sample) : mag.toNat ≤ 65535 := Nat.le_of_lt_succ mag.isLt

theorem sq_le (mag : Sample) : mag.toNat ^ 2 ≤ 65535 ^ 2 := Nat.pow_le_pow_left (toNat_le mag) 2

theorem toNat_square (mag : Sample) : (square mag).toNat = mag.toNat ^ 2 := by
  have hsq := sq_le mag
  rw [square, BitVec.toNat_mul, BitVec.toNat_setWidth_of_le (by decide), ← Nat.pow_two, Nat.mod_eq_of_lt (by omega)]

theorem powers_append (unit : Nat) (xs ys : List Sample) : powers unit (xs ++ ys) = powers unit xs + powers unit ys := by
  rw [powers, List.map_append, List.sum_append, powers, powers]

theorem levels_append (xs ys : List Sample) : levels (xs ++ ys) = levels xs + levels ys := by
  rw [levels, List.map_append, List.sum_append, levels, levels]

/-- The fractions that are cut off are less than one a sample. -/
theorem powers_bounds (xs : List Sample) :
    65536 * powers 65536 xs ≤ powers 1 xs ∧ powers 1 xs ≤ 65536 * powers 65536 xs + 65535 * xs.length := by
  induction xs with
  | nil => exact ⟨Nat.le_refl _, Nat.le_refl _⟩
  | cons mag xs ih =>
    have hunit : powers 1 (mag :: xs) = mag.toNat ^ 2 + powers 1 xs := by
      simp only [powers, List.map_cons, List.sum_cons, Nat.div_one]
    have hfloor : powers 65536 (mag :: xs) = mag.toNat ^ 2 / 65536 + powers 65536 xs := by
      simp only [powers, List.map_cons, List.sum_cons]
    rw [hunit, hfloor, List.length_cons]
    generalize mag.toNat ^ 2 = sq
    omega

/-- The sums of a loop that adds to both. -/
theorem foldl_sums {v w : Nat} (f : Sample → BitVec v) (g : Sample → BitVec w) (a : BitVec v) (b : BitVec w)
    (xs : List Sample) :
    xs.foldl (fun s mag => (s.1 + f mag, s.2 + g mag)) (a, b) =
      (xs.foldl (fun s mag => s + f mag) a, xs.foldl (fun s mag => s + g mag) b) := by
  induction xs generalizing a b with
  | nil => rfl
  | cons mag xs ih => exact ih _ _

theorem sums64_concat (xs : List Sample) (mag : Sample) :
    sums64 (xs ++ [mag]) = ((sums64 xs).1 + mag.setWidth 64, (sums64 xs).2 + (square mag).setWidth 64) :=
  List.foldl_append

theorem toNat_sums64 {xs : List Sample} (hlen : xs.length < 2 ^ 32) :
    (sums64 xs).1.toNat = levels xs ∧ (sums64 xs).2.toNat = powers 1 xs := by
  rw [sums64, foldl_sums]
  constructor
  · refine (toNat_foldl_of_lt 65535 (fun mag _ => ?_) (by omega)).trans ?_
    · rw [BitVec.toNat_setWidth_of_le (by decide)]
      exact toNat_le mag
    · exact congrArg List.sum (List.map_congr_left fun mag _ => BitVec.toNat_setWidth_of_le (by decide))
  · have hwidth (mag : Sample) : ((square mag).setWidth 64).toNat = mag.toNat ^ 2 := by
      rw [BitVec.toNat_setWidth, toNat_square, Nat.mod_eq_of_lt (by have := sq_le mag; omega)]
    refine (toNat_foldl_of_lt (65535 ^ 2) (fun mag _ => ?_) (by omega)).trans ?_
    · rw [hwidth]
      exact sq_le mag
    · exact congrArg List.sum (List.map_congr_left fun mag _ => (hwidth mag).trans (Nat.div_one _).symm)

theorem toNat_sums32 {xs : List Sample} (hlen : xs.length ≤ 65536) :
    (sums32 xs).1.toNat = levels xs ∧ (sums32 xs).2.toNat = powers 65536 xs := by
  rw [sums32, foldl_sums]
  constructor
  · refine (toNat_foldl_of_lt 65535 (fun mag _ => ?_) (by omega)).trans ?_
    · rw [BitVec.toNat_setWidth_of_le (by decide)]
      exact toNat_le mag
    · exact congrArg List.sum (List.map_congr_left fun mag _ => BitVec.toNat_setWidth_of_le (by decide))
  · have hshift (mag : Sample) : (square mag >>> 16).toNat = mag.toNat ^ 2 / 65536 := by
      rw [BitVec.toNat_ushiftRight, toNat_square, Nat.shiftRight_eq_div_pow]
    refine (toNat_foldl_of_lt 65535 (fun mag _ => ?_) (by omega)).trans ?_
    · rw [hshift]
      have := sq_le mag
      omega
    · exact congrArg List.sum (List.map_congr_left fun mag _ => hshift mag)

/-- No block wraps. -/
theorem sumBlocks_eq (sum sumsq : ℚ) (xs : List Sample) :
    sumBlocks sum sumsq xs = (sum + levels xs, sumsq + powers 65536 xs) := by
  fun_induction sumBlocks sum sumsq xs with
  | case1 sum sumsq => simp [levels, powers]
  | case2 sum sumsq xs hne s ih =>
    obtain ⟨hlevel, hpower⟩ := toNat_sums32 (List.length_take_le 65536 xs)
    rw [ih, hlevel, hpower]
    conv_rhs => rw [← List.take_append_drop 65536 xs, levels_append, powers_append]
    push_cast
    rw [add_assoc, add_assoc]

/-- **Main theorem.** Both implementations return the mean of the samples. The one with 64 bits returns the mean of their
squares too, and the one with 32 bits less than 1/65536 less. -/
theorem mean_power_u16 {xs : List Sample} (hne : xs ≠ []) (hlen : xs.length < 2 ^ 32) :
    (mean_power_u16_u64 xs).1 = levels xs / xs.length / 65536 ∧ (mean_power_u16_u32 xs).1 = (mean_power_u16_u64 xs).1 ∧
      (mean_power_u16_u64 xs).2 = powers 1 xs / xs.length / 65536 ^ 2 ∧
      (mean_power_u16_u32 xs).2 ≤ (mean_power_u16_u64 xs).2 ∧
      (mean_power_u16_u64 xs).2 < (mean_power_u16_u32 xs).2 + 1 / 65536 := by
  obtain ⟨hlevel, hpower⟩ := toNat_sums64 hlen
  have hpos : (0 : ℚ) < xs.length := Nat.cast_pos.mpr (List.length_pos_iff.mpr hne)
  have hlevel64 : (mean_power_u16_u64 xs).1 = levels xs / xs.length / 65536 := by rw [mean_power_u16_u64, hlevel]
  have hpower64 : (mean_power_u16_u64 xs).2 = powers 1 xs / xs.length / 65536 ^ 2 := by
    rw [mean_power_u16_u64, hpower, div_div _ (65536 : ℚ) 65536, ← pow_two]
  have hblocks : sumBlocks 0 0 xs = ((levels xs : ℚ), (powers 65536 xs : ℚ)) := by
    rw [sumBlocks_eq, zero_add, zero_add]
  have hlevel32 : (mean_power_u16_u32 xs).1 = levels xs / xs.length / 65536 := by rw [mean_power_u16_u32, hblocks]
  have hpower32 : (mean_power_u16_u32 xs).2 = powers 65536 xs / xs.length / 65536 := by
    rw [mean_power_u16_u32, hblocks]
  obtain ⟨hfloor, hfraction⟩ := powers_bounds xs
  have hfloor : (65536 : ℚ) * powers 65536 xs ≤ powers 1 xs := by exact_mod_cast hfloor
  have hfraction : (powers 1 xs : ℚ) ≤ 65536 * powers 65536 xs + 65535 * xs.length := by exact_mod_cast hfraction
  refine ⟨hlevel64, hlevel32.trans hlevel64.symm, hpower64, ?_, ?_⟩
  · rw [hpower32, hpower64, div_div, div_div, div_le_div_iff₀ (by positivity) (by positivity)]
    nlinarith
  · rw [hpower32, hpower64, div_div, div_div, div_add_div _ _ (by positivity) (by positivity),
      div_lt_div_iff₀ (by positivity) (by positivity)]
    nlinarith

theorem mean_power_u16_loud :
    (mean_power_u16_u64 [65535, 255]).1 = levels [65535, 255] / ([65535, 255] : List Sample).length / 65536 ∧
      (mean_power_u16_u32 [65535, 255]).1 = (mean_power_u16_u64 [65535, 255]).1 ∧
      (mean_power_u16_u64 [65535, 255]).2 = powers 1 [65535, 255] / ([65535, 255] : List Sample).length / 65536 ^ 2 ∧
      (mean_power_u16_u32 [65535, 255]).2 ≤ (mean_power_u16_u64 [65535, 255]).2 ∧
      (mean_power_u16_u64 [65535, 255]).2 < (mean_power_u16_u32 [65535, 255]).2 + 1 / 65536 :=
  mean_power_u16 (by decide) (by decide)

/-! ### The implementations of `magnitude_power_uc8` -/

section Magnitude
variable (mag_table : BitVec 16 → Sample)

/-- The magnitudes written so far, their sum and that of their squares. -/
abbrev Sums := List Sample × BitVec 64 × BitVec 64

/-- `out`, `out_level` and `out_power`. -/
def means (s : Sums) (len : Nat) : List Sample × ℚ × ℚ :=
  (s.1, s.2.1.toNat / 65536 / len, s.2.2.toNat / 65536 / 65536 / len)

def lookupOne (s : Sums) (x : BitVec 16) : Sums :=
  let mag := mag_table x
  (s.1 ++ [mag], s.2.1 + mag.setWidth 64, s.2.2 + (square mag).setWidth 64)

/-- A pair of I and Q is one index. -/
def magnitude_power_uc8_lookup (xs : List (BitVec 16)) : List Sample × ℚ × ℚ :=
  means (xs.foldl (lookupOne mag_table) ([], 0, 0)) xs.length

/-- Four pairs. -/
def lookupTurn (s : Sums) (part : List (BitVec 16)) : Sums :=
  let mag0 := mag_table (part.getD 0 0)
  let mag1 := mag_table (part.getD 1 0)
  let mag2 := mag_table (part.getD 2 0)
  let mag3 := mag_table (part.getD 3 0)
  (s.1 ++ [mag0, mag1, mag2, mag3],
    s.2.1 + mag0.setWidth 64 + mag1.setWidth 64 + mag2.setWidth 64 + mag3.setWidth 64,
    s.2.2 + (square mag0).setWidth 64 + (square mag1).setWidth 64 + (square mag2).setWidth 64 +
      (square mag3).setWidth 64)

/-- `mag * mag`, which is of type `int`. -/
def intSquare (mag : Sample) : Option (BitVec 64) :=
  if mag.toNat ^ 2 < 2 ^ 31 then some (BitVec.ofNat 64 (mag.toNat ^ 2)) else none

/-- One of the last pairs. -/
def unrolledOne (s : Option Sums) (x : BitVec 16) : Option Sums := do
  let s ← s
  let mag := mag_table x
  let sq ← intSquare mag
  return (s.1 ++ [mag], s.2.1 + mag.setWidth 64, s.2.2 + sq)

def magnitude_power_uc8_lookup_unroll_4 (xs : List (BitVec 16)) : Option (List Sample × ℚ × ℚ) :=
  (unrolled 4 (lookupTurn mag_table) some (unrolledOne mag_table) ([], 0, 0) xs).map (means · xs.length)

def magnitude_uc8_lookup (xs : List (BitVec 16)) : List Sample :=
  xs.foldl (fun out x => out ++ [mag_table x]) []

/-- With the mean in 64 bits. -/
def magnitude_power_uc8_twopass (xs : List (BitVec 16)) : List Sample × ℚ × ℚ :=
  let out := magnitude_uc8_lookup mag_table xs
  (out, mean_power_u16_u64 out)

/-! ### Turns and single steps -/

theorem lookupTurn_eq (s : Sums) {part : List (BitVec 16)} (hpart : part.length = 4) :
    lookupTurn mag_table s part = part.foldl (lookupOne mag_table) s := by
  match part, hpart with
  | [x0, x1, x2, x3], _ =>
    simp only [lookupTurn, List.foldl_cons, List.foldl_nil, lookupOne, List.append_assoc, List.singleton_append]
    rfl

theorem intSquare_eq (mag : Sample) :
    intSquare mag = if mag.toNat ≤ 46340 then some ((square mag).setWidth 64) else none := by
  have hfits : mag.toNat ^ 2 < 2 ^ 31 ↔ mag.toNat ≤ 46340 := by
    constructor
    · intro hlt
      by_contra hlarge
      have := Nat.pow_le_pow_left (show 46341 ≤ mag.toNat by omega) 2
      omega
    · intro hle
      have := Nat.pow_le_pow_left hle 2
      omega
  have hvalue : BitVec.ofNat 64 (mag.toNat ^ 2) = (square mag).setWidth 64 := by
    apply BitVec.eq_of_toNat_eq
    rw [BitVec.toNat_ofNat, BitVec.toNat_setWidth, toNat_square]
  rw [intSquare, hvalue]
  exact if_congr hfits rfl rfl

/-- The last pairs are added up as the others, until one overflows. -/
theorem foldl_unrolledOne (s : Sums) (xs : List (BitVec 16)) :
    xs.foldl (unrolledOne mag_table) (some s) =
      if ∀ x ∈ xs, (mag_table x).toNat ≤ 46340 then some (xs.foldl (lookupOne mag_table) s) else none := by
  have hnone (xs : List (BitVec 16)) : xs.foldl (unrolledOne mag_table) none = none := by
    induction xs with
    | nil => rfl
    | cons x xs ih => exact ih
  induction xs generalizing s with
  | nil => simp
  | cons x xs ih =>
    have hone : unrolledOne mag_table (some s) x =
        (intSquare (mag_table x)).map fun sq => (s.1 ++ [mag_table x], s.2.1 + (mag_table x).setWidth 64, s.2.2 + sq) := by
      show (intSquare (mag_table x)).bind _ = _
      cases intSquare (mag_table x) <;> rfl
    rw [List.foldl_cons, hone, intSquare_eq]
    by_cases hle : (mag_table x).toNat ≤ 46340
    · rw [if_pos hle, Option.map_some, ih]
      refine if_congr ?_ rfl rfl
      rw [List.forall_mem_cons]
      exact (and_iff_right hle).symm
    · rw [if_neg hle, Option.map_none, hnone, if_neg fun hall => hle (hall x List.mem_cons_self)]

/-- **Main theorem.** The unrolled loop does what the plain one does, but for the last one to three pairs, at which it
overflows for a magnitude above 46340. -/
theorem magnitude_power_uc8_unrolled (xs : List (BitVec 16)) :
    magnitude_power_uc8_lookup_unroll_4 mag_table xs =
      if ∀ x ∈ xs.drop (4 * (xs.length / 4)), (mag_table x).toNat ≤ 46340
        then some (magnitude_power_uc8_lookup mag_table xs) else none := by
  have hturns : turns 4 (lookupTurn mag_table) (xs.length / 4) ([], 0, 0) xs =
      ([] ++ xs.take (4 * (xs.length / 4))).foldl (lookupOne mag_table) ([], 0, 0) :=
    turns_rule (P := fun s taken => s = taken.foldl (lookupOne mag_table) ([], 0, 0))
      (fun s taken part hs hpart => by rw [lookupTurn_eq mag_table s hpart, hs, List.foldl_append])
      (Nat.mul_div_le xs.length 4) rfl
  rw [magnitude_power_uc8_lookup_unroll_4, unrolled, hturns, foldl_unrolledOne, List.nil_append, ← List.foldl_append,
    List.take_append_drop]
  split
  · rfl
  · rfl

/-- **Main theorem.** One pass does what the two do. -/
theorem magnitude_power_uc8_passes (xs : List (BitVec 16)) :
    magnitude_power_uc8_twopass mag_table xs = magnitude_power_uc8_lookup mag_table xs := by
  have hout : magnitude_uc8_lookup mag_table xs = xs.map mag_table := by
    refine foldl_all (Q := fun out taken => out = taken.map mag_table) (fun out taken x hout => ?_) rfl xs
    rw [hout, List.map_append, List.map_singleton]
  have hsums : xs.foldl (lookupOne mag_table) ([], 0, 0) = (xs.map mag_table, sums64 (xs.map mag_table)) := by
    refine foldl_all (Q := fun s taken => s = (taken.map mag_table, sums64 (taken.map mag_table)))
      (fun s taken x hs => ?_) rfl xs
    rw [hs, List.map_append, List.map_singleton, sums64_concat]
    rfl
  rw [magnitude_power_uc8_twopass, hout, magnitude_power_uc8_lookup, hsums, means, mean_power_u16_u64, List.length_map]
  refine Prod.ext rfl (Prod.ext ?_ ?_)
  · exact div_right_comm _ _ _
  · show _ / _ / _ / _ = _ / _ / _ / _
    rw [div_right_comm _ (65536 : ℚ) (xs.length : ℚ), div_right_comm _ (65536 : ℚ) (xs.length : ℚ)]

end Magnitude

end RbFeeder.Dsp
