import RbFeeder.Asterix.Packet

/-! What a receiver makes of single items.

The units are those of category 21: an altitude in 6.25 ft or a quarter of a flight level,
a position in `180 / 2 ^ 30` degrees, a heading in `360 / 2 ^ 16` degrees, a speed in knots
behind the range exceeded bit. -/
namespace RbFeeder.Asterix
open FixedPoint

/-! ### Numbers -/

/-- A number of two bytes. -/
def number16 : List Byte → BitVec 16
  | [byte0, byte1] => byte0 ++ byte1
  | _ => 0

/-- A number of four bytes. -/
def number32 : List Byte → BitVec 32
  | [byte0, byte1, byte2, byte3] => byte0 ++ byte1 ++ byte2 ++ byte3
  | _ => 0

theorem number16_bytes16 (n : BitVec 16) : number16 (bytes16 n) = n := by
  refine BitVec.eq_of_getLsbD_eq fun i hi => ?_
  simp only [number16, bytes16, BitVec.getLsbD_append, BitVec.getLsbD_setWidth, BitVec.getLsbD_ushiftRight]
  interval_cases i <;> simp

theorem number16_exceedable (n : BitVec 16) : number16 (exceedable false n) = n &&& 0x7fff := by
  refine BitVec.eq_of_getLsbD_eq fun i hi => ?_
  simp only [number16, exceedable, bytes16, mapFirst, writeBit, clearBit, BitVec.getLsbD_append,
    BitVec.getLsbD_and, BitVec.getLsbD_setWidth]
  interval_cases i <;> simp

theorem number32_bytes32 (n : BitVec 32) : number32 (bytes32 n) = n := by
  refine BitVec.eq_of_getLsbD_eq fun i hi => ?_
  simp only [number32, bytes32, bytes24, BitVec.getLsbD_append, BitVec.getLsbD_setWidth,
    BitVec.getLsbD_ushiftRight]
  interval_cases i <;> simp

/-! ### Items -/

/-- I021/140 in feet. -/
def geometricHeight (data : List Byte) : ℚ := (number16 data).toInt * (25 / 4)

/-- I021/145 in feet, a hundred to a flight level. -/
def flightLevel (data : List Byte) : ℚ := (number16 data).toInt * (1 / 4) * 100

/-- The unit of I021/131 in degrees. -/
def positionUnit : ℚ := 180 / 2 ^ 30

/-- I021/131: latitude and longitude in degrees. -/
def precisePosition (data : List Byte) : ℚ × ℚ :=
  ((number32 (data.take 4)).toInt * positionUnit, (number32 (data.drop 4)).toInt * positionUnit)

/-- The unit of I021/152 in degrees. -/
def headingUnit : ℚ := 360 / 2 ^ 16

/-- I021/152 in degrees. -/
def magneticHeading (data : List Byte) : ℚ := (number16 data).toNat * headingUnit

/-- I021/151: the range exceeded bit, and the speed in knots. -/
def trueAirSpeed (data : List Byte) : Bool × Nat := ((number16 data).msb, (number16 data).toNat % 2 ^ 15)

/-! ### What the functions make of a value -/

theorem toInt_toInt_of_abs_lt {q : ℚ} {w : Nat} {n : ℤ} (h : |q| ≤ n) (hn : 2 * n < 2 ^ w) :
    (toInt w q).toInt = truncate q := by
  have hbound := abs_le.mp (abs_truncate_le h)
  rw [toInt, BitVec.toInt_ofInt]
  refine Int.bmod_eq_of_le ?_ ?_ <;> push_cast <;> omega

/-- A number reduced to signed 16 bits does not grow. -/
theorem natAbs_bmod_le (a : ℤ) : (a.bmod (2 ^ 16)).natAbs ≤ a.natAbs ∧ (a.bmod (2 ^ 16)).natAbs ≤ 2 ^ 15 := by
  rw [Int.bmod_def]
  split <;> constructor <;> omega

/-- The height is given in hundreds of feet. Decoded it is right up to 100 ft only if it is
not above 100 ft. -/
theorem geometricHeight_iff (altitude : ℤ) :
    |geometricHeight (Call.setGeometricHeight (BitVec.ofInt 16 (altitude.tdiv 100))).data - altitude| ≤ 100 ↔
      |altitude| ≤ 100 := by
  let height : ℤ := (BitVec.ofInt 16 (altitude.tdiv 100)).toInt
  have hheight : height = (altitude.tdiv 100).bmod (2 ^ 16) := BitVec.toInt_ofInt _
  obtain ⟨hsmaller, hshort⟩ := natAbs_bmod_le (altitude.tdiv 100)
  rw [← hheight] at hsmaller hshort
  have hquotient : (height / (625 / 100) : ℚ) = ((4 * height : ℤ) : ℚ) / (25 : ℕ) := by
    push_cast
    ring
  have hbound : |((4 * height : ℤ) : ℚ) / (25 : ℕ)| ≤ (5243 : ℤ) := by
    have habs : |4 * height| ≤ 5243 * 25 := by
      rw [Int.abs_eq_natAbs]
      omega
    rw [abs_div, Nat.abs_cast, div_le_iff₀ (by norm_num), ← Int.cast_abs]
    exact_mod_cast habs
  have htemp : (toInt 16 (height / (625 / 100))).toInt = (4 * height).tdiv 25 := by
    rw [hquotient, toInt_toInt_of_abs_lt hbound (by norm_num), truncate_div]
    rfl
  have hfeet : ((4 * height).tdiv 25 : ℚ) * (25 / 4) - altitude =
      ((25 * (4 * height).tdiv 25 - 4 * altitude : ℤ) : ℚ) / 4 := by
    push_cast
    ring
  rw [Call.data, geometricHeight, number16_bytes16, htemp, hfeet, abs_div,
    abs_of_pos (show (0 : ℚ) < 4 by norm_num), div_le_iff₀ (by norm_num), ← Int.cast_abs]
  have hhundreds : (altitude.tdiv 100).natAbs = altitude.natAbs / 100 := Int.natAbs_tdiv altitude 100
  have hunits : ((4 * height).tdiv 25).natAbs = (4 * height).natAbs / 25 := Int.natAbs_tdiv (4 * height) 25
  norm_cast
  rw [Int.abs_eq_natAbs, Int.abs_eq_natAbs]
  omega

/-- The flight level is passed as it is. -/
theorem toInt_flightLevel {altitude : ℤ} (hlow : -2 ^ 31 ≤ altitude) (hhigh : altitude < 2 ^ 31) :
    (BitVec.ofInt 32 (altitude.tdiv 100)).toInt = altitude.tdiv 100 := by
  have hsmall : (altitude.tdiv 100).natAbs = altitude.natAbs / 100 := Int.natAbs_tdiv altitude 100
  rw [BitVec.toInt_ofInt]
  exact Int.bmod_eq_of_le (by omega) (by omega)

/-- A flight level that is not positive is refused. -/
theorem flightLevel_accepted_iff {altitude : ℤ} (hlow : -2 ^ 31 ≤ altitude) (hhigh : altitude < 2 ^ 31) :
    (Call.setFlightLevel (BitVec.ofInt 32 (altitude.tdiv 100))).accepted ↔ 100 ≤ altitude := by
  rw [Call.accepted, toInt_flightLevel hlow hhigh, decide_eq_true_iff]
  by_cases hpos : 0 ≤ altitude
  · rw [Int.tdiv_eq_ediv_of_nonneg hpos]
    omega
  · have hneg : 0 ≤ (-altitude).tdiv 100 := Int.tdiv_nonneg (by omega) (by omega)
    rw [Int.neg_tdiv] at hneg
    omega

/-- A flight level from 8192 on does not fit. -/
theorem flightLevel_iff {altitude : ℤ} (hlow : 100 ≤ altitude) (hhigh : altitude < 2 ^ 31) :
    |flightLevel (Call.setFlightLevel (BitVec.ofInt 32 (altitude.tdiv 100))).data - altitude| ≤ 100 ↔
      altitude < 819200 := by
  have hpos : 0 ≤ altitude := by omega
  obtain ⟨level, hlevel⟩ : ∃ level : ℤ, level = (4 * (altitude / 100)).bmod (2 ^ 16) := ⟨_, rfl⟩
  have hquotient : ((altitude / 100 : ℤ) / (1 / 4) : ℚ) = ((4 * (altitude / 100) : ℤ) : ℚ) := by
    push_cast
    ring
  have hfeet : (level : ℚ) * (1 / 4) * 100 - altitude = ((25 * level - altitude : ℤ) : ℚ) := by
    push_cast
    ring
  rw [Call.data, flightLevel, number16_bytes16, toInt_flightLevel (by omega) hhigh, Int.tdiv_eq_ediv_of_nonneg hpos,
    hquotient, toInt, truncate_intCast, BitVec.toInt_ofInt, ← hlevel, hfeet, ← Int.cast_abs]
  rw [Int.bmod_def] at hlevel
  norm_cast
  rw [Int.abs_eq_natAbs]
  split at hlevel <;> omega

/-- A coordinate is rounded up too far if it is negative and closer to the unit above it. -/
def Roundable (degrees : ℚ) : Prop :=
  -1 / 2 ≤ degrees / positionUnit ∨ Int.fract (degrees / positionUnit) ≤ 1 / 2

theorem coordinate_iff {degrees : ℚ} (h : |degrees| ≤ 180) :
    |((coordinate 30 degrees).toInt : ℚ) * positionUnit - degrees| ≤ positionUnit ↔ Roundable degrees := by
  have hunit : 0 < positionUnit := by norm_num [positionUnit]
  have hbound : |1 / 2 + degrees / positionUnit| ≤ ((2 ^ 30 + 1 : ℤ) : ℚ) := by
    have hunits : |degrees / positionUnit| ≤ 2 ^ 30 := by
      rw [abs_div, abs_of_pos hunit, div_le_iff₀ hunit]
      refine h.trans (le_of_eq ?_)
      norm_num [positionUnit]
    refine (abs_add_le _ _).trans ?_
    have hhalf : |(1 / 2 : ℚ)| ≤ 1 := by norm_num
    push_cast
    linarith
  have hscaled : (truncate (1 / 2 + degrees / positionUnit) : ℚ) * positionUnit - degrees =
      (truncate (1 / 2 + degrees / positionUnit) - degrees / positionUnit) * positionUnit := by
    rw [sub_mul, div_mul_cancel₀ _ hunit.ne']
  rw [coordinate, ← positionUnit, toInt_toInt_of_abs_lt hbound (by norm_num), hscaled, abs_mul, abs_of_pos hunit,
    mul_le_iff_le_one_left hunit, abs_round_sub_le_one_iff, Roundable]

theorem precisePosition_data (lat lon : ℚ) : precisePosition (Call.setPosWGS84Precision lat lon).data =
    ((coordinate 30 lat).toInt * positionUnit, (coordinate 30 lon).toInt * positionUnit) := by
  have hlat := number32_bytes32 (coordinate 30 lat)
  have hlon := number32_bytes32 (coordinate 30 lon)
  rw [precisePosition, ← hlat, ← hlon]
  rfl

/-- The heading is right up to one unit. -/
theorem magneticHeading_near {heading : ℚ} (h₀ : 0 ≤ heading) (h₁ : heading < 360) :
    |magneticHeading (Call.setMagneticHeading heading).data - heading| ≤ headingUnit := by
  have hunit : 0 < headingUnit := by norm_num [headingUnit]
  have hquotient : heading * 65536 / 360 = heading / headingUnit := by
    rw [headingUnit]
    ring
  have hpos : 0 ≤ heading / headingUnit := div_nonneg h₀ hunit.le
  have hlt : heading / headingUnit < 2 ^ 16 := by
    rw [div_lt_iff₀ hunit]
    exact h₁.trans_eq (by norm_num [headingUnit])
  have hfloor : 0 ≤ truncate (heading / headingUnit) ∧ truncate (heading / headingUnit) < 2 ^ 16 := by
    rw [truncate_of_nonneg hpos, Int.floor_lt]
    exact ⟨Int.floor_nonneg.mpr hpos, by exact_mod_cast hlt⟩
  have htemp : ((toInt 16 (heading / headingUnit)).toNat : ℚ) = truncate (heading / headingUnit) := by
    rw [toInt, BitVec.toNat_ofInt, Int.emod_eq_of_lt hfloor.1 (by exact_mod_cast hfloor.2)]
    exact_mod_cast Int.toNat_of_nonneg hfloor.1
  have hscaled : (truncate (heading / headingUnit) : ℚ) * headingUnit - heading =
      (truncate (heading / headingUnit) - heading / headingUnit) * headingUnit := by
    rw [sub_mul, div_mul_cancel₀ _ hunit.ne']
  rw [Call.data, hquotient, magneticHeading, number16_bytes16, htemp, hscaled, abs_mul, abs_of_pos hunit]
  exact mul_le_of_le_one_left hunit.le (abs_truncate_sub_lt _).le

/-- Of the speed 15 bits are sent. -/
theorem trueAirSpeed_iff (tas : Nat) :
    trueAirSpeed (Call.setTrueAirSpeed 0 (BitVec.ofNat 16 tas)).data = (false, tas) ↔ tas < 2 ^ 15 := by
  have hnumber : (number16 (exceedable false (BitVec.ofNat 16 tas))).toNat = tas % 2 ^ 16 % 2 ^ 15 := by
    rw [number16_exceedable, BitVec.toNat_and, BitVec.toNat_ofNat]
    exact Nat.and_two_pow_sub_one_eq_mod _ 15
  have hmsb : (number16 (exceedable false (BitVec.ofNat 16 tas))).msb = false := by
    rw [BitVec.msb_eq_false_iff_two_mul_lt, hnumber]
    omega
  rw [trueAirSpeed, show (Call.setTrueAirSpeed 0 (BitVec.ofNat 16 tas)).data = exceedable false _ from rfl, hnumber,
    hmsb, Prod.mk.injEq, eq_self_iff_true, true_and]
  omega

end RbFeeder.Asterix
