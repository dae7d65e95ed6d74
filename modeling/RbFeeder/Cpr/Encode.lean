import RbFeeder.Cpr.Decode
import RbFeeder.Lib.Grid

/-! The standard's encoder, which the decoders are to invert.

This is the abstract side: what an aircraft sends for its position. Airborne positions
divide 360 degrees into zones, surface positions 90; the even grid has 60 zones of
latitude and the odd one 59, and the zones of longitude are counted at the quantised
latitude. `Recovers` is what a decoder is expected to give back. -/
namespace RbFeeder.Cpr
open Grid

/-- The degrees the zones divide. -/
def span (surface : Bool) : ℚ := if surface then 90 else 360

/-- The zones of latitude. -/
def latZones (odd : Bool) : ℤ := if odd then 59 else 60

/-- The size of a zone of latitude. -/
def dlat (surface odd : Bool) : ℚ := span surface / latZones odd

/-- The word sent for the coordinate `x` with zones of size `d`. -/
def encode (d x : ℚ) : ℤ := ⌊131072 * Int.fract (x / d) + 1 / 2⌋ % 131072

/-- The coordinate the word stands for. -/
def quantised (d x : ℚ) : ℚ := d * (⌊x / d⌋ + ⌊131072 * Int.fract (x / d) + 1 / 2⌋ / 131072)

/-- The size of a zone of longitude, at the quantised latitude. -/
def dlon (surface odd : Bool) (lat : ℚ) : ℚ :=
  span surface /
    max (cprNLFunction (quantised (dlat surface odd) lat) - if odd then 1 else 0) 1

def encodeLat (surface odd : Bool) (lat : ℚ) : ℤ := encode (dlat surface odd) lat

def encodeLon (surface odd : Bool) (lat lon : ℚ) : ℤ := encode (dlon surface odd lat) lon

/-- Half a quantum in each coordinate; the longitude modulo 360. -/
def Recovers (surface odd : Bool) (lat lon : ℚ) (out : ℚ × ℚ) : Prop :=
  |out.1 - lat| ≤ dlat surface odd / 2 ^ 18 ∧
    ∃ k : ℤ, |out.2 - lon - 360 * k| ≤ dlon surface odd lat / 2 ^ 18

/-! ### Grid points -/

theorem encode_eq (d x : ℚ) : encode d x = word 131072 (x / d) := by
  rw [← word_eq]
  norm_num [encode]

theorem quantised_eq (d x : ℚ) : quantised d x = d * (point 131072 (x / d) / 131072) := by
  have hpoint := floor_fract_eq 131072 (x / d)
  push_cast at hpoint
  rw [quantised, hpoint]
  push_cast
  ring

/-- The coordinate as the decoders put it together: zone and word. -/
theorem quantised_eq_zone (d x : ℚ) :
    quantised d x = d * ((point 131072 (x / d) / 131072 : ℤ) + (encode d x : ℚ) / 131072) := by
  have hzone := zone_add_word (show 0 < 131072 by decide) (x / d)
  push_cast at hzone
  rw [quantised_eq, encode_eq]
  exact congrArg (d * ·) hzone.symm

theorem abs_quantised_sub_le {d : ℚ} (hd : 0 < d) (x : ℚ) : |quantised d x - x| ≤ d / 2 ^ 18 := by
  have hpoint := abs_point_div_sub_le (show 0 < 131072 by decide) (x / d)
  have hx : quantised d x - x = d * (point 131072 (x / d) / (131072 : ℕ) - x / d) := by
    rw [quantised_eq, mul_sub, mul_div_cancel₀ x hd.ne']
    push_cast
    ring
  rw [hx, abs_mul, abs_of_pos hd]
  calc d * |(point 131072 (x / d) : ℚ) / (131072 : ℕ) - x / d|
      ≤ d * (1 / (2 * (131072 : ℕ))) := mul_le_mul_of_nonneg_left hpoint hd.le
    _ = d / 2 ^ 18 := by
      push_cast
      ring

/-- Near a coordinate by half a quantum more is near it after quantisation. -/
theorem abs_quantised_lt {d x c r : ℚ} (hd : 0 < d) (h : |x - c| < r - d / 2 ^ 18) :
    |quantised d x - c| < r := by
  have hpoint := abs_quantised_sub_le hd x
  have htriangle := abs_sub_le (quantised d x) x c
  linarith

/-- The same on another turn. -/
theorem abs_turn_lt {d x c r : ℚ} {k : ℤ} (hd : 0 < d) (h : |x - c - 360 * k| < r - d / 2 ^ 18) :
    |quantised d x - 360 * k - c| < r := by
  rw [sub_sub] at h ⊢
  rw [add_comm]
  exact abs_quantised_lt hd h

theorem span_pos (surface : Bool) : 0 < span surface := by
  cases surface <;> norm_num [span]

theorem latZones_pos (odd : Bool) : 0 < latZones odd := by
  cases odd <;> decide

theorem dlat_pos (surface odd : Bool) : 0 < dlat surface odd := by
  have hzones : (0 : ℚ) < latZones odd := by exact_mod_cast latZones_pos odd
  exact div_pos (span_pos surface) hzones

theorem dlon_eq (surface odd : Bool) (lat : ℚ) :
    dlon surface odd lat =
      cprDlonFunction (quantised (dlat surface odd) lat) odd surface := by
  rw [dlon, cprDlonFunction, cprNFunction_eq, span]

theorem dlon_pos (surface odd : Bool) (lat : ℚ) : 0 < dlon surface odd lat := by
  rw [dlon_eq]
  exact cprDlonFunction_pos _ odd surface

/-- The number of zones of longitude of a grid. -/
def lonZones (surface odd : Bool) (lat : ℚ) : ℤ :=
  cprNFunction (quantised (dlat surface odd) lat) odd

theorem dlon_eq_div (surface odd : Bool) (lat : ℚ) :
    dlon surface odd lat = span surface / lonZones surface odd lat := dlon_eq surface odd lat

theorem lonZones_pos (surface odd : Bool) (lat : ℚ) : 0 < lonZones surface odd lat :=
  cprNFunction_pos _ odd

/-- The grid point of the north pole. -/
def polePoint (surface odd : Bool) : ℤ := (if surface then 131072 else 32768) * latZones odd

theorem dlat_polePoint (surface odd : Bool) :
    dlat surface odd * (polePoint surface odd / 131072) = 90 := by
  cases surface <;> cases odd <;> norm_num [dlat, span, latZones, polePoint]

theorem le_of_dlat_mul_le {surface odd : Bool} {x y : ℚ}
    (h : dlat surface odd * x ≤ dlat surface odd * y) : x ≤ y :=
  le_of_mul_le_mul_left h (dlat_pos surface odd)

/-- A latitude is not quantised beyond the poles. -/
theorem quantised_mem {surface odd : Bool} {lat : ℚ} (hlat : -90 ≤ lat ∧ lat ≤ 90) :
    -90 ≤ quantised (dlat surface odd) lat ∧ quantised (dlat surface odd) lat ≤ 90 := by
  have hd := dlat_pos surface odd
  have hpole := dlat_polePoint surface odd
  have hx : dlat surface odd * (lat / dlat surface odd) = lat := mul_div_cancel₀ lat hd.ne'
  rw [quantised_eq]
  constructor
  · have hsouth : -(polePoint surface odd / 131072 : ℚ) ≤ lat / dlat surface odd := by
      apply le_of_dlat_mul_le
      rw [mul_neg, hpole, hx]
      exact hlat.1
    have hpoint : -polePoint surface odd ≤ point 131072 (lat / dlat surface odd) := by
      apply le_point
      push_cast
      linarith
    have hpoint' : -(polePoint surface odd : ℚ) ≤ point 131072 (lat / dlat surface odd) := by
      exact_mod_cast hpoint
    calc (-90 : ℚ) = dlat surface odd * (-(polePoint surface odd) / 131072) := by
          rw [neg_div, mul_neg, hpole]
      _ ≤ _ := by gcongr
  · have hnorth : lat / dlat surface odd ≤ polePoint surface odd / 131072 := by
      apply le_of_dlat_mul_le
      rw [hpole, hx]
      exact hlat.2
    have hpoint : point 131072 (lat / dlat surface odd) ≤ polePoint surface odd := by
      apply point_le
      push_cast
      linarith
    have hpoint' : (point 131072 (lat / dlat surface odd) : ℚ) ≤ polePoint surface odd := by
      exact_mod_cast hpoint
    calc dlat surface odd * (point 131072 (lat / dlat surface odd) / 131072)
        ≤ dlat surface odd * (polePoint surface odd / 131072) := by gcongr
      _ = 90 := hpole

end RbFeeder.Cpr
