import Mathlib

/-! Decoding positions: `cpr.c`, with exact rationals for doubles.

A position is sent as two words of 17 bits, the place within a zone of latitude and of
longitude; even and odd messages count the zones differently. `decodeCPRairborne` and
`decodeCPRsurface` find the zones from a message of each kind, `decodeCPRrelative` from
a reference nearby. A flag that C tests for zero is a `Bool`, true for odd messages and
for surface positions; the result is the position, or the return code that is not 0. -/
namespace RbFeeder.Cpr

/-- `cprModInt`: always positive. -/
def cprModInt (a b : ℤ) : ℤ :=
  let res := a.tmod b
  if res < 0 then res + b else res

/-- `fmod`: the quotient is rounded towards zero. -/
def fmod (a b : ℚ) : ℚ := a - b * if 0 ≤ a / b then ⌊a / b⌋ else ⌈a / b⌉

/-- `cprModDouble`. -/
def cprModDouble (a b : ℚ) : ℚ :=
  let res := fmod a b
  if res < 0 then res + b else res

/-- The table of `cprNLFunction`: the first row with a greater latitude counts. -/
def nlTable : List (ℚ × ℤ) :=
  [(10.47047130, 59), (14.82817437, 58), (18.18626357, 57), (21.02939493, 56), (23.54504487, 55),
    (25.82924707, 54), (27.93898710, 53), (29.91135686, 52), (31.77209708, 51), (33.53993436, 50),
    (35.22899598, 49), (36.85025108, 48), (38.41241892, 47), (39.92256684, 46), (41.38651832, 45),
    (42.80914012, 44), (44.19454951, 43), (45.54626723, 42), (46.86733252, 41), (48.16039128, 40),
    (49.42776439, 39), (50.67150166, 38), (51.89342469, 37), (53.09516153, 36), (54.27817472, 35),
    (55.44378444, 34), (56.59318756, 33), (57.72747354, 32), (58.84763776, 31), (59.95459277, 30),
    (61.04917774, 29), (62.13216659, 28), (63.20427479, 27), (64.26616523, 26), (65.31845310, 25),
    (66.36171008, 24), (67.39646774, 23), (68.42322022, 22), (69.44242631, 21), (70.45451075, 20),
    (71.45986473, 19), (72.45884545, 18), (73.45177442, 17), (74.43893416, 16), (75.42056257, 15),
    (76.39684391, 14), (77.36789461, 13), (78.33374083, 12), (79.29428225, 11), (80.24923213, 10),
    (81.19801349, 9), (82.13956981, 8), (83.07199445, 7), (83.99173563, 6), (84.89166191, 5),
    (85.75541621, 4), (86.53536998, 3), (87.00000000, 2)]

/-- `cprNLFunction`. -/
def cprNLFunction (lat : ℚ) : ℤ :=
  let lat := if lat < 0 then -lat else lat
  ((nlTable.find? fun row => lat < row.1).map Prod.snd).getD 1

/-- `cprNFunction`. -/
def cprNFunction (lat : ℚ) (fflag : Bool) : ℤ :=
  let nl := cprNLFunction lat - if fflag then 1 else 0
  if nl < 1 then 1 else nl

/-- `cprDlonFunction`. -/
def cprDlonFunction (lat : ℚ) (fflag surface : Bool) : ℚ :=
  (if surface then 90 else 360) / cprNFunction lat fflag

/-- The latitude index `j`. -/
def latitudeIndex (lat0 lat1 : ℚ) : ℤ := ⌊(59 * lat0 - 60 * lat1) / 131072 + 1 / 2⌋

/-- The longitude index `m`. -/
def longitudeIndex (rlat lon0 lon1 : ℚ) : ℤ :=
  ⌊(lon0 * (cprNLFunction rlat - 1) - lon1 * cprNLFunction rlat) / 131072 + 1 / 2⌋

/-- The longitude from the zone that `m` stands for. -/
def zoneLongitude (rlat lon0 lon1 : ℚ) (fflag surface : Bool) : ℚ :=
  cprDlonFunction rlat fflag surface *
    (cprModInt (longitudeIndex rlat lon0 lon1) (cprNFunction rlat fflag) +
      (if fflag then lon1 else lon0) / 131072)

/-- Renormalize to -180 .. +180. -/
def renormalize (rlon : ℚ) : ℚ := rlon - ⌊(rlon + 180) / 360⌋ * 360

/-- What both global decoders do from the latitudes on; `adjust` is applied to the
longitude before it is renormalized. -/
def decodeFrom (rlat0 rlat1 lon0 lon1 : ℚ) (fflag surface : Bool) (adjust : ℚ → ℚ) :
    Except ℤ (ℚ × ℚ) :=
  if rlat0 < -90 ∨ rlat0 > 90 ∨ rlat1 < -90 ∨ rlat1 > 90 then .error (-2)
  else if cprNLFunction rlat0 ≠ cprNLFunction rlat1 then .error (-1)
  else
    let rlat := if fflag then rlat1 else rlat0
    .ok (rlat, renormalize (adjust (zoneLongitude rlat lon0 lon1 fflag surface)))

/-- The hemisphere of `decodeCPRairborne`. -/
def airborneLatitude (rlat : ℚ) : ℚ := if rlat ≥ 270 then rlat - 360 else rlat

/-- `decodeCPRairborne`. -/
def decodeCPRairborne (even_cprlat even_cprlon odd_cprlat odd_cprlon : ℤ) (fflag : Bool) :
    Except ℤ (ℚ × ℚ) :=
  let j := latitudeIndex even_cprlat odd_cprlat
  let rlat0 := airborneLatitude (360 / 60 * (cprModInt j 60 + even_cprlat / 131072))
  let rlat1 := airborneLatitude (360 / 59 * (cprModInt j 59 + odd_cprlat / 131072))
  decodeFrom rlat0 rlat1 even_cprlon odd_cprlon fflag false id

/-- The hemisphere of `decodeCPRsurface`: the one closest to the reference. The
latitudes -90, 0 and +90 all encode to zero. -/
def surfaceLatitude (reflat rlat : ℚ) : ℚ :=
  if rlat = 0 then
    if reflat < -45 then -90 else if reflat > 45 then 90 else rlat
  else if rlat - reflat > 45 then rlat - 90
  else rlat

/-- The quadrant of `decodeCPRsurface`: the one closest to the reference. -/
def surfaceLongitude (reflon rlon : ℚ) : ℚ := rlon + ⌊(reflon - rlon + 45) / 90⌋ * 90

/-- `decodeCPRsurface`. -/
def decodeCPRsurface (reflat reflon : ℚ) (even_cprlat even_cprlon odd_cprlat odd_cprlon : ℤ)
    (fflag : Bool) : Except ℤ (ℚ × ℚ) :=
  let j := latitudeIndex even_cprlat odd_cprlat
  let rlat0 := surfaceLatitude reflat (90 / 60 * (cprModInt j 60 + even_cprlat / 131072))
  let rlat1 := surfaceLatitude reflat (90 / 59 * (cprModInt j 59 + odd_cprlat / 131072))
  decodeFrom rlat0 rlat1 even_cprlon odd_cprlon fflag true (surfaceLongitude reflon)

/-- The index of the cell nearest to the reference, for a fraction of a cell of size `dl`. -/
def cellIndex (ref dl fraction : ℚ) : ℤ :=
  ⌊ref / dl⌋ + ⌊1 / 2 + cprModDouble ref dl / dl - fraction⌋

/-- `decodeCPRrelative`. -/
def decodeCPRrelative (reflat reflon : ℚ) (cprlat cprlon : ℤ) (fflag surface : Bool) :
    Except ℤ (ℚ × ℚ) :=
  let fractional_lat : ℚ := cprlat / 131072
  let fractional_lon : ℚ := cprlon / 131072
  let AirDlat : ℚ := (if surface then 90 else 360) / (if fflag then 59 else 60)
  let j := cellIndex reflat AirDlat fractional_lat
  let rlat := AirDlat * (j + fractional_lat)
  let rlat := if rlat ≥ 270 then rlat - 360 else rlat
  if rlat < -90 ∨ rlat > 90 then .error (-1)
  else if |rlat - reflat| > AirDlat / 2 then .error (-1)
  else
    let AirDlon := cprDlonFunction rlat fflag surface
    let m := cellIndex reflon AirDlon fractional_lon
    let rlon := AirDlon * (m + fractional_lon)
    let rlon := if rlon > 180 then rlon - 360 else rlon
    if |rlon - reflon| > AirDlon / 2 then .error (-1)
    else .ok (rlat, rlon)

/-! ### The arithmetic -/

theorem cprModInt_eq {a b : ℤ} (hb : 0 < b) : cprModInt a b = a % b := by
  have hnonneg := Int.emod_nonneg a hb.ne'
  have hlt := Int.emod_lt_of_pos a hb
  have hrem : a.tmod b = a % b ∨ a.tmod b = a % b - b := by
    rw [Int.tmod_eq_emod]
    split <;> omega
  simp only [cprModInt]
  split <;> omega

theorem fmod_of_nonneg {a b : ℚ} (hb : 0 < b) (h : 0 ≤ a / b) :
    fmod a b = b * Int.fract (a / b) := by
  rw [fmod, if_pos h, Int.fract, mul_sub, mul_div_cancel₀ a hb.ne']

theorem fmod_of_neg {a b : ℚ} (hb : 0 < b) (h : ¬ 0 ≤ a / b) :
    fmod a b = b * Int.fract (a / b) - b ∨ fmod a b = 0 ∧ Int.fract (a / b) = 0 := by
  have ha : b * (a / b) = a := mul_div_cancel₀ a hb.ne'
  rw [fmod, if_neg h]
  by_cases hfract : Int.fract (a / b) = 0
  · right
    have hfloor : (⌊a / b⌋ : ℚ) = a / b := by
      have := Int.floor_add_fract (a / b)
      rwa [hfract, add_zero] at this
    have hceil : (⌈a / b⌉ : ℚ) = a / b := by
      rw [← hfloor, Int.ceil_intCast]
    refine ⟨?_, hfract⟩
    rw [hceil, ha, sub_self]
  · left
    rw [Int.ceil_eq_add_one_sub_fract hfract]
    linarith

/-- The remainder in units of the divisor. -/
theorem cprModDouble_div {a b : ℚ} (hb : 0 < b) : cprModDouble a b / b = Int.fract (a / b) := by
  have hfract := Int.fract_nonneg (a / b)
  have hlt := Int.fract_lt_one (a / b)
  have hmul : ∀ x : ℚ, b * x / b = x := fun x => mul_div_cancel_left₀ x hb.ne'
  simp only [cprModDouble]
  by_cases h : 0 ≤ a / b
  · rw [fmod_of_nonneg hb h, if_neg (not_lt.mpr (by positivity)), hmul]
  · obtain hres | ⟨hres, hzero⟩ := fmod_of_neg hb h
    · have hneg : b * Int.fract (a / b) - b < 0 := by
        have := mul_lt_mul_of_pos_left hlt hb
        linarith
      rw [hres, if_pos hneg, sub_add_cancel, hmul]
    · rw [hres, if_neg (lt_irrefl 0), zero_div, hzero]

/-! ### Zones of longitude -/

theorem nlTable_mem : ∀ row ∈ nlTable, 1 ≤ row.2 ∧ row.2 ≤ 59 := by decide

/-- There are between 1 and 59 zones. -/
theorem cprNLFunction_mem (lat : ℚ) : 1 ≤ cprNLFunction lat ∧ cprNLFunction lat ≤ 59 := by
  rw [cprNLFunction]
  cases h : nlTable.find? fun row => (if lat < 0 then -lat else lat) < row.1 with
  | some row => exact nlTable_mem row (List.mem_of_find?_eq_some h)
  | none => exact ⟨le_refl 1, by decide⟩

theorem cprNFunction_eq (lat : ℚ) (fflag : Bool) :
    cprNFunction lat fflag = max (cprNLFunction lat - if fflag then 1 else 0) 1 := by
  simp only [cprNFunction]
  split <;> omega

/-- No division by zero. -/
theorem cprNFunction_pos (lat : ℚ) (fflag : Bool) : 0 < cprNFunction lat fflag := by
  rw [cprNFunction_eq]
  exact lt_of_lt_of_le zero_lt_one (le_max_right _ 1)

theorem cprDlonFunction_pos (lat : ℚ) (fflag surface : Bool) :
    0 < cprDlonFunction lat fflag surface := by
  have hn : (0 : ℚ) < cprNFunction lat fflag := by exact_mod_cast cprNFunction_pos lat fflag
  unfold cprDlonFunction
  split <;> positivity

end RbFeeder.Cpr
