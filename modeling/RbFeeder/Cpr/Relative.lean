import RbFeeder.Cpr.Encode

/-! Decoding relative to a reference.

The decoder takes the one longitude and the one latitude in the cell around the
reference that the words stand for (`nearest_inCell`, `nearest_eq_of_inCell`). A
position close enough is found again, but the turn is handled on one side only: a
longitude beyond +180 is moved before its distance from the reference is checked, and
then refused; one below -180 is not moved and is returned. `decodeCPRrelative_iff` says
when neither happens. -/
namespace RbFeeder.Cpr
open Grid

/-- What a decoder may return: a latitude and a longitude in range. -/
def InRange (out : ℚ × ℚ) : Prop := (-90 ≤ out.1 ∧ out.1 ≤ 90) ∧ (-180 ≤ out.2 ∧ out.2 ≤ 180)

/-- The coordinate `c` is in the cell around the reference and the word `w` stands for it. -/
def InCell (ref d : ℚ) (w : ℤ) (c : ℚ) : Prop :=
  ref - d / 2 < c ∧ c ≤ ref + d / 2 ∧ ∃ j : ℤ, c = d * (j + w / 131072)

/-- The coordinate from the cell index. -/
def nearest (ref d : ℚ) (w : ℤ) : ℚ := d * (cellIndex ref d (w / 131072) + w / 131072)

theorem cellIndex_eq {d : ℚ} (hd : 0 < d) (ref y : ℚ) :
    cellIndex ref d y = ⌊ref / d⌋ + ⌊1 / 2 + Int.fract (ref / d) - y⌋ := by
  rw [cellIndex, cprModDouble_div hd]

theorem mul_cell_low {d : ℚ} (hd : 0 < d) (ref : ℚ) : d * (ref / d - 1 / 2) = ref - d / 2 := by
  field_simp

theorem mul_cell_high {d : ℚ} (hd : 0 < d) (ref : ℚ) : d * (ref / d + 1 / 2) = ref + d / 2 := by
  field_simp

theorem nearest_inCell {d : ℚ} (hd : 0 < d) (ref : ℚ) (w : ℤ) : InCell ref d w (nearest ref d w) := by
  obtain ⟨hlt, hle⟩ := nearest_mem (ref / d) ((w : ℚ) / 131072)
  rw [← cellIndex_eq hd] at hlt hle
  have hlt' := mul_lt_mul_of_pos_left hlt hd
  have hle' := mul_le_mul_of_nonneg_left hle hd.le
  rw [mul_cell_low hd] at hlt'
  rw [mul_cell_high hd] at hle'
  exact ⟨hlt', hle', _, rfl⟩

/-- There is only one. -/
theorem nearest_eq_of_inCell {ref d c : ℚ} {w : ℤ} (hd : 0 < d) (h : InCell ref d w c) :
    nearest ref d w = c := by
  obtain ⟨hlt, hle, j, rfl⟩ := h
  rw [← mul_cell_low hd] at hlt
  rw [← mul_cell_high hd] at hle
  have hj : cellIndex ref d (w / 131072) = j := by
    rw [cellIndex_eq hd]
    exact nearest_eq (lt_of_mul_lt_mul_left hlt hd.le) (le_of_mul_le_mul_left hle hd)
  rw [nearest, hj]

theorem abs_le_of_inCell {ref d c : ℚ} {w : ℤ} (h : InCell ref d w c) : |c - ref| ≤ d / 2 := by
  obtain ⟨hlt, hle, -⟩ := h
  rw [abs_le]
  constructor <;> linarith

/-- A quantised coordinate near the reference, up to whole cells, is the one in its cell. -/
theorem inCell_quantised {ref d x : ℚ} (n : ℤ) (hnear : |quantised d x - d * n - ref| < d / 2) :
    InCell ref d (encode d x) (quantised d x - d * n) := by
  obtain ⟨hlt, hle⟩ := abs_lt.mp hnear
  refine ⟨by linarith, by linarith, point 131072 (x / d) / 131072 - n, ?_⟩
  rw [quantised_eq_zone]
  push_cast
  ring

/-! ### The decoder -/

/-- The longitude as it is checked. -/
def oneSided (rlon : ℚ) : ℚ := if rlon > 180 then rlon - 360 else rlon

/-- The decoder from the latitude on. -/
def decodeLongitude (rlat reflon : ℚ) (cprlon : ℤ) (fflag surface : Bool) : Except ℤ (ℚ × ℚ) :=
  let rlon := nearest reflon (cprDlonFunction rlat fflag surface) cprlon
  if |oneSided rlon - reflon| > cprDlonFunction rlat fflag surface / 2 then .error (-1)
  else .ok (rlat, oneSided rlon)

theorem dlat_le (surface odd : Bool) : dlat surface odd ≤ 7 := by
  cases surface <;> cases odd <;> norm_num [dlat, span, latZones]

/-- The latitude is only ever refused for being beyond a pole. -/
theorem decodeCPRrelative_eq {reflat : ℚ} (href : reflat ≤ 90) (reflon : ℚ) (cprlat cprlon : ℤ)
    (fflag surface : Bool) :
    decodeCPRrelative reflat reflon cprlat cprlon fflag surface =
      if nearest reflat (dlat surface fflag) cprlat < -90 ∨
          nearest reflat (dlat surface fflag) cprlat > 90 then .error (-1)
      else decodeLongitude (nearest reflat (dlat surface fflag) cprlat) reflon cprlon fflag
        surface := by
  have hd : (if surface then (90 : ℚ) else 360) / (if fflag then 59 else 60) = dlat surface fflag := by
    cases surface <;> cases fflag <;> rfl
  have hcell := nearest_inCell (dlat_pos surface fflag) reflat cprlat
  have hfar : ¬ nearest reflat (dlat surface fflag) cprlat ≥ 270 := by
    have := dlat_le surface fflag
    have := hcell.2.1
    linarith
  have hclose : ¬ |nearest reflat (dlat surface fflag) cprlat - reflat| > dlat surface fflag / 2 :=
    not_lt.mpr (abs_le_of_inCell hcell)
  have hnearest : ∀ (ref d : ℚ) (w : ℤ),
      d * (cellIndex ref d (w / 131072) + w / 131072) = nearest ref d w := fun _ _ _ => rfl
  simp only [decodeCPRrelative, hd, hnearest, if_neg hfar, if_neg hclose]
  rfl

/-! ### The longitude -/

theorem decodeLongitude_ok {rlat reflon e : ℚ} {cprlon : ℤ} {fflag surface : Bool} {out : ℚ × ℚ}
    (hcell : InCell reflon (cprDlonFunction rlat fflag surface) cprlon e)
    (hout : decodeLongitude rlat reflon cprlon fflag surface = .ok out) :
    out = (rlat, oneSided e) := by
  have hnearest := nearest_eq_of_inCell (cprDlonFunction_pos rlat fflag surface) hcell
  simp only [decodeLongitude, hnearest] at hout
  split at hout
  · exact absurd hout (by simp)
  · exact (Except.ok.inj hout).symm

/-- A longitude of the reference's turn that is not beyond +180 is returned. -/
theorem decodeLongitude_of_le {rlat reflon e : ℚ} {cprlon : ℤ} {fflag surface : Bool}
    (hcell : InCell reflon (cprDlonFunction rlat fflag surface) cprlon e) (he : e ≤ 180) :
    decodeLongitude rlat reflon cprlon fflag surface = .ok (rlat, e) := by
  have hnearest := nearest_eq_of_inCell (cprDlonFunction_pos rlat fflag surface) hcell
  have hsame : oneSided e = e := if_neg (not_lt.mpr he)
  have hclose : ¬ |e - reflon| > cprDlonFunction rlat fflag surface / 2 :=
    not_lt.mpr (abs_le_of_inCell hcell)
  simp only [decodeLongitude, hnearest, hsame, if_neg hclose]

theorem cprDlonFunction_le (lat : ℚ) (fflag surface : Bool) :
    cprDlonFunction lat fflag surface ≤ 360 := by
  have hn : (1 : ℚ) ≤ cprNFunction lat fflag := by exact_mod_cast cprNFunction_pos lat fflag
  rw [cprDlonFunction, div_le_iff₀ (by linarith)]
  cases surface
  · simp only [Bool.false_eq_true, if_false]
    linarith
  · simp only [if_true]
    linarith

/-- One that is beyond +180 is refused, half a turn from the reference excepted. -/
theorem decodeLongitude_of_gt {rlat reflon e : ℚ} {cprlon : ℤ} {fflag surface : Bool}
    (hcell : InCell reflon (cprDlonFunction rlat fflag surface) cprlon e) (he : e > 180)
    (hhalf : e - reflon < 180) :
    decodeLongitude rlat reflon cprlon fflag surface = .error (-1) := by
  have hnearest := nearest_eq_of_inCell (cprDlonFunction_pos rlat fflag surface) hcell
  have hmoved : oneSided e = e - 360 := if_pos he
  have hle := cprDlonFunction_le rlat fflag surface
  have hfar : |e - 360 - reflon| > cprDlonFunction rlat fflag surface / 2 := by
    rw [gt_iff_lt, lt_abs]
    right
    linarith
  simp only [decodeLongitude, hnearest, hmoved, if_pos hfar]

/-- What is returned is in range unless it lies below -180. -/
theorem decodeLongitude_inRange {rlat reflon e : ℚ} {cprlon : ℤ} {fflag surface : Bool}
    (hlat : -90 ≤ rlat ∧ rlat ≤ 90) (href : reflon ≤ 180)
    (hcell : InCell reflon (cprDlonFunction rlat fflag surface) cprlon e) :
    (∀ out, decodeLongitude rlat reflon cprlon fflag surface = .ok out → InRange out) ↔ -180 ≤ e := by
  by_cases he : e ≤ 180
  · rw [decodeLongitude_of_le hcell he]
    constructor
    · exact fun hrange => (hrange _ rfl).2.1
    · intro hlow out hout
      rw [← Except.ok.inj hout]
      exact ⟨hlat, hlow, he⟩
  · refine ⟨fun _ => by linarith, fun _ out hout => ?_⟩
    have hmoved : oneSided e = e - 360 := if_pos (not_le.mp he)
    have hle := cprDlonFunction_le rlat fflag surface
    have heast := hcell.2.1
    rw [decodeLongitude_ok hcell hout, hmoved]
    refine ⟨hlat, ?_, ?_⟩
    · show -180 ≤ e - 360
      linarith
    · show e - 360 ≤ 180
      linarith

/-! ### When the decoder keeps its promise -/

/-- `decodeCPRrelative` on the words that are sent for a position. -/
def decodedRelative (reflat reflon lat lon : ℚ) (fflag surface : Bool) : Except ℤ (ℚ × ℚ) :=
  decodeCPRrelative reflat reflon (encodeLat surface fflag lat) (encodeLon surface fflag lat lon)
    fflag surface

/-- The latitude of a position near the reference. -/
theorem decodedRelative_eq {reflat lat : ℚ} {fflag surface : Bool} (href : reflat ≤ 90)
    (hlat : -90 ≤ lat ∧ lat ≤ 90)
    (hnear : |lat - reflat| < dlat surface fflag / 2 - dlat surface fflag / 2 ^ 18)
    (reflon lon : ℚ) :
    decodedRelative reflat reflon lat lon fflag surface =
      decodeLongitude (quantised (dlat surface fflag) lat) reflon
        (encodeLon surface fflag lat lon) fflag surface := by
  have hd := dlat_pos surface fflag
  have hcell : InCell reflat (dlat surface fflag) (encodeLat surface fflag lat)
      (quantised (dlat surface fflag) lat) := by
    have hsame : quantised (dlat surface fflag) lat - dlat surface fflag * ((0 : ℤ) : ℚ) =
        quantised (dlat surface fflag) lat := by
      push_cast
      ring
    rw [← hsame]
    apply inCell_quantised
    rw [hsame]
    exact abs_quantised_lt hd hnear
  have hmem : ¬ (quantised (dlat surface fflag) lat < -90 ∨ quantised (dlat surface fflag) lat > 90) := by
    obtain ⟨hsouth, hnorth⟩ : -90 ≤ quantised (dlat surface fflag) lat ∧ _ := quantised_mem hlat
    intro hout
    obtain hout | hout := hout <;> linarith
  rw [decodedRelative, decodeCPRrelative_eq href, nearest_eq_of_inCell hd hcell, if_neg hmem]

/-- A turn is a whole number of cells. -/
theorem turn_eq_cells (surface fflag : Bool) (lat : ℚ) (k : ℤ) :
    360 * (k : ℚ) = dlon surface fflag lat *
      ((lonZones surface fflag lat * (if surface then 4 else 1) * k : ℤ) : ℚ) := by
  have hzones : (lonZones surface fflag lat : ℚ) ≠ 0 := by
    exact_mod_cast (lonZones_pos surface fflag lat).ne'
  rw [dlon_eq_div]
  push_cast
  rw [mul_assoc, ← mul_assoc, div_mul_cancel₀ _ hzones]
  cases surface
  · norm_num [span]
  · norm_num [span]
    ring

/-- The quantised longitude on the turn of the reference is in the reference's cell. -/
theorem inCell_turn {reflon lat lon : ℚ} {k : ℤ} {fflag surface : Bool}
    (hclose : |quantised (dlon surface fflag lat) lon - 360 * k - reflon| <
      dlon surface fflag lat / 2) :
    InCell reflon (dlon surface fflag lat) (encodeLon surface fflag lat lon)
      (quantised (dlon surface fflag lat) lon - 360 * k) := by
  rw [turn_eq_cells surface fflag lat k] at hclose ⊢
  exact inCell_quantised _ hclose

/-- A position near the reference is decoded as it should be. -/
def Decoded (reflat reflon lat lon : ℚ) (fflag surface : Bool) : Prop :=
  ∃ out, decodedRelative reflat reflon lat lon fflag surface = .ok out ∧
    Recovers surface fflag lat lon out ∧ InRange out

/-- A position near the reference is decoded exactly if its longitude, taken on the
reference's turn, is not beyond the antimeridian. -/
theorem decoded_iff {reflat reflon lat lon : ℚ} {k : ℤ} {fflag surface : Bool} (href : reflat ≤ 90)
    (hlat : -90 ≤ lat ∧ lat ≤ 90)
    (hnear : |lat - reflat| < dlat surface fflag / 2 - dlat surface fflag / 2 ^ 18)
    (hnear' : |lon - reflon - 360 * k| <
      dlon surface fflag lat / 2 - dlon surface fflag lat / 2 ^ 18) :
    Decoded reflat reflon lat lon fflag surface ↔
      -180 ≤ quantised (dlon surface fflag lat) lon - 360 * k ∧
        quantised (dlon surface fflag lat) lon - 360 * k ≤ 180 := by
  have hclose := abs_turn_lt (dlon_pos surface fflag lat) hnear'
  have hcell := inCell_turn hclose
  have hrecovers : Recovers surface fflag lat lon (quantised (dlat surface fflag) lat,
      quantised (dlon surface fflag lat) lon - 360 * k) := by
    refine ⟨abs_quantised_sub_le (dlat_pos surface fflag) lat, -k, ?_⟩
    have hturn : quantised (dlon surface fflag lat) lon - 360 * k - lon - 360 * ((-k : ℤ) : ℚ) =
        quantised (dlon surface fflag lat) lon - lon := by
      push_cast
      ring
    show |quantised (dlon surface fflag lat) lon - 360 * k - lon - 360 * ((-k : ℤ) : ℚ)| ≤ _
    rw [hturn]
    exact abs_quantised_sub_le (dlon_pos surface fflag lat) lon
  generalize quantised (dlon surface fflag lat) lon - 360 * k = e at hclose hcell hrecovers ⊢
  rw [dlon_eq] at hclose hcell
  rw [Decoded, decodedRelative_eq href hlat hnear]
  by_cases he : e ≤ 180
  · rw [decodeLongitude_of_le hcell he]
    constructor
    · intro ⟨out, hout, _, hrange⟩
      rw [← Except.ok.inj hout] at hrange
      exact hrange.2
    · intro ⟨hlow, _⟩
      exact ⟨_, rfl, hrecovers, quantised_mem hlat, hlow, he⟩
  · have hhalf : e - reflon < 180 := by
      have := cprDlonFunction_le (quantised (dlat surface fflag) lat) fflag surface
      have := (abs_lt.mp hclose).2
      linarith
    rw [decodeLongitude_of_gt hcell (not_le.mp he) hhalf]
    constructor
    · intro ⟨out, hout, _⟩
      exact absurd hout (by simp)
    · exact fun hrange => absurd hrange.2 he

/-- What is returned for arbitrary words is in range exactly if no position they stand
for around the reference lies below -180. -/
theorem inRange_iff {reflat reflon : ℚ} (href : reflat ≤ 90) (href' : reflon ≤ 180)
    (cprlat cprlon : ℤ) (fflag surface : Bool) :
    (∀ out, decodeCPRrelative reflat reflon cprlat cprlon fflag surface = .ok out → InRange out) ↔
      ∀ c e, InCell reflat (dlat surface fflag) cprlat c → -90 ≤ c ∧ c ≤ 90 →
        InCell reflon (cprDlonFunction c fflag surface) cprlon e → -180 ≤ e := by
  have hd := dlat_pos surface fflag
  rw [decodeCPRrelative_eq href]
  constructor
  · intro hrange c e hc hlat he
    have hmem : ¬ (c < -90 ∨ c > 90) := fun hout => by
      obtain hout | hout := hout <;> linarith [hlat.1, hlat.2]
    rw [nearest_eq_of_inCell hd hc, if_neg hmem] at hrange
    exact (decodeLongitude_inRange hlat href' he).mp hrange
  · intro hcells out hout
    have hc := nearest_inCell hd reflat cprlat
    by_cases hmem : nearest reflat (dlat surface fflag) cprlat < -90 ∨
        nearest reflat (dlat surface fflag) cprlat > 90
    · rw [if_pos hmem] at hout
      exact absurd hout (by simp)
    · rw [if_neg hmem] at hout
      simp only [not_or, not_lt, gt_iff_lt] at hmem
      have he := nearest_inCell (cprDlonFunction_pos (nearest reflat (dlat surface fflag) cprlat)
        fflag surface) reflon cprlon
      exact (decodeLongitude_inRange hmem href' he).mpr (hcells _ _ hc hmem he) out hout

/-- **Relative decoding keeps its promise exactly on this side of the antimeridian**: a
position near the reference is decoded, and what is returned for any words is in range. -/
theorem decodeCPRrelative_iff (reflat reflon : ℚ) (fflag surface : Bool)
    (href : -90 ≤ reflat ∧ reflat ≤ 90) (href' : -180 ≤ reflon ∧ reflon ≤ 180) :
    (∀ (lat lon : ℚ) (k : ℤ), -90 ≤ lat ∧ lat ≤ 90 →
      |lat - reflat| < dlat surface fflag / 2 - dlat surface fflag / 2 ^ 18 →
      |lon - reflon - 360 * k| < dlon surface fflag lat / 2 - dlon surface fflag lat / 2 ^ 18 →
      (Decoded reflat reflon lat lon fflag surface ↔
        -180 ≤ quantised (dlon surface fflag lat) lon - 360 * k ∧
          quantised (dlon surface fflag lat) lon - 360 * k ≤ 180)) ∧
    ∀ cprlat cprlon : ℤ,
      (∀ out, decodeCPRrelative reflat reflon cprlat cprlon fflag surface = .ok out →
        InRange out) ↔
      ∀ c e, InCell reflat (dlat surface fflag) cprlat c → -90 ≤ c ∧ c ≤ 90 →
        InCell reflon (cprDlonFunction c fflag surface) cprlon e → -180 ≤ e :=
  ⟨fun _ _ _ hlat hnear hnear' => decoded_iff href.2 hlat hnear hnear',
    fun cprlat cprlon => inRange_iff href.2 href'.2 cprlat cprlon fflag surface⟩

/-- A reference and a position in the Pacific, on the same side of the antimeridian. -/
theorem decodeCPRrelative_iff_pacific :
    Decoded 0 (179 + 4 / 10) 0 (179 + 9 / 10) false false := by
  have hall := (decodeCPRrelative_iff 0 (179 + 4 / 10) false false (by norm_num) (by norm_num)).1
    0 (179 + 9 / 10) 0 (by norm_num) (by decide +kernel) (by decide +kernel)
  exact hall.mpr (by decide +kernel)

/-- From the two sides of the antimeridian, 0.2 degrees apart: seen from the west the
position is refused, seen from the east its longitude is below -180. -/
theorem antimeridian_not_decoded :
    |(0 : ℚ) - 0| < dlat false false / 2 - dlat false false / 2 ^ 17 ∧
      |(-1799 / 10 : ℚ) - 1799 / 10 - 360 * (-1 : ℤ)| <
        dlon false false 0 / 2 - dlon false false 0 / 2 ^ 17 ∧
      decodedRelative 0 (1799 / 10) 0 (-1799 / 10) false false = .error (-1) ∧
      decodedRelative 0 (-1799 / 10) 0 (1799 / 10) false false =
        .ok (0, -43523685 / 241664) ∧
      ¬ InRange (0, -43523685 / 241664) := by
  refine ⟨by decide +kernel, by decide +kernel, by decide +kernel, by decide +kernel, ?_⟩
  intro hrange
  have hwest : (-180 : ℚ) ≤ -43523685 / 241664 := hrange.2.1
  norm_num at hwest

end RbFeeder.Cpr
