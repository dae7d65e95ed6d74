import RbFeeder.Cpr.Encode

/-! Global decoding inverts the encoder.

From an even and an odd word the decoders find the zone of the latitude modulo the
number of zones, so the latitude up to whole spans (`zoneLatitude_eq`); the hemisphere
is then the only one possible. At a latitude with the same number of zones of longitude
on both grids the longitude follows in the same way (`zoneLongitude_eq`), up to whole
turns in the air and up to quadrants on the ground, where the reference decides. -/
namespace RbFeeder.Cpr
open Grid

/-! ### From a zone to a coordinate -/

/-- The zone modulo the number of zones gives the coordinate modulo the span. -/
theorem zone_mod {n : ℤ} (hn : 0 < n) (k : ℤ) (w p : ℚ) :
    p / n * ((k % n : ℤ) + w) = p / n * (k + w) - p * (k / n : ℤ) := by
  have hn' : (n : ℚ) ≠ 0 := by exact_mod_cast hn.ne'
  have hk : ((k % n : ℤ) : ℚ) = k - n * (k / n : ℤ) := by
    rw [Int.emod_def]
    push_cast
    ring
  rw [hk]
  field_simp
  ring

theorem zone_mod_mem {n : ℤ} (hn : 0 < n) (k : ℤ) {w p : ℚ} (hp : 0 < p) (h0 : 0 ≤ w)
    (h1 : w < 1) : 0 ≤ p / n * ((k % n : ℤ) + w) ∧ p / n * ((k % n : ℤ) + w) < p := by
  have hn' : (0 : ℚ) < n := by exact_mod_cast hn
  have hk0 : (0 : ℚ) ≤ (k % n : ℤ) := by exact_mod_cast Int.emod_nonneg k hn.ne'
  have hk1 : ((k % n : ℤ) : ℚ) + 1 ≤ n := by
    have := Int.emod_lt_of_pos k hn
    exact_mod_cast this
  constructor
  · positivity
  · calc p / n * ((k % n : ℤ) + w) < p / n * n := by
          apply mul_lt_mul_of_pos_left _ (by positivity)
          linarith
      _ = p := div_mul_cancel₀ p hn'.ne'

theorem encode_mem (d x : ℚ) : 0 ≤ (encode d x : ℚ) / 131072 ∧ (encode d x : ℚ) / 131072 < 1 := by
  have h0 := word_nonneg (show 0 < 131072 by decide) (x / d)
  have h1 := word_lt (show 0 < 131072 by decide) (x / d)
  rw [← encode_eq] at h0 h1
  have h0' : (0 : ℚ) ≤ encode d x := by exact_mod_cast h0
  have h1' : (encode d x : ℚ) < 131072 := by exact_mod_cast h1
  constructor
  · positivity
  · rw [div_lt_one (by norm_num)]
    exact h1'

/-! ### Latitudes -/

theorem div_dlat (surface odd : Bool) (lat : ℚ) :
    lat / dlat surface odd = latZones odd * (lat / span surface) := by
  have := (span_pos surface).ne'
  have hzones : (latZones odd : ℚ) ≠ 0 := by exact_mod_cast (latZones_pos odd).ne'
  rw [dlat]
  field_simp

/-- The index that the decoders compute. -/
theorem latitudeIndex_encode (surface : Bool) (lat : ℚ) :
    latitudeIndex (encodeLat surface false lat) (encodeLat surface true lat) =
      index 131072 (59 + 1) 59 (lat / span surface) := by
  rw [encodeLat, encodeLat, encode_eq, encode_eq, div_dlat, div_dlat, index, latitudeIndex]
  norm_num [latZones]

/-- The latitude before its hemisphere is chosen. -/
def zoneLatitude (surface odd : Bool) (lat : ℚ) : ℚ :=
  dlat surface odd *
    (cprModInt (latitudeIndex (encodeLat surface false lat) (encodeLat surface true lat))
        (latZones odd) + (encodeLat surface odd lat : ℚ) / 131072)

theorem zoneLatitude_eq (surface odd : Bool) (lat : ℚ) :
    ∃ t : ℤ, zoneLatitude surface odd lat =
        quantised (dlat surface odd) lat - span surface * t ∧
      0 ≤ zoneLatitude surface odd lat ∧ zoneLatitude surface odd lat < span surface := by
  have hindex : cprModInt (latitudeIndex (encodeLat surface false lat) (encodeLat surface true lat))
      (latZones odd) = point 131072 (lat / dlat surface odd) / 131072 % latZones odd := by
    rw [cprModInt_eq (latZones_pos odd), latitudeIndex_encode, div_dlat]
    cases odd
    · exact index_mod_high (by decide) (by decide) _
    · exact index_mod_low (by decide) (by decide) _
  have hmem := encode_mem (dlat surface odd) lat
  have hzone := zone_mod (latZones_pos odd) (point 131072 (lat / dlat surface odd) / 131072)
    (encode (dlat surface odd) lat / 131072) (span surface)
  have hrange := zone_mod_mem (latZones_pos odd) (point 131072 (lat / dlat surface odd) / 131072)
    (span_pos surface) hmem.1 hmem.2
  rw [zoneLatitude, hindex, encodeLat]
  refine ⟨point 131072 (lat / dlat surface odd) / 131072 / latZones odd, ?_, hrange⟩
  rw [quantised_eq_zone]
  exact hzone

/-- In the air the hemisphere is the one within reach of the poles. -/
theorem airborneLatitude_eq {q : ℚ} (hq : -90 ≤ q ∧ q ≤ 90) {t : ℤ} (h0 : 0 ≤ q - 360 * t)
    (h1 : q - 360 * t < 360) : airborneLatitude (q - 360 * t) = q := by
  have ht : (t : ℚ) < 1 := by linarith [hq.2]
  have ht' : (-2 : ℚ) < t := by linarith [hq.1]
  have hcases : t = 0 ∨ t = -1 := by
    have : t < 1 := by exact_mod_cast ht
    have : -2 < t := by exact_mod_cast ht'
    omega
  unfold airborneLatitude
  obtain rfl | rfl := hcases
  · push_cast
    rw [if_neg (by linarith [hq.2])]
    ring
  · push_cast
    rw [if_pos (by linarith [hq.1])]
    ring

/-- On the ground it is the one closest to the reference. -/
theorem surfaceLatitude_eq {q reflat : ℚ} (hq : -90 ≤ q ∧ q ≤ 90) (hnear : |q - reflat| < 45)
    {t : ℤ} (h0 : 0 ≤ q - 90 * t) (h1 : q - 90 * t < 90) :
    surfaceLatitude reflat (q - 90 * t) = q := by
  obtain ⟨hsouth, hnorth⟩ := abs_lt.mp hnear
  have ht : (t : ℚ) < 2 := by linarith [hq.2]
  have ht' : (-2 : ℚ) < t := by linarith [hq.1]
  have hcases : t = 0 ∨ t = -1 ∨ t = 1 := by
    have : t < 2 := by exact_mod_cast ht
    have : -2 < t := by exact_mod_cast ht'
    omega
  unfold surfaceLatitude
  obtain rfl | rfl | rfl := hcases
  · push_cast at h0 h1 ⊢
    simp only [mul_zero, sub_zero] at h0 h1 ⊢
    by_cases hzero : q = 0
    · rw [if_pos hzero, if_neg (by linarith), if_neg (by linarith)]
    · rw [if_neg hzero, if_neg (by linarith)]
  · push_cast at h0 h1 ⊢
    by_cases hpole : q = -90
    · rw [if_pos (by linarith), if_pos (by linarith), hpole]
    · have : q - 90 * -1 ≠ 0 := fun h => hpole (by linarith)
      rw [if_neg this, if_pos (by linarith)]
      ring
  · push_cast at h0 h1 ⊢
    have hpole : q = 90 := by linarith [hq.2]
    rw [if_pos (by linarith), if_neg (by linarith), if_pos (by linarith), hpole]

/-! ### Longitudes -/

/-- Both grids count the zones of longitude at latitudes of one number of zones. -/
def SameZone (surface : Bool) (lat : ℚ) : Prop :=
  cprNLFunction (quantised (dlat surface false) lat) =
    cprNLFunction (quantised (dlat surface true) lat)

instance (surface : Bool) (lat : ℚ) : Decidable (SameZone surface lat) :=
  inferInstanceAs (Decidable (_ = _))

theorem lonZones_eq {surface : Bool} {lat : ℚ} {n : ℤ}
    (hn : ∀ odd, cprNLFunction (quantised (dlat surface odd) lat) = n) (odd : Bool) :
    lonZones surface odd lat = max (n - if odd then 1 else 0) 1 := by
  rw [lonZones, cprNFunction_eq, hn]

theorem div_dlon (surface odd : Bool) (lat lon : ℚ) :
    lon / dlon surface odd lat = lonZones surface odd lat * (lon / span surface) := by
  have := (span_pos surface).ne'
  have hzones : (lonZones surface odd lat : ℚ) ≠ 0 := by
    exact_mod_cast (lonZones_pos surface odd lat).ne'
  rw [dlon_eq_div]
  field_simp

/-- Whatever the index, modulo the number of zones it is the zone. -/
theorem longitudeIndex_mod {surface : Bool} {lat : ℚ} {n : ℤ}
    (hn : ∀ odd, cprNLFunction (quantised (dlat surface odd) lat) = n) (odd : Bool) (lon : ℚ) :
    longitudeIndex (quantised (dlat surface odd) lat) (encodeLon surface false lat lon)
        (encodeLon surface true lat lon) % lonZones surface odd lat =
      point 131072 (lon / dlon surface odd lat) / 131072 % lonZones surface odd lat := by
  have hmem := cprNLFunction_mem (quantised (dlat surface odd) lat)
  rw [hn odd] at hmem
  by_cases hone : n = 1
  · -- a single zone on both grids
    have hzones : lonZones surface odd lat = 1 := by
      rw [lonZones_eq hn, hone]
      cases odd <;> rfl
    rw [hzones, Int.emod_one, Int.emod_one]
  · have heven : lonZones surface false lat = n - 1 + 1 := by
      rw [lonZones_eq hn]
      simp only [Bool.false_eq_true, if_false]
      omega
    have hodd : lonZones surface true lat = n - 1 := by
      rw [lonZones_eq hn]
      simp only [if_true]
      omega
    have hindex : longitudeIndex (quantised (dlat surface odd) lat)
        (encodeLon surface false lat lon) (encodeLon surface true lat lon) =
        index 131072 (n - 1 + 1) (n - 1) (lon / span surface) := by
      rw [encodeLon, encodeLon, encode_eq, encode_eq, div_dlon, div_dlon, heven, hodd, index,
        longitudeIndex, hn odd]
      push_cast
      ring_nf
    rw [hindex, div_dlon]
    cases odd
    · rw [heven]
      exact index_mod_high (by omega) (by omega) _
    · rw [hodd]
      exact index_mod_low (by omega) (by omega) _

/-- The longitude modulo the span. -/
theorem zoneLongitude_eq {surface : Bool} {lat : ℚ} (hzone : SameZone surface lat) (odd : Bool)
    (lon : ℚ) :
    ∃ t : ℤ, zoneLongitude (quantised (dlat surface odd) lat) (encodeLon surface false lat lon)
        (encodeLon surface true lat lon) odd surface =
      quantised (dlon surface odd lat) lon - span surface * t := by
  have hn : ∀ f, cprNLFunction (quantised (dlat surface f) lat) =
      cprNLFunction (quantised (dlat surface true) lat) := by
    intro f
    cases f
    · exact hzone
    · rfl
  have hword : (if odd then (encodeLon surface true lat lon : ℚ) else
      (encodeLon surface false lat lon : ℚ)) = encodeLon surface odd lat lon := by
    cases odd <;> rfl
  refine ⟨point 131072 (lon / dlon surface odd lat) / 131072 / lonZones surface odd lat, ?_⟩
  rw [zoneLongitude, cprModInt_eq (cprNFunction_pos _ odd), ← dlon_eq, hword]
  rw [← lonZones, longitudeIndex_mod hn, dlon_eq_div, zone_mod (lonZones_pos surface odd lat)]
  rw [quantised_eq_zone, ← dlon_eq_div]
  rfl

theorem renormalize_mem (rlon : ℚ) : -180 ≤ renormalize rlon ∧ renormalize rlon < 180 := by
  have hmem := sub_floor_mem (show (0 : ℚ) < 360 by norm_num) (-180) rlon
  rw [sub_neg_eq_add] at hmem
  refine ⟨hmem.1, hmem.2.trans_eq (by norm_num)⟩

/-- Half a quantum off in each coordinate, and some turns in the longitude. -/
theorem recovers_of_turn {surface odd : Bool} {lat lon rlon : ℚ} (k : ℤ)
    (hlon : rlon = quantised (dlon surface odd lat) lon - 360 * k) :
    Recovers surface odd lat lon (quantised (dlat surface odd) lat, renormalize rlon) := by
  refine ⟨abs_quantised_sub_le (dlat_pos surface odd) lat, -k - ⌊(rlon + 180) / 360⌋, ?_⟩
  have hout : renormalize rlon - lon - 360 * ((-k - ⌊(rlon + 180) / 360⌋ : ℤ) : ℚ) =
      quantised (dlon surface odd lat) lon - lon := by
    rw [renormalize]
    push_cast
    linarith
  show |renormalize rlon - lon - 360 * ((-k - ⌊(rlon + 180) / 360⌋ : ℤ) : ℚ)| ≤ _
  rw [hout]
  exact abs_quantised_sub_le (dlon_pos surface odd lat) lon

/-- The quadrant next to the reference. -/
theorem surfaceLongitude_eq {target reflon : ℚ} (hnear : |target - reflon| < 45) (s : ℤ) :
    surfaceLongitude reflon (target - 90 * s) = target := by
  obtain ⟨hwest, heast⟩ := abs_lt.mp hnear
  have hfloor : ⌊(reflon - (target - 90 * s) + 45) / 90⌋ = s := by
    rw [Int.floor_eq_iff, le_div_iff₀ (by norm_num), div_lt_iff₀ (by norm_num)]
    constructor <;> linarith
  rw [surfaceLongitude, hfloor]
  ring

/-! ### The decoders -/

/-- No quantised latitude is out of range. -/
theorem quantised_in_range {surface : Bool} {lat : ℚ} (hlat : -90 ≤ lat ∧ lat ≤ 90) :
    ¬ (quantised (dlat surface false) lat < -90 ∨ quantised (dlat surface false) lat > 90 ∨
      quantised (dlat surface true) lat < -90 ∨ quantised (dlat surface true) lat > 90) := by
  obtain ⟨hsouth, hnorth⟩ : -90 ≤ quantised (dlat surface false) lat ∧ _ := quantised_mem hlat
  obtain ⟨hsouth', hnorth'⟩ : -90 ≤ quantised (dlat surface true) lat ∧ _ := quantised_mem hlat
  intro hout
  obtain hout | hout | hout | hout := hout <;> linarith

section
variable {surface : Bool} {lat : ℚ} (lon0 lon1 : ℚ) (fflag : Bool) (adjust : ℚ → ℚ)

theorem decodeFrom_crossed (hlat : -90 ≤ lat ∧ lat ≤ 90) (hzone : ¬ SameZone surface lat) :
    decodeFrom (quantised (dlat surface false) lat) (quantised (dlat surface true) lat) lon0 lon1
      fflag surface adjust = .error (-1) :=
  (if_neg (quantised_in_range hlat)).trans (if_pos hzone)

theorem decodeFrom_same (hlat : -90 ≤ lat ∧ lat ≤ 90) (hzone : SameZone surface lat) :
    decodeFrom (quantised (dlat surface false) lat) (quantised (dlat surface true) lat) lon0 lon1
        fflag surface adjust =
      .ok (quantised (dlat surface fflag) lat,
        renormalize (adjust
          (zoneLongitude (quantised (dlat surface fflag) lat) lon0 lon1 fflag surface))) := by
  refine (if_neg (quantised_in_range hlat)).trans ((if_neg (not_not.mpr hzone)).trans ?_)
  cases fflag <;> rfl

end

/-- `decodeCPRairborne` on the words that are sent for a position. -/
def decodedAirborne (lat lon : ℚ) (fflag : Bool) : Except ℤ (ℚ × ℚ) :=
  decodeCPRairborne (encodeLat false false lat) (encodeLon false false lat lon)
    (encodeLat false true lat) (encodeLon false true lat lon) fflag

/-- `decodeCPRsurface` on the words that are sent for a position. -/
def decodedSurface (reflat reflon lat lon : ℚ) (fflag : Bool) : Except ℤ (ℚ × ℚ) :=
  decodeCPRsurface reflat reflon (encodeLat true false lat) (encodeLon true false lat lon)
    (encodeLat true true lat) (encodeLon true true lat lon) fflag

theorem decodedAirborne_eq {lat : ℚ} (hlat : -90 ≤ lat ∧ lat ≤ 90) (lon : ℚ) (fflag : Bool) :
    decodedAirborne lat lon fflag =
      decodeFrom (quantised (dlat false false) lat) (quantised (dlat false true) lat)
        (encodeLon false false lat lon) (encodeLon false true lat lon) fflag false id := by
  have hlatitude : ∀ odd, airborneLatitude (zoneLatitude false odd lat) =
      quantised (dlat false odd) lat := by
    intro odd
    obtain ⟨t, ht, h0, h1⟩ := zoneLatitude_eq false odd lat
    have hspan : span false = 360 := rfl
    rw [ht, hspan] at h0 h1 ⊢
    exact airborneLatitude_eq (quantised_mem hlat) h0 h1
  rw [← hlatitude false, ← hlatitude true]
  rfl

/-- **Airborne decoding inverts the encoder**, unless the words are from different zones
of longitude. No divisor is zero. -/
theorem decodeCPRairborne_inverts (lat lon : ℚ) (fflag : Bool) (hlat : -90 ≤ lat ∧ lat ≤ 90) :
    (¬ SameZone false lat → decodedAirborne lat lon fflag = .error (-1)) ∧
      (SameZone false lat → ∃ out, decodedAirborne lat lon fflag = .ok out ∧
        Recovers false fflag lat lon out ∧ (-90 ≤ out.1 ∧ out.1 ≤ 90) ∧
        (-180 ≤ out.2 ∧ out.2 < 180)) ∧
      ∀ rlat, cprNFunction rlat fflag ≠ 0 := by
  rw [decodedAirborne_eq hlat]
  refine ⟨decodeFrom_crossed _ _ fflag id hlat, fun hzone => ?_,
    fun rlat => (cprNFunction_pos rlat fflag).ne'⟩
  obtain ⟨t, ht⟩ := zoneLongitude_eq hzone fflag lon
  refine ⟨_, decodeFrom_same _ _ fflag id hlat hzone, recovers_of_turn t ht, quantised_mem hlat,
    renormalize_mem _⟩

/-- A position over the North Sea, from the odd words. -/
theorem decodeCPRairborne_inverts_odd :
    ∃ out, decodedAirborne (522572 / 10000) (391937 / 100000) true = .ok out ∧
      Recovers false true (522572 / 10000) (391937 / 100000) out := by
  obtain ⟨-, hsame, -⟩ :=
    decodeCPRairborne_inverts (522572 / 10000) (391937 / 100000) true (by norm_num)
  obtain ⟨out, hout, hrecovers, -⟩ := hsame (by decide +kernel)
  exact ⟨out, hout, hrecovers⟩

/-- Both latitudes are moved to the hemisphere of the true position. -/
theorem decodedSurface_eq {reflat lat : ℚ} (hlat : -90 ≤ lat ∧ lat ≤ 90)
    (hnear : |lat - reflat| < 45 - dlat true true / 2 ^ 18) (reflon lon : ℚ) (fflag : Bool) :
    decodedSurface reflat reflon lat lon fflag =
      decodeFrom (quantised (dlat true false) lat) (quantised (dlat true true) lat)
        (encodeLon true false lat lon) (encodeLon true true lat lon) fflag true
        (surfaceLongitude reflon) := by
  have hlatitude : ∀ odd, surfaceLatitude reflat (zoneLatitude true odd lat) =
      quantised (dlat true odd) lat := by
    intro odd
    obtain ⟨t, ht, h0, h1⟩ := zoneLatitude_eq true odd lat
    have hquantum : dlat true odd ≤ dlat true true := by
      cases odd <;> norm_num [dlat, span, latZones]
    have hclose : |quantised (dlat true odd) lat - reflat| < 45 := by
      apply abs_quantised_lt (dlat_pos true odd)
      linarith
    have hspan : span true = 90 := rfl
    rw [ht, hspan] at h0 h1 ⊢
    exact surfaceLatitude_eq (quantised_mem hlat) hclose h0 h1
  rw [← hlatitude false, ← hlatitude true]
  rfl

/-- **Surface decoding resolves the quadrant next to the reference.** Half a quantum
less than 45 degrees is near enough in each coordinate; the longitude differs from the
reference by up to `k` turns. -/
theorem decodeCPRsurface_inverts (reflat reflon lat lon : ℚ) (k : ℤ) (fflag : Bool)
    (hlat : -90 ≤ lat ∧ lat ≤ 90) (hnear : |lat - reflat| < 45 - dlat true true / 2 ^ 18)
    (hnear' : |lon - reflon - 360 * k| < 45 - dlon true fflag lat / 2 ^ 18)
    (hzone : SameZone true lat) :
    ∃ out, decodedSurface reflat reflon lat lon fflag = .ok out ∧
      Recovers true fflag lat lon out ∧ (-180 ≤ out.2 ∧ out.2 < 180) := by
  rw [decodedSurface_eq hlat hnear]
  obtain ⟨t, ht⟩ := zoneLongitude_eq hzone fflag lon
  refine ⟨_, decodeFrom_same _ _ fflag _ hlat hzone, recovers_of_turn k ?_, renormalize_mem _⟩
  have hclose := abs_turn_lt (dlon_pos true fflag lat) hnear'
  have hquadrant : quantised (dlon true fflag lat) lon - span true * t =
      quantised (dlon true fflag lat) lon - 360 * k - 90 * ((t - 4 * k : ℤ) : ℚ) := by
    rw [span, if_pos rfl]
    push_cast
    ring
  rw [ht, hquadrant]
  exact surfaceLongitude_eq hclose (t - 4 * k)

/-- On the ground at the antimeridian, from a reference on its other side. -/
theorem decodeCPRsurface_inverts_antimeridian :
    ∃ out, decodedSurface (-17) (-1799 / 10) (-167 / 10) (1798 / 10) false = .ok out ∧
      Recovers true false (-167 / 10) (1798 / 10) out ∧ (-180 ≤ out.2 ∧ out.2 < 180) :=
  decodeCPRsurface_inverts (-17) (-1799 / 10) (-167 / 10) (1798 / 10) 1 false (by norm_num)
    (by decide +kernel) (by decide +kernel) (by decide +kernel)

end RbFeeder.Cpr
