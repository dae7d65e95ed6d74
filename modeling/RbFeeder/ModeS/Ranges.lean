import RbFeeder.ModeS.Bulk
import RbFeeder.ModeS.Residue

/-! The ranges of decoded fields.

Directions are below 360°, altitudes at most 101300 ft, CPR coordinates have 17 bits, the
digits of a squawk are octal and callsigns have no other characters than letters,
digits and blanks. Every decoder keeps to this but one: version 1 of the target state
takes a target altitude below 0 ft and a target heading from 360° on as they are
(`decoded_inRange_iff`). -/
namespace RbFeeder.ModeS
open Tracker (HeadingType NavAltitudeSource)

/-- A direction in degrees. -/
def Degrees (angle : ℚ) : Prop := 0 ≤ angle ∧ angle < 360

/-- Every field that is marked valid is in its range. -/
structure InRange (d : Decoded) : Prop where
  heading : ∀ h ∈ d.heading, Degrees h.1
  nav_heading : ∀ h ∈ d.nav.heading, Degrees h.1
  mcp_altitude : ∀ altitude ∈ d.nav.mcp_altitude, altitude.toNat ≤ 101300
  fms_altitude : ∀ altitude ∈ d.nav.fms_altitude, altitude.toNat ≤ 101300
  cpr : d.cpr_valid = true → d.cpr_lat.toNat < 2 ^ 17 ∧ d.cpr_lon.toNat < 2 ^ 17
  squawk : ∀ code ∈ d.squawk, Octal code
  callsign : ∀ s ∈ d.callsign, s.length = 8 ∧ ∀ c ∈ s, CallsignChar c

/-- A value that is set under a condition. -/
theorem forall_mem_ite {α : Type} {p : α → Prop} {c : Prop} [Decidable c] {value : α} {old : Option α}
    (hnew : c → p value) (hold : ∀ x ∈ old, p x) : ∀ x ∈ (if c then some value else old), p x := by
  split
  · next h =>
    intro x hx
    obtain rfl := Option.some.inj hx
    exact hnew h
  · exact hold

theorem forall_mem_some {α : Type} {p : α → Prop} {value : α} (h : p value) : ∀ x ∈ some value, p x := by
  intro x hx
  obtain rfl := Option.some.inj hx
  exact h

/-- A fraction of a circle. -/
theorem degrees_fraction {n m : ℕ} (h : n < m) : Degrees ((n : ℚ) * 360 / m) := by
  have hm : (0 : ℚ) < m := by exact_mod_cast Nat.zero_lt_of_lt h
  have hlt : (n : ℚ) < m := by exact_mod_cast h
  constructor
  · positivity
  · rw [div_lt_iff₀ hm]
    nlinarith

theorem degrees_groundTrack (math : MathLibrary) (ew_vel ns_vel : Int) :
    Degrees (groundTrack math ew_vel ns_vel) := by
  have hpi := math.pi_pos
  have hlow : -180 < math.atan2 ew_vel ns_vel * 180 / math.pi := by
    rw [lt_div_iff₀ hpi]
    linarith [math.neg_pi_lt ew_vel ns_vel]
  have hhigh : math.atan2 ew_vel ns_vel * 180 / math.pi ≤ 180 := by
    rw [div_le_iff₀ hpi]
    linarith [math.le_pi ew_vel ns_vel]
  unfold groundTrack Degrees
  dsimp only
  split
  · constructor <;> linarith
  · constructor <;> linarith

theorem length_callsignAt (data : List Byte) : (callsignAt data).length = 8 := by
  simp [callsignAt]

namespace InRange
variable {d : Decoded} (me : List Byte) (math : MathLibrary) (check_imf : Bool)

theorem setMesub (h : InRange d) (mesub : BitVec 32) : InRange { d with mesub := mesub } := { h with }

theorem setAccuracy (h : InRange d) (accuracy : Tracker.Accuracy) : InRange { d with accuracy := accuracy } :=
  { h with }

theorem decodeESIdentAndCategory (h : InRange d) : InRange (decodeESIdentAndCategory me d) := by
  refine { h with callsign := ?_ }
  refine forall_mem_ite (fun hvalid => ⟨length_callsignAt me, hvalid⟩) ?_
  intro s hs
  cases hs

theorem checkIMF (h : InRange d) (bitnum : Nat) : InRange (checkIMF me check_imf bitnum d) := by
  unfold ModeS.checkIMF
  split
  · exact { h with }
  · exact h

/-! ### Velocity -/

theorem decodeGroundVelocity (h : InRange d) (mesub : Nat) :
    InRange (decodeGroundVelocity me math mesub d) := by
  unfold ModeS.decodeGroundVelocity
  dsimp only
  split
  · exact { h with heading := forall_mem_ite (fun _ => degrees_groundTrack math _ _) h.heading }
  · exact h

theorem decodeAirspeed (h : InRange d) (mesub : Nat) : InRange (decodeAirspeed me mesub d) := by
  refine { h with heading := forall_mem_ite (fun _ => ?_) h.heading }
  exact degrees_fraction (field_lt me (by decide) (by decide))

theorem decodeVerticalRate (h : InRange d) : InRange (decodeVerticalRate me d) := { h with }

theorem decodeESAirborneVelocity (h : InRange d) :
    InRange (decodeESAirborneVelocity me math check_imf d) := by
  have hsub := h.setMesub (getbits me 6 8)
  unfold ModeS.decodeESAirborneVelocity
  dsimp only
  split
  · exact hsub
  · have hchecked := (hsub.checkIMF me check_imf 9).setAccuracy
    refine decodeVerticalRate me ?_
    split
    · exact decodeGroundVelocity me math (hchecked _) _
    · exact decodeAirspeed me (hchecked _) _

/-! ### Positions -/

/-- CPR coordinates have 17 bits. -/
theorem cprCoordinates_lt (me : List Byte) :
    (getbits me 23 39).toNat < 2 ^ 17 ∧ (getbits me 40 56).toNat < 2 ^ 17 :=
  ⟨getbits_lt me (by decide) (by decide), getbits_lt me (by decide) (by decide)⟩

theorem decodeESSurfacePosition (h : InRange d) : InRange (decodeESSurfacePosition me check_imf d) := by
  have hheading : ∀ x ∈ (if isSet me 13 then
      some ((field me 14 20 : ℚ) * 360 / 128, HeadingType.trackOrHeading) else d.heading), Degrees x.1 :=
    forall_mem_ite (fun _ => degrees_fraction (field_lt me (by decide) (by decide))) h.heading
  unfold ModeS.decodeESSurfacePosition ModeS.checkIMF
  dsimp only
  split
  · exact { h with heading := hheading, cpr := fun _ => cprCoordinates_lt me }
  · exact { h with heading := hheading, cpr := fun _ => cprCoordinates_lt me }

theorem decodeSurveillanceStatus (h : InRange d) : InRange (decodeSurveillanceStatus me d) := by
  unfold ModeS.decodeSurveillanceStatus
  split <;> exact { h with }

theorem decodeAirborneCpr (h : InRange d) (AC12Field : BitVec 32) :
    InRange (decodeAirborneCpr me AC12Field d) := by
  unfold ModeS.decodeAirborneCpr
  dsimp only
  split
  · exact { h with cpr := fun _ => cprCoordinates_lt me }
  · exact { h with cpr := fun _ => cprCoordinates_lt me }

theorem decodeAirborneAltitude (h : InRange d) (AC12Field : BitVec 32) :
    InRange (decodeAirborneAltitude AC12Field d) := by
  unfold ModeS.decodeAirborneAltitude
  split
  · split
    · exact h
    · dsimp only
      split
      · exact { h with }
      · exact { h with }
  · exact h

theorem decodeNicSupplement (h : InRange d) : InRange (decodeNicSupplement me check_imf d) := by
  unfold ModeS.decodeNicSupplement
  split
  · exact h.checkIMF me true 8
  · exact h.setAccuracy _

theorem decodeESAirbornePosition (h : InRange d) : InRange (decodeESAirbornePosition me check_imf d) := by
  have hsupplement := (h.decodeSurveillanceStatus me).decodeNicSupplement me check_imf
  unfold ModeS.decodeESAirbornePosition
  dsimp only
  refine decodeAirborneAltitude ?_ _
  split
  · exact hsupplement
  · exact hsupplement.decodeAirborneCpr me _

/-! ### Status -/

theorem setSquawk (h : InRange d) (ID13Field : BitVec 32) : InRange (setSquawk ID13Field d) := by
  unfold ModeS.setSquawk
  split
  · exact { h with squawk := forall_mem_some (octal_decodeID13Field ID13Field) }
  · exact h

theorem decodeESTestMessage (h : InRange d) : InRange (decodeESTestMessage me d) := by
  unfold ModeS.decodeESTestMessage
  dsimp only
  split
  · exact (h.setMesub _).setSquawk _
  · exact h.setMesub _

theorem decodeESAircraftStatus (h : InRange d) : InRange (decodeESAircraftStatus me check_imf d) := by
  unfold ModeS.decodeESAircraftStatus
  dsimp only
  split
  · have hemergency : InRange { d with
        mesub := getbits me 6 8, emergency := some (emergencyOf (field me 9 11)) } := { h with }
    exact (hemergency.setSquawk _).checkIMF me check_imf 56
  · exact h.setMesub _

theorem decodeESOperationalStatus (h : InRange d) : InRange (decodeESOperationalStatus me check_imf d) := by
  have hchecked := (h.setMesub (getbits me 6 8)).checkIMF me check_imf 56
  unfold ModeS.decodeESOperationalStatus
  dsimp only
  split
  · split
    · split
      · exact { hchecked with }
      · exact { hchecked with }
    · exact { hchecked with }
    · exact { hchecked with }
    · exact { hchecked with }
  · exact hchecked

/-! ### Target state -/

theorem decodeTargetStatusV2 (h : InRange d) : InRange (decodeTargetStatusV2 me d) := by
  have haltitude : getbits me 10 20 ≠ 0 → ((getbits me 10 20 - 1) * 32).toNat ≤ 101300 := by
    have hlt := getbits_lt me (show 0 < 10 by decide) (show 10 ≤ 20 by decide)
    intro hne
    have hpos : (getbits me 10 20).toNat ≠ 0 := fun hzero => hne (BitVec.eq_of_toNat_eq hzero)
    rw [BitVec.toNat_mul, BitVec.toNat_sub, show (1 : BitVec 32).toNat = 1 from rfl,
      show (32 : BitVec 32).toNat = 32 from rfl]
    omega
  have hheading : Degrees ((field me 31 39 : ℚ) * 180 / 256) := by
    have hfraction := degrees_fraction (field_lt me (show 0 < 31 by decide) (show 31 ≤ 39 by decide))
    have hsame : (field me 31 39 : ℚ) * 180 / 256 =
        (field me 31 39 : ℚ) * 360 / ((2 ^ (39 - 31 + 1) : ℕ) : ℚ) := by
      push_cast
      ring
    rw [hsame]
    exact hfraction
  exact { h with
    nav_heading := forall_mem_ite (fun _ => hheading) h.nav_heading
    fms_altitude := forall_mem_ite (fun hset => haltitude hset.1) h.fms_altitude
    mcp_altitude := forall_mem_ite (fun hset => haltitude hset.1) h.mcp_altitude }

end InRange

/-! ### Version 1 of the target state -/

section Target
variable (me : List Byte) (nav : Navigation)

/-- The target of version 1 is in range: an altitude from 0 ft on, and a direction. -/
structure TargetInRange : Prop where
  altitude : field me 8 9 = 1 ∨ field me 8 9 = 3 → 10 ≤ field me 16 25
  heading : field me 26 27 ≠ 0 → field me 28 36 < 360

/-- The target altitude wraps around below 0 ft. -/
theorem targetAltitude_le_iff : (-1000 + 100 * getbits me 16 25).toNat ≤ 101300 ↔ 10 ≤ field me 16 25 := by
  have hlt := getbits_lt me (show 0 < 16 by decide) (show 16 ≤ 25 by decide)
  unfold field
  have hsmall : 100 * (getbits me 16 25).toNat % 2 ^ 32 = 100 * (getbits me 16 25).toNat :=
    Nat.mod_eq_of_lt (by omega)
  rw [BitVec.toNat_add, BitVec.toNat_mul, BitVec.toNat_neg, show (1000 : BitVec 32).toNat = 1000 from rfl,
    show (100 : BitVec 32).toNat = 100 from rfl, hsmall]
  by_cases hlow : 10 ≤ (getbits me 16 25).toNat
  · have hwrap : (2 ^ 32 - 1000) % 2 ^ 32 + 100 * (getbits me 16 25).toNat =
        (100 * (getbits me 16 25).toNat - 1000) + 2 ^ 32 := by omega
    rw [hwrap, Nat.add_mod_right, Nat.mod_eq_of_lt (by omega)]
    omega
  · rw [Nat.mod_eq_of_lt (by omega)]
    omega

theorem decodeTcasStatus_eq : (decodeTcasStatus me nav).heading = nav.heading ∧
    (decodeTcasStatus me nav).mcp_altitude = nav.mcp_altitude ∧
      (decodeTcasStatus me nav).fms_altitude = nav.fms_altitude := by
  unfold decodeTcasStatus
  split <;> exact ⟨rfl, rfl, rfl⟩

theorem decodeHorizontalTarget_eq :
    (decodeHorizontalTarget me nav).heading.map Prod.fst =
        (if field me 26 27 ≠ 0 then some (field me 28 36 : ℚ) else nav.heading.map Prod.fst) ∧
      (decodeHorizontalTarget me nav).mcp_altitude = nav.mcp_altitude ∧
      (decodeHorizontalTarget me nav).fms_altitude = nav.fms_altitude := by
  unfold decodeHorizontalTarget
  dsimp only
  by_cases hsource : field me 26 27 ≠ 0
  · rw [if_pos hsource, if_pos hsource]
    split <;> exact ⟨rfl, rfl, rfl⟩
  · rw [if_neg hsource, if_neg hsource]
    split <;> exact ⟨rfl, rfl, rfl⟩

/-- The altitude goes where the vertical source says. -/
theorem decodeVerticalTarget_eq :
    (decodeVerticalTarget me {}).heading = none ∧
      (decodeVerticalTarget me {}).mcp_altitude =
        (if field me 8 9 = 1 then some (-1000 + 100 * getbits me 16 25) else none) ∧
      (decodeVerticalTarget me {}).fms_altitude =
        (if field me 8 9 = 3 then some (-1000 + 100 * getbits me 16 25) else none) := by
  have hlt := field_lt me (show 0 < 8 by decide) (show 8 ≤ 9 by decide)
  unfold decodeVerticalTarget
  generalize field me 8 9 = source at hlt ⊢
  generalize field me 14 15 = mode
  interval_cases source
  all_goals obtain _ | _ | _ | mode := mode
  all_goals exact ⟨rfl, rfl, rfl⟩

theorem decodeTargetStatusV1_inRange_iff {d : Decoded} (h : InRange d) (hnav : d.nav = {}) :
    InRange (decodeTargetStatusV1 me d) ↔ TargetInRange me := by
  have hle := targetAltitude_le_iff me
  have hdegrees : Degrees (field me 28 36 : ℚ) ↔ field me 28 36 < 360 := by
    unfold Degrees
    constructor
    · exact fun hrange => by exact_mod_cast hrange.2
    · exact fun hlt => ⟨Nat.cast_nonneg _, by exact_mod_cast hlt⟩
  obtain ⟨hhead₁, hmcp₁, hfms₁⟩ := decodeVerticalTarget_eq me
  obtain ⟨hhead₂, hmcp₂, hfms₂⟩ := decodeHorizontalTarget_eq me (decodeVerticalTarget me {})
  obtain ⟨hhead₃, hmcp₃, hfms₃⟩ := decodeTcasStatus_eq me (decodeHorizontalTarget me (decodeVerticalTarget me {}))
  have hmcp := hmcp₃.trans (hmcp₂.trans hmcp₁)
  have hfms := hfms₃.trans (hfms₂.trans hfms₁)
  have hhead := (congrArg (Option.map Prod.fst) hhead₃).trans hhead₂
  rw [hhead₁, Option.map_none] at hhead
  constructor
  · intro hrange
    have hmcpRange := hrange.mcp_altitude
    have hfmsRange := hrange.fms_altitude
    have hheadRange := hrange.nav_heading
    simp only [decodeTargetStatusV1, hnav, hmcp, hfms] at hmcpRange hfmsRange hheadRange
    refine ⟨fun hsource => hle.mp ?_, fun hsource => hdegrees.mp ?_⟩
    · obtain hsource | hsource := hsource
      · exact hmcpRange _ (if_pos hsource)
      · exact hfmsRange _ (if_pos hsource)
    · rw [if_pos hsource, Option.map_eq_some_iff] at hhead
      obtain ⟨heading, hheading, heq⟩ := hhead
      rw [← heq]
      exact hheadRange heading hheading
  · intro htarget
    have hmcpRange : ∀ x ∈ (if field me 8 9 = 1 then some (-1000 + 100 * getbits me 16 25) else none),
        x.toNat ≤ 101300 :=
      forall_mem_ite (fun hsource => hle.mpr (htarget.altitude (Or.inl hsource))) (fun x hx => by cases hx)
    have hfmsRange : ∀ x ∈ (if field me 8 9 = 3 then some (-1000 + 100 * getbits me 16 25) else none),
        x.toNat ≤ 101300 :=
      forall_mem_ite (fun hsource => hle.mpr (htarget.altitude (Or.inr hsource))) (fun x hx => by cases hx)
    refine { h with
      nav_heading := fun heading hheading => ?_
      mcp_altitude := by
        simp only [decodeTargetStatusV1, hnav, hmcp]
        exact hmcpRange
      fms_altitude := by
        simp only [decodeTargetStatusV1, hnav, hfms]
        exact hfmsRange }
    simp only [decodeTargetStatusV1, hnav] at hheading
    have hfst : heading.1 ∈ (if field me 26 27 ≠ 0 then some (field me 28 36 : ℚ) else none) := by
      rw [← hhead, hheading]
      rfl
    split at hfst
    · next hsource =>
      obtain heq := Option.some.inj hfst
      rw [← heq]
      exact hdegrees.mpr (htarget.heading hsource)
    · cases hfst

/-! ### Extended squitters -/

variable (check_imf : Bool)

theorem checkIMF_nav (bitnum : Nat) (d : Decoded) : (checkIMF me check_imf bitnum d).nav = d.nav := by
  unfold checkIMF
  split
  · rfl
  · rfl

theorem checkIMF_mesub (bitnum : Nat) (d : Decoded) :
    (checkIMF me check_imf bitnum d).mesub = d.mesub := by
  unfold checkIMF
  split
  · rfl
  · rfl

/-- A field is 0 as a number or as it is. -/
theorem getbits_eq_iff {data : List Byte} {firstbit lastbit value : Nat} (h : value < 2 ^ 32) :
    getbits data firstbit lastbit = BitVec.ofNat 32 value ↔ field data firstbit lastbit = value := by
  unfold field
  rw [← BitVec.toNat_inj, BitVec.toNat_ofNat, Nat.mod_eq_of_lt h]

/-- A target state of version 1 whose target is not in range. -/
def TargetOutOfRange : Prop :=
  field me 1 5 = 29 ∧ field me 6 7 = 0 ∧ isSet me 11 = false ∧ ¬ TargetInRange me

theorem decodeESTargetStatus_inRange_iff {d : Decoded} (h : InRange d) (hnav : d.nav = {}) :
    InRange (decodeESTargetStatus me check_imf d) ↔
      ¬ (field me 6 7 = 0 ∧ isSet me 11 = false ∧ ¬ TargetInRange me) := by
  have hchecked := (h.setMesub (getbits me 6 7)).checkIMF me check_imf 51
  have hcheckedNav := (checkIMF_nav me check_imf 51 { d with mesub := getbits me 6 7 }).trans hnav
  have hmesub := checkIMF_mesub me check_imf 51 { d with mesub := getbits me 6 7 }
  have hzero : getbits me 6 7 = 0 ↔ field me 6 7 = 0 := getbits_eq_iff (by decide)
  unfold decodeESTargetStatus
  dsimp only at hmesub ⊢
  rw [hmesub]
  split_ifs with hv1 hv2
  · rw [decodeTargetStatusV1_inRange_iff me hchecked hcheckedNav]
    have hclear : isSet me 11 = false := Bool.eq_false_iff.mpr hv1.2
    constructor
    · exact fun htarget hout => hout.2.2 htarget
    · intro hnot
      by_contra htarget
      exact hnot ⟨hzero.mp hv1.1, hclear, htarget⟩
  · refine iff_of_true (hchecked.decodeTargetStatusV2 me) fun hout => hv1 ⟨hzero.mpr hout.1, ?_⟩
    exact Bool.eq_false_iff.mp hout.2.1
  · refine iff_of_true hchecked fun hout => hv1 ⟨hzero.mpr hout.1, ?_⟩
    exact Bool.eq_false_iff.mp hout.2.1

variable (math : MathLibrary)

theorem decodeMetype_inRange {d : Decoded} (h : InRange d) (hmetype : d.metype.toNat ≠ 29) :
    InRange (decodeMetype me math check_imf d) := by
  unfold decodeMetype
  split
  any_goals exact h.decodeESIdentAndCategory me
  any_goals exact h.decodeESSurfacePosition me check_imf
  any_goals exact h.decodeESAirbornePosition me check_imf
  · exact h.decodeESAirborneVelocity me math check_imf
  · exact h.decodeESTestMessage me
  · exact h
  · exact h
  · exact h.decodeESAircraftStatus me check_imf
  · next htarget => exact absurd htarget hmetype
  · exact h.decodeESOperationalStatus me check_imf
  · exact { h with }

theorem decodeMetype_inRange_iff {d : Decoded} (h : InRange d) (hnav : d.nav = {})
    (hmetype : d.metype = getbits me 1 5) :
    InRange (decodeMetype me math check_imf d) ↔ ¬ TargetOutOfRange me := by
  have hfield : d.metype.toNat = field me 1 5 := congrArg BitVec.toNat hmetype
  by_cases htype : field me 1 5 = 29
  · have heq : decodeMetype me math check_imf d = decodeESTargetStatus me check_imf d := by
      unfold decodeMetype
      rw [hfield, htype]
      rfl
    rw [heq, decodeESTargetStatus_inRange_iff me check_imf h hnav]
    unfold TargetOutOfRange
    rw [and_iff_right htype]
  · refine iff_of_true (decodeMetype_inRange me check_imf math h ?_) fun hout => htype hout.1
    rw [hfield]
    exact htype

/-- The values of `CF` for which the message is a squitter with the usual fields. -/
def SquitterCF (msgtype : Nat) (CF : BitVec 32) : Prop := msgtype = 18 → CF.toNat ∈ [0, 1, 2, 5, 6]

theorem decodeExtendedSquitter_inRange_iff {d : Decoded} (h : InRange d) (hnav : d.nav = {})
    (msgtype : Nat) (CF : BitVec 32) :
    InRange (decodeExtendedSquitter me math msgtype CF d) ↔
      ¬ (SquitterCF msgtype CF ∧ TargetOutOfRange me) := by
  have hset : ∀ addr addrtype source, InRange { d with
      metype := getbits me 1 5, addr := addr, addrtype := addrtype, source := source } := by
    intro addr addrtype source
    exact { h with }
  have hiff : ∀ addr addrtype source check_imf, SquitterCF msgtype CF →
      (InRange (decodeMetype me math check_imf { d with
        metype := getbits me 1 5, addr := addr, addrtype := addrtype, source := source }) ↔
      ¬ (SquitterCF msgtype CF ∧ TargetOutOfRange me)) := by
    intro addr addrtype source check_imf hcf
    rw [and_iff_right hcf]
    exact decodeMetype_inRange_iff me check_imf math (hset addr addrtype source) hnav rfl
  unfold decodeExtendedSquitter
  dsimp only
  split
  · next htype =>
    split
    · next hCF => exact hiff _ _ _ _ (fun _ => by rw [hCF]; decide)
    · next hCF => exact hiff _ _ _ _ (fun _ => by rw [hCF]; decide)
    · next hCF => exact hiff _ _ _ _ (fun _ => by rw [hCF]; decide)
    · next hCF =>
      refine iff_of_true ((hset _ _ _).checkIMF me true 1) fun hout => ?_
      have hmem := hout.1 htype
      rw [hCF] at hmem
      exact absurd hmem (by decide)
    · next hCF => exact hiff _ _ _ _ (fun _ => by rw [hCF]; decide)
    · next hCF => exact hiff _ _ _ _ (fun _ => by rw [hCF]; decide)
    · next h0 h1 h2 h3 h5 h6 =>
      refine iff_of_true (hset _ _ _) fun hout => ?_
      have hmem := hout.1 htype
      simp only [List.mem_cons, List.not_mem_nil, or_false] at hmem
      obtain hCF | hCF | hCF | hCF | hCF := hmem
      · exact h0 hCF
      · exact h1 hCF
      · exact h2 hCF
      · exact h5 hCF
      · exact h6 hCF
  · next htype => exact hiff _ _ _ _ (fun h18 => absurd h18 htype)

end Target

end RbFeeder.ModeS
