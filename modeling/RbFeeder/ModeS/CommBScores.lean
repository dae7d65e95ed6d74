import RbFeeder.ModeS.CommBSelection

/-! The scores of BDS 5,0 and BDS 6,0.

Both decoders add points for their fields and take some away for values that contradict
each other. The check of the two speeds of BDS 5,0 compares their status bits instead,
and never takes anything away (`commBPenalties_iff`). -/
namespace RbFeeder.ModeS

section Scores
variable (msg : List Byte) (math : MathLibrary)

/-! ### BDS 5,0 -/

/-- The roll angle, in degrees. -/
def bds50Roll : ℚ := (field msg 3 11 : ℚ) * 45 / 256 - if isSet msg 2 then 90 else 0

/-- The track angle rate, in degrees per second. -/
def bds50TrackRate : ℚ := (field msg 37 45 : ℚ) * 8 / 256 - if isSet msg 36 then 16 else 0

/-- The ground speed and the true airspeed, in knots. -/
def bds50Gs : Nat := field msg 25 34 * 2

def bds50Tas : Nat := field msg 47 56 * 2

/-- What `decodeBDS50` scores above zero: roll, track and both speeds are given, and all
values are plausible. -/
structure TrackTurnReport : Prop where
  status : isSet msg 1 = true ∧ isSet msg 12 = true ∧ isSet msg 24 = true ∧ isSet msg 46 = true
  roll : -40 ≤ bds50Roll msg ∧ bds50Roll msg < 40
  gs : 50 ≤ bds50Gs msg ∧ bds50Gs msg ≤ 700
  track_rate : if isSet msg 35 then -10 ≤ bds50TrackRate msg ∧ bds50TrackRate msg ≤ 10
    else field msg 37 45 = 0 ∧ isSet msg 36 = false
  tas : 50 ≤ bds50Tas msg ∧ bds50Tas msg ≤ 700

/-- The turn rate of the roll and the airspeed is not that of the report. -/
def TurnDiffers : Prop :=
  isSet msg 35 = true ∧
    |68625 * math.tan (bds50Roll msg * math.pi / 180) / (bds50Tas msg * 20 * math.pi) - bds50TrackRate msg| > 2

instance : Decidable (TurnDiffers msg math) := inferInstanceAs (Decidable (_ ∧ _))

/-- The points of the fields: roll, track, ground speed, track rate and airspeed, less the
penalty for the turn rate. -/
def trackTurnPoints : Int :=
  11 + 12 + 11 + (if isSet msg 35 then 11 else 1) + 11 - if TurnDiffers msg math then 6 else 0

/-- The two speeds differ by more than 150 knots. -/
def SpeedsDiffer : Prop := |(bds50Gs msg : Int) - bds50Tas msg| > 150

instance : Decidable (SpeedsDiffer msg) := inferInstanceAs (Decidable (_ > _))

theorem scoreSpeed_valid (raw : Nat) :
    scoreSpeed true raw = if 50 ≤ raw * 2 ∧ raw * 2 ≤ 700 then some 11 else none := by
  unfold scoreSpeed scoreNonzero
  by_cases hraw : raw = 0
  · subst hraw
    rfl
  · simp [hraw]

theorem range_of_scoreSpeed {raw : Nat} {s : Int} (h : scoreSpeed true raw = some s) :
    50 ≤ raw * 2 ∧ raw * 2 ≤ 700 := by
  rw [scoreSpeed_valid] at h
  by_contra hnot
  rw [if_neg hnot] at h
  cases h

theorem plausible_of_scoreValid {blank likely : Bool} {score s : Int}
    (h : scoreValid true blank likely score = some s) : likely = true := by
  unfold scoreValid at h
  rw [if_pos rfl] at h
  by_contra hnot
  rw [if_neg hnot] at h
  cases h

theorem blank_of_scoreValid {blank likely : Bool} {score s : Int}
    (h : scoreValid false blank likely score = some s) : blank = true := by
  unfold scoreValid at h
  rw [if_neg Bool.false_ne_true] at h
  by_contra hnot
  rw [if_neg hnot] at h
  cases h

theorem decodeBDS50_report (h : TrackTurnReport msg) (store : Bool) (d : Decoded) :
    (decodeBDS50 msg math store d).1 = trackTurnPoints msg math := by
  obtain ⟨hroll, htrack, hgs, htas⟩ := h.status
  have hrollDef : (field msg 3 11 : ℚ) * 45 / 256 - (if isSet msg 2 then 90 else 0) = bds50Roll msg := rfl
  have hrateDef : (field msg 37 45 : ℚ) * 8 / 256 - (if isSet msg 36 then 16 else 0) = bds50TrackRate msg := rfl
  have hgsDef : field msg 25 34 * 2 = bds50Gs msg := rfl
  have htasDef : field msg 47 56 * 2 = bds50Tas msg := rfl
  have htasPos : bds50Tas msg > 0 := Nat.lt_of_lt_of_le (by decide) h.tas.1
  have hrate : scoreValid (isSet msg 35) (field msg 37 45 = 0 && !isSet msg 36)
      (-10 ≤ bds50TrackRate msg ∧ bds50TrackRate msg ≤ 10) 11 = some (if isSet msg 35 then 11 else 1) := by
    have hrange := h.track_rate
    unfold scoreValid
    cases hvalid : isSet msg 35 with
    | true =>
      rw [hvalid, if_pos rfl] at hrange
      simp [hrange]
    | false =>
      rw [hvalid, if_neg Bool.false_ne_true] at hrange
      simp [hrange]
  unfold decodeBDS50
  simp only [hroll, htrack, hgs, htas, scoreSpeed_valid, hrollDef, hrateDef, hgsDef, htasDef, hrate, h.roll, h.gs,
    h.tas, htasPos]
  show (11 + 12 + 11 + (if isSet msg 35 then 11 else 1) + 11 : Int) + 0 +
    (if (isSet msg 35 && decide (|68625 * math.tan (bds50Roll msg * math.pi / 180) / (bds50Tas msg * 20 * math.pi) -
      bds50TrackRate msg| > 2)) = true then -6 else 0) = trackTurnPoints msg math
  have hdiffers : (isSet msg 35 && decide (|68625 * math.tan (bds50Roll msg * math.pi / 180) /
      (bds50Tas msg * 20 * math.pi) - bds50TrackRate msg| > 2)) = true ↔ TurnDiffers msg math := by
    rw [Bool.and_eq_true, decide_eq_true_iff, TurnDiffers]
  simp only [hdiffers, trackTurnPoints]
  split_ifs <;> rfl

theorem decodeBDS50_reject (h : ¬ TrackTurnReport msg) (store : Bool) (d : Decoded) :
    (decodeBDS50 msg math store d).1 = 0 := by
  unfold decodeBDS50
  dsimp only
  split
  · rfl
  · next hstatus =>
    simp only [Bool.or_eq_true, Bool.not_eq_true', not_or, Bool.not_eq_false] at hstatus
    obtain ⟨⟨⟨hroll, htrack⟩, hgs⟩, htas⟩ := hstatus
    split
    · rfl
    · next score hplausible =>
      rw [hroll, htrack, hgs, htas] at hplausible
      obtain ⟨_, hrollRange, hplausible⟩ := Option.bind_eq_some_iff.mp hplausible
      obtain ⟨_, _, hplausible⟩ := Option.bind_eq_some_iff.mp hplausible
      obtain ⟨_, hgsRange, hplausible⟩ := Option.bind_eq_some_iff.mp hplausible
      obtain ⟨_, hrateRange, hplausible⟩ := Option.bind_eq_some_iff.mp hplausible
      obtain ⟨_, htasRange, -⟩ := Option.bind_eq_some_iff.mp hplausible
      refine absurd ⟨⟨hroll, htrack, hgs, htas⟩, of_decide_eq_true (plausible_of_scoreValid hrollRange),
        range_of_scoreSpeed hgsRange, ?_, range_of_scoreSpeed htasRange⟩ h
      split
      · next hvalid =>
        rw [hvalid] at hrateRange
        exact of_decide_eq_true (plausible_of_scoreValid hrateRange)
      · next hvalid =>
        rw [Bool.eq_false_iff.mpr hvalid] at hrateRange
        have hblank := blank_of_scoreValid hrateRange
        rw [Bool.and_eq_true, decide_eq_true_iff, Bool.not_eq_true'] at hblank
        exact hblank

/-! ### BDS 6,0 -/

/-- The vertical rates, in feet per minute. -/
def bds60BaroRate : Int := verticalRate (isSet msg 36) (field msg 37 45)

def bds60InertialRate : Int := verticalRate (isSet msg 47) (field msg 48 56)

/-- The Mach number. -/
def bds60Mach : ℚ := (field msg 25 34 : ℚ) * (2048 / 1000) / 512

/-- A vertical rate is plausible, or not given. -/
def PlausibleRate (valid : Bool) (raw : Nat) (rate : Int) : Prop :=
  if valid then -6000 ≤ rate ∧ rate ≤ 6000 else raw = 0

/-- What `decodeBDS60` scores above zero: heading, both speeds and a vertical rate are
given, and all values are plausible. -/
structure HeadingSpeedReport : Prop where
  status : isSet msg 1 = true ∧ isSet msg 13 = true ∧ isSet msg 24 = true
  rate : isSet msg 35 = true ∨ isSet msg 46 = true
  ias : 50 ≤ field msg 14 23 ∧ field msg 14 23 ≤ 700
  mach : 1 / 10 ≤ bds60Mach msg ∧ bds60Mach msg ≤ 9 / 10
  baro_rate : PlausibleRate (isSet msg 35) (field msg 37 45) (bds60BaroRate msg)
  inertial_rate : PlausibleRate (isSet msg 46) (field msg 48 56) (bds60InertialRate msg)

/-- The points of the fields: heading, airspeed, Mach number and the vertical rates. -/
def headingSpeedPoints : Int :=
  12 + 11 + 11 + (if isSet msg 35 then 11 else 1) + if isSet msg 46 then 11 else 1

/-- Both vertical rates are given. -/
def BothRates : Prop := isSet msg 35 = true ∧ isSet msg 46 = true

instance : Decidable (BothRates msg) := inferInstanceAs (Decidable (_ ∧ _))

/-- They differ by more than 2000 feet per minute. -/
def RatesDiffer : Prop := |bds60BaroRate msg - bds60InertialRate msg| > 2000

instance : Decidable (RatesDiffer msg) := inferInstanceAs (Decidable (_ > _))

theorem scoreRate_plausible {valid : Bool} {raw : Nat} {rate : Int} (h : PlausibleRate valid raw rate) :
    scoreRate valid raw rate = some (if valid then 11 else 1) := by
  unfold PlausibleRate at h
  unfold scoreRate scoreValid
  cases valid with
  | true => simp [(show -6000 ≤ rate ∧ rate ≤ 6000 from h)]
  | false => simp [(show raw = 0 from h)]

theorem plausible_of_scoreRate {valid : Bool} {raw : Nat} {rate s : Int} (h : scoreRate valid raw rate = some s) :
    PlausibleRate valid raw rate := by
  cases valid with
  | true =>
    have hrange : -6000 ≤ rate ∧ rate ≤ 6000 := of_decide_eq_true (plausible_of_scoreValid h)
    exact hrange
  | false =>
    have hblank : raw = 0 := of_decide_eq_true (blank_of_scoreValid h)
    exact hblank

theorem scoreNonzero_valid {raw : Nat} (hraw : raw ≠ 0) (likely : Bool) (score : Int) :
    scoreNonzero true raw likely score = if likely then some score else none := by
  simp [scoreNonzero, hraw]

theorem plausible_of_scoreNonzero {raw : Nat} {likely : Bool} {score s : Int}
    (h : scoreNonzero true raw likely score = some s) : likely = true := by
  by_cases hraw : raw = 0
  · subst hraw
    cases h
  · rw [scoreNonzero_valid hraw] at h
    by_contra hnot
    rw [if_neg hnot] at h
    cases h

theorem decodeBDS60_report (h : HeadingSpeedReport msg) (store : Bool) (d : Decoded) :
    (decodeBDS60 msg store d).1 =
      headingSpeedPoints msg - if BothRates msg ∧ RatesDiffer msg then 12 else 0 := by
  obtain ⟨hheading, hias, hmach⟩ := h.status
  have hrate : (!isSet msg 35 && !isSet msg 46) = false := by
    obtain hbaro | hinertial := h.rate
    · rw [hbaro]
      rfl
    · rw [hinertial]
      exact Bool.and_false _
  have hmachDef : (field msg 25 34 : ℚ) * (2048 / 1000) / 512 = bds60Mach msg := rfl
  have hbaroDef : verticalRate (isSet msg 36) (field msg 37 45) = bds60BaroRate msg := rfl
  have hinertialDef : verticalRate (isSet msg 47) (field msg 48 56) = bds60InertialRate msg := rfl
  have hiasNonzero : field msg 14 23 ≠ 0 := (Nat.lt_of_lt_of_le (by decide) h.ias.1).ne'
  have hmachNonzero : field msg 25 34 ≠ 0 := by
    intro hzero
    have hmachRange := h.mach.1
    rw [← hmachDef, hzero] at hmachRange
    norm_num at hmachRange
  unfold decodeBDS60
  simp only [hheading, hias, hmach, hrate, hmachDef, hbaroDef, hinertialDef, scoreNonzero_valid hiasNonzero,
    scoreNonzero_valid hmachNonzero, h.ias, h.mach, scoreRate_plausible h.baro_rate,
    scoreRate_plausible h.inertial_rate]
  show (12 + 11 + 11 + (if isSet msg 35 then 11 else 1) + (if isSet msg 46 then 11 else 1) : Int) +
    (if (isSet msg 35 && isSet msg 46 && decide (|bds60BaroRate msg - bds60InertialRate msg| > 2000)) = true
      then -12 else 0) = _
  have hdiffers : (isSet msg 35 && isSet msg 46 &&
      decide (|bds60BaroRate msg - bds60InertialRate msg| > 2000)) = true ↔ BothRates msg ∧ RatesDiffer msg := by
    rw [Bool.and_eq_true, Bool.and_eq_true, decide_eq_true_iff, BothRates, RatesDiffer]
  simp only [hdiffers, headingSpeedPoints]
  split_ifs <;> rfl

theorem decodeBDS60_reject (h : ¬ HeadingSpeedReport msg) (store : Bool) (d : Decoded) :
    (decodeBDS60 msg store d).1 = 0 := by
  unfold decodeBDS60
  dsimp only
  split
  · rfl
  · next hstatus =>
    simp only [Bool.or_eq_true, Bool.and_eq_true, Bool.not_eq_true', not_or, Bool.not_eq_false] at hstatus
    obtain ⟨⟨⟨hheading, hias⟩, hmach⟩, hrates⟩ := hstatus
    have hrate : isSet msg 35 = true ∨ isSet msg 46 = true := by
      by_contra hnone
      rw [not_or, Bool.not_eq_true, Bool.not_eq_true] at hnone
      exact hrates hnone
    split
    · rfl
    · next score hplausible =>
      rw [hheading, hias, hmach] at hplausible
      obtain ⟨_, _, hplausible⟩ := Option.bind_eq_some_iff.mp hplausible
      obtain ⟨_, hiasRange, hplausible⟩ := Option.bind_eq_some_iff.mp hplausible
      obtain ⟨_, hmachRange, hplausible⟩ := Option.bind_eq_some_iff.mp hplausible
      obtain ⟨_, hbaroRange, hplausible⟩ := Option.bind_eq_some_iff.mp hplausible
      obtain ⟨_, hinertialRange, _⟩ := Option.bind_eq_some_iff.mp hplausible
      exact absurd ⟨⟨hheading, hias, hmach⟩, hrate, of_decide_eq_true (plausible_of_scoreNonzero hiasRange),
        of_decide_eq_true (plausible_of_scoreNonzero hmachRange), plausible_of_scoreRate hbaroRange,
        plausible_of_scoreRate hinertialRange⟩ h

/-! ### Penalties -/

/-- What the scores are to be: less for reports that contradict themselves, so that a
BDS 5,0 report with two different speeds gives way to a consistent BDS 6,0 report. -/
structure CommBPenalties : Prop where
  bds50 : ∀ d, 0 < (decodeBDS50 msg math false d).1 →
    (decodeBDS50 msg math false d).1 = trackTurnPoints msg math - if SpeedsDiffer msg then 6 else 0
  bds60 : ∀ d, 0 < (decodeBDS60 msg false d).1 →
    (decodeBDS60 msg false d).1 = headingSpeedPoints msg - if BothRates msg ∧ RatesDiffer msg then 12 else 0
  preferred : ∀ d, 0 < (decodeBDS60 msg false d).1 → BothRates msg → ¬ RatesDiffer msg →
    0 < (decodeBDS50 msg math false d).1 → SpeedsDiffer msg →
      (decodeBDS50 msg math false d).1 < (decodeBDS60 msg false d).1

/-- Every BDS 5,0 report has points left. -/
theorem trackTurnPoints_pos : 0 < trackTurnPoints msg math := by
  unfold trackTurnPoints
  split_ifs <;> decide

/-- **Main theorem.** The scores are as they are to be, unless the message is a BDS 5,0 report whose speeds
differ. -/
theorem commBPenalties_iff :
    CommBPenalties msg math ↔ ¬ (TrackTurnReport msg ∧ SpeedsDiffer msg) := by
  constructor
  · intro h hreport
    obtain ⟨hreport, hdiffer⟩ := hreport
    have hscore := decodeBDS50_report msg math hreport false {}
    have hpenalty := h.bds50 {} (hscore ▸ trackTurnPoints_pos msg math)
    rw [hscore, if_pos hdiffer] at hpenalty
    omega
  · intro hnot
    have hreport50 : ∀ d, 0 < (decodeBDS50 msg math false d).1 → TrackTurnReport msg := by
      intro d hpos
      by_contra hnone
      rw [decodeBDS50_reject msg math hnone] at hpos
      exact lt_irrefl 0 hpos
    refine ⟨fun d hpos => ?_, fun d hpos => ?_, fun d _ _ _ hpos hdiffer => ?_⟩
    · have hreport := hreport50 d hpos
      rw [decodeBDS50_report msg math hreport, if_neg fun hdiffer => hnot ⟨hreport, hdiffer⟩, sub_zero]
    · by_cases hreport : HeadingSpeedReport msg
      · exact decodeBDS60_report msg hreport false d
      · rw [decodeBDS60_reject msg hreport] at hpos
        exact absurd hpos (lt_irrefl 0)
    · exact absurd ⟨hreport50 d hpos, hdiffer⟩ hnot

end Scores

/-! ### A tie -/

/-- A consistent BDS 6,0 report that also is a BDS 5,0 report, with 400 and 100 knots. -/
def speedsReply : List Byte := [0x80, 0x18, 0xC9, 0x32, 0x20, 0x04, 0x32]

theorem speedsReply_trackTurn : TrackTurnReport speedsReply where
  status := by decide
  roll := by decide +kernel
  gs := by decide
  track_rate := by decide +kernel
  tas := by decide

theorem speedsReply_headingSpeed : HeadingSpeedReport speedsReply where
  status := by decide
  rate := by decide
  ias := by decide
  mach := by decide +kernel
  baro_rate := by
    rw [PlausibleRate]
    decide
  inertial_rate := by
    rw [PlausibleRate]
    decide

/-- Both decoders score 56, and the reply is ambiguous. -/
theorem speeds_not_penalised :
    TrackTurnReport speedsReply ∧ HeadingSpeedReport speedsReply ∧ BothRates speedsReply ∧
      ¬ RatesDiffer speedsReply ∧ SpeedsDiffer speedsReply ∧
      (decodeBDS50 speedsReply someMath false {}).1 = 56 ∧ (decodeBDS60 speedsReply false {}).1 = 56 ∧
      (decodeCommB (comm_b_decoders speedsReply someMath 20 0) false {}).commb_format = .ambiguous ∧
      ¬ CommBPenalties speedsReply someMath := by
  have hdiffer : SpeedsDiffer speedsReply := by decide +kernel
  refine ⟨speedsReply_trackTurn, speedsReply_headingSpeed, by decide, by decide +kernel, hdiffer, by decide +kernel,
    by decide +kernel, by decide +kernel, fun h => ?_⟩
  exact (commBPenalties_iff speedsReply someMath).mp h ⟨speedsReply_trackTurn, hdiffer⟩

end RbFeeder.ModeS
