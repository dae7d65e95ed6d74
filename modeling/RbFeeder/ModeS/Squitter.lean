import RbFeeder.ModeS.Altitude
import RbFeeder.ModeS.Fields
import RbFeeder.Tracker.Message

/-! What a message says: the decoded part of `struct modesMessage`, and the decoders of
extended squitters in `mode_s.c`.

A value with a `_valid` flag that is set with it and read only under it is an option.
`float` and `double` are exact. The functions of the mathematical library are
parameters, of which the range of `atan2` is known. -/
namespace RbFeeder.ModeS
open Track (Source AltitudeUnit)
open Tracker (AddrType AirGround SilType CprType HeadingType NavModes Emergency NavAltitudeSource
  MrarSource Hazard Wind Groundspeed Accuracy)

/-! ### Fields -/

/-- `getbit(data, bitnum)` as a condition. -/
def isSet (data : List Byte) (bitnum : Nat) : Bool := getbit data bitnum ≠ 0

/-- `getbits(data, firstbit, lastbit)` as a number. -/
def field (data : List Byte) (firstbit lastbit : Nat) : Nat := (getbits data firstbit lastbit).toNat

/-- `getbit(data, bitnum)` as a number. -/
def bitField (data : List Byte) (bitnum : Nat) : Nat := (getbit data bitnum).toNat

theorem field_lt (data : List Byte) {firstbit lastbit : Nat} (hfirst : 0 < firstbit)
    (hle : firstbit ≤ lastbit) : field data firstbit lastbit < 2 ^ (lastbit - firstbit + 1) :=
  getbits_lt data hfirst hle

/-! ### Types -/

/-- `math.h`. -/
structure MathLibrary where
  sqrtf : ℚ → ℚ
  atan2 : Int → Int → ℚ
  tan : ℚ → ℚ
  /-- `M_PI`. -/
  pi : ℚ
  pi_pos : 0 < pi
  neg_pi_lt : ∀ y x, -pi < atan2 y x
  le_pi : ∀ y x, atan2 y x ≤ pi

/-- `commb_format_t`. -/
inductive CommBFormat
  | unknown
  | ambiguous
  | notDecoded
  | emptyResponse
  | datalinkCaps
  | gicbCaps
  | aircraftIdent
  | acasRa
  | verticalIntent
  | trackTurn
  | headingSpeed
  | mrar
  | airbornePosition
deriving DecidableEq

/-- `emergency_t`, from its number. -/
def emergencyOf : Nat → Emergency
  | 0 => .none
  | 1 => .general
  | 2 => .lifeguard
  | 3 => .minfuel
  | 4 => .nordo
  | 5 => .unlawful
  | 6 => .downed
  | _ => .reserved

/-- `opstatus`. -/
structure OperationalStatus where
  valid : Bool := false
  version : Nat := 0
  om_acas_ra : Bool := false
  om_ident : Bool := false
  om_atc : Bool := false
  om_saf : Bool := false
  cc_acas : Bool := false
  cc_cdti : Bool := false
  cc_1090_in : Bool := false
  cc_arv : Bool := false
  cc_ts : Bool := false
  cc_tc : Nat := 0
  cc_uat_in : Bool := false
  cc_poa : Bool := false
  cc_b2_low : Bool := false
  cc_lw : Option Nat := none
  cc_antenna_offset : Nat := 0
  tah : HeadingType := .invalid
  hrd : HeadingType := .invalid

/-- `nav`. The modes are set also without `modes_valid`. -/
structure Navigation where
  heading : Option (ℚ × HeadingType) := none
  fms_altitude : Option (BitVec 32) := none
  mcp_altitude : Option (BitVec 32) := none
  qnh : Option ℚ := none
  altitude_source : NavAltitudeSource := .invalid
  modes_valid : Bool := false
  modes : NavModes := {}

/-- The decoded part of `struct modesMessage`, and `zeroMessage`. -/
structure Decoded where
  addr : BitVec 32 := 0
  addrtype : AddrType := .adsbIcao
  source : Source := .invalid
  reliable : Bool := false
  metype : BitVec 32 := 0
  mesub : BitVec 32 := 0
  commb_format : CommBFormat := .unknown
  altitude_baro : Option (Int × AltitudeUnit) := none
  altitude_geom : Option (Int × AltitudeUnit) := none
  geom_delta : Option Int := none
  heading : Option (ℚ × HeadingType) := none
  track_rate : Option ℚ := none
  roll : Option ℚ := none
  gs : Option Groundspeed := none
  ias : Option Nat := none
  tas : Option Nat := none
  mach : Option ℚ := none
  baro_rate : Option Int := none
  geom_rate : Option Int := none
  squawk : Option (BitVec 32) := none
  callsign : Option (List Byte) := none
  category : Option (BitVec 32) := none
  emergency : Option Emergency := none
  cpr_valid : Bool := false
  cpr_type : CprType := .surface
  cpr_odd : Bool := false
  cpr_lat : BitVec 32 := 0
  cpr_lon : BitVec 32 := 0
  airground : AirGround := .invalid
  alert : Option Bool := none
  spi : Option Bool := none
  accuracy : Accuracy := {}
  opstatus : OperationalStatus := {}
  nav : Navigation := {}
  mrar_source : Option MrarSource := none
  wind : Option Wind := none
  temperature : Option ℚ := none
  pressure : Option ℚ := none
  turbulence : Option Hazard := none
  humidity : Option ℚ := none

/-! ### Identification -/

section Squitter
variable (me : List Byte)

def decodeESIdentAndCategory (d : Decoded) : Decoded :=
  let mesub := getbits me 6 8
  { d with
    mesub := mesub
    callsign := if ∀ c ∈ callsignAt me, CallsignChar c then some (callsignAt me) else none
    category := some (((0x0E - d.metype) <<< 4) ||| mesub) }

/-- The type of an address that turns out not to be an ICAO one. -/
def imfAddrtype : AddrType → AddrType
  | .adsbIcao | .adsbIcaoNt => .adsbOther
  | .tisbIcao => .tisbTrackfile
  | .adsrIcao => .adsrOther
  | other => other

/-- `setIMF(mm)`. -/
def setIMF (d : Decoded) : Decoded :=
  { d with addr := d.addr ||| modesNonIcaoAddress, addrtype := imfAddrtype d.addrtype }

/-- `if (check_imf && getbit(me, bitnum)) setIMF(mm);`. -/
def checkIMF (check_imf : Bool) (bitnum : Nat) (d : Decoded) : Decoded :=
  if check_imf && isSet me bitnum then setIMF d else d

/-! ### Airborne velocity -/

variable (math : MathLibrary)

/-- The direction of a velocity. -/
def groundTrack (ew_vel ns_vel : Int) : ℚ :=
  let ground_track := math.atan2 ew_vel ns_vel * 180 / math.pi
  if ground_track < 0 then ground_track + 360 else ground_track

/-- Subtypes 1 and 2 of `decodeESAirborneVelocity`. -/
def decodeGroundVelocity (mesub : Nat) (d : Decoded) : Decoded :=
  let ew_raw := field me 15 24
  let ns_raw := field me 26 35
  if ew_raw ≠ 0 ∧ ns_raw ≠ 0 then
    let ew_vel : Int := (ew_raw - 1) * (if isSet me 14 then -1 else 1) * (if mesub = 2 then 4 else 1)
    let ns_vel : Int := (ns_raw - 1) * (if isSet me 25 then -1 else 1) * (if mesub = 2 then 4 else 1)
    let speed := math.sqrtf ((ns_vel * ns_vel : Int) + (ew_vel * ew_vel : Int) + 1 / 2)
    { d with
      gs := some ⟨speed, speed⟩
      heading := if speed > 0 then some (groundTrack math ew_vel ns_vel, .groundTrack) else d.heading }
  else d

/-- Subtypes 3 and 4. -/
def decodeAirspeed (mesub : Nat) (d : Decoded) : Decoded :=
  let airspeed := field me 26 35
  let speed := (airspeed - 1) * (if mesub = 4 then 4 else 1)
  { d with
    heading := if isSet me 14 then some ((field me 15 24 : ℚ) * 360 / 1024, .magneticOrTrue) else d.heading
    tas := if airspeed ≠ 0 ∧ isSet me 25 then some speed else d.tas
    ias := if airspeed ≠ 0 ∧ ¬ isSet me 25 then some speed else d.ias }

/-- The rest of the message, for all four subtypes. -/
def decodeVerticalRate (d : Decoded) : Decoded :=
  let vert_rate := field me 38 46
  let rate : Int := (vert_rate - 1) * (if isSet me 37 then -64 else 64)
  let raw_delta := field me 50 56
  let delta : Int := (raw_delta - 1) * (if isSet me 49 then -25 else 25)
  { d with
    baro_rate := if vert_rate ≠ 0 ∧ isSet me 36 then some rate else d.baro_rate
    geom_rate := if vert_rate ≠ 0 ∧ ¬ isSet me 36 then some rate else d.geom_rate
    geom_delta := if raw_delta ≠ 0 then some delta else d.geom_delta }

def decodeESAirborneVelocity (check_imf : Bool) (d : Decoded) : Decoded :=
  let mesub := field me 6 8
  let d := { d with mesub := getbits me 6 8 }
  if mesub < 1 ∨ mesub > 4 then d
  else
    let d := checkIMF me check_imf 9 d
    let d := { d with accuracy := { d.accuracy with nacV := some (field me 11 13) } }
    decodeVerticalRate me
      (if mesub ≤ 2 then decodeGroundVelocity me math mesub d else decodeAirspeed me mesub d)

/-! ### Positions -/

def decodeESSurfacePosition (check_imf : Bool) (d : Decoded) : Decoded :=
  let movement := field me 6 12
  let d := { d with
    airground := .ground
    cpr_valid := true
    cpr_type := .surface
    gs := if movement > 0 ∧ movement < 125 then
        some ⟨decodeMovementFieldV0 movement, decodeMovementFieldV2 movement⟩ else d.gs
    heading := if isSet me 13 then some ((field me 14 20 : ℚ) * 360 / 128, .trackOrHeading) else d.heading }
  let d := checkIMF me check_imf 21 d
  { d with cpr_odd := isSet me 22, cpr_lat := getbits me 23 39, cpr_lon := getbits me 40 56 }

/-- The surveillance status of an airborne position. -/
def decodeSurveillanceStatus (d : Decoded) : Decoded :=
  match field me 6 7 with
  | 0 => { d with alert := some false, spi := some false }
  | 1 | 2 => { d with alert := some true }
  | 3 => { d with alert := some false, spi := some true }
  | _ => d

/-- The eighth bit of an airborne position. -/
def decodeNicSupplement (check_imf : Bool) (d : Decoded) : Decoded :=
  if check_imf then checkIMF me true 8 d
  else { d with accuracy := { d.accuracy with nicB := some (bitField me 8) } }

/-- The CPR fields of an airborne position. -/
def decodeAirborneCpr (AC12Field : BitVec 32) (d : Decoded) : Decoded :=
  let cpr_lat := getbits me 23 39
  let cpr_lon := getbits me 40 56
  let d := { d with cpr_lat := cpr_lat, cpr_lon := cpr_lon }
  if AC12Field = 0 ∧ cpr_lon = 0 ∧ cpr_lat &&& 0x0fff = 0 ∧ d.metype = 15 then d
  else { d with cpr_valid := true, cpr_type := .airborne, cpr_odd := isSet me 22 }

/-- The altitude of an airborne position. -/
def decodeAirborneAltitude (AC12Field : BitVec 32) (d : Decoded) : Decoded :=
  if AC12Field ≠ 0 ∧ d.airground ≠ .ground then
    match decodeAC12Field AC12Field with
    | none => d
    | some altitude =>
      let airground := if d.airground = .invalid then .uncertain else d.airground
      let d : Decoded := { d with airground := airground }
      if d.metype = 20 ∨ d.metype = 21 ∨ d.metype = 22 then { d with altitude_geom := some altitude }
      else { d with altitude_baro := some altitude }
  else d

def decodeESAirbornePosition (check_imf : Bool) (d : Decoded) : Decoded :=
  let d := decodeNicSupplement me check_imf (decodeSurveillanceStatus me d)
  let AC12Field := getbits me 9 20
  let d := if d.metype = 0 then d else decodeAirborneCpr me AC12Field d
  decodeAirborneAltitude AC12Field d

/-! ### Status -/

/-- `if (ID13Field) { … }`. -/
def setSquawk (ID13Field : BitVec 32) (d : Decoded) : Decoded :=
  if ID13Field ≠ 0 then { d with squawk := some (decodeID13Field ID13Field) } else d

def decodeESTestMessage (d : Decoded) : Decoded :=
  let d := { d with mesub := getbits me 6 8 }
  if d.mesub = 7 then setSquawk (getbits me 9 21) d else d

def decodeESAircraftStatus (check_imf : Bool) (d : Decoded) : Decoded :=
  let d := { d with mesub := getbits me 6 8 }
  if d.mesub = 1 then
    let d := { d with emergency := some (emergencyOf (field me 9 11)) }
    checkIMF me check_imf 56 (setSquawk (getbits me 12 24) d)
  else d

/-! ### Target state and status -/

/-- The vertical source and mode of version 1, and the target altitude. -/
def decodeVerticalTarget (nav : Navigation) : Navigation :=
  let source := match field me 8 9 with
    | 1 => .mcp
    | 2 => .aircraft
    | 3 => .fms
    | _ => nav.altitude_source
  let nav := { nav with altitude_source := source }
  let nav := match field me 14 15 with
    | 1 => { nav with
        modes_valid := true
        modes := if source = .fms then { nav.modes with vnav := true }
          else { nav.modes with autopilot := true } }
    | 2 => { nav with
        modes_valid := true
        modes := if source = .fms then { nav.modes with vnav := true }
          else if source = .aircraft then { nav.modes with altHold := true }
          else { nav.modes with autopilot := true } }
    | _ => nav
  let alt := -1000 + 100 * getbits me 16 25
  match source with
  | .mcp => { nav with mcp_altitude := some alt }
  | .fms => { nav with fms_altitude := some alt }
  | _ => nav

/-- The horizontal source and mode of version 1, and the target heading. -/
def decodeHorizontalTarget (nav : Navigation) : Navigation :=
  let h_source := field me 26 27
  let nav := if h_source ≠ 0 then
      { nav with heading := some (field me 28 36, if isSet me 37 then .groundTrack else .magneticOrTrue) }
    else nav
  match field me 38 39 with
  | 1 | 2 => { nav with
      modes_valid := true
      modes := if h_source = 3 then { nav.modes with lnav := true }
        else { nav.modes with autopilot := true } }
  | _ => nav

/-- The TCAS status of version 1. -/
def decodeTcasStatus (nav : Navigation) : Navigation :=
  match field me 52 53 with
  | 1 => { nav with modes_valid := true }
  | 2 | 3 => { nav with modes_valid := true, modes := { nav.modes with tcas := true } }
  | 0 => { nav with modes := { nav.modes with tcas := true } }
  | _ => nav

/-- NACp, NICbaro and SIL, of both versions. -/
def decodeTargetAccuracy (accuracy : Accuracy) : Accuracy :=
  { accuracy with
    nacP := some (field me 40 43)
    nicBaro := some (bitField me 44)
    sil := field me 45 46
    silType := .unknown }

/-- Version 1 of `decodeESTargetStatus`. -/
def decodeTargetStatusV1 (d : Decoded) : Decoded :=
  { d with
    nav := decodeTcasStatus me (decodeHorizontalTarget me (decodeVerticalTarget me d.nav))
    accuracy := decodeTargetAccuracy me d.accuracy
    emergency := some (emergencyOf (field me 54 56)) }

/-- Version 2. -/
def decodeTargetStatusV2 (d : Decoded) : Decoded :=
  let is_fms := isSet me 9
  let alt_bits := getbits me 10 20
  let baro_bits := field me 21 29
  let altitude := (alt_bits - 1) * 32
  { d with
    nav := { d.nav with
      fms_altitude := if alt_bits ≠ 0 ∧ is_fms then some altitude else d.nav.fms_altitude
      mcp_altitude := if alt_bits ≠ 0 ∧ ¬ is_fms then some altitude else d.nav.mcp_altitude
      qnh := if baro_bits ≠ 0 then some (800 + (baro_bits - 1) * (8 / 10)) else d.nav.qnh
      heading := if isSet me 30 then some ((field me 31 39 : ℚ) * 180 / 256, .magneticOrTrue)
        else d.nav.heading
      modes_valid := d.nav.modes_valid || isSet me 47
      modes := if isSet me 47 then
          { autopilot := isSet me 48
            vnav := isSet me 49
            altHold := isSet me 50
            approach := isSet me 52
            tcas := isSet me 53
            lnav := isSet me 54 }
        else d.nav.modes }
    accuracy := decodeTargetAccuracy me d.accuracy }

def decodeESTargetStatus (check_imf : Bool) (d : Decoded) : Decoded :=
  let d := checkIMF me check_imf 51 { d with mesub := getbits me 6 7 }
  if d.mesub = 0 ∧ ¬ isSet me 11 then decodeTargetStatusV1 me d
  else if d.mesub = 1 then decodeTargetStatusV2 me d
  else d

/-! ### Operational status -/

/-- The operational modes of versions 1 and 2. -/
def decodeOperationalModes (s : OperationalStatus) : OperationalStatus :=
  if field me 25 26 = 0 then
    { s with om_acas_ra := isSet me 27, om_ident := isSet me 28, om_atc := isSet me 29 }
  else s

/-- The heading reference direction, and what surface movements report. -/
def decodeHeadingReference (mesub : BitVec 32) (s : OperationalStatus) : OperationalStatus :=
  let s := { s with hrd := if isSet me 54 then .magnetic else .trueHeading }
  if mesub = 0 then s else { s with tah := if isSet me 53 then s.hrd else .groundTrack }

/-- `case 1` of `decodeESOperationalStatus`. -/
def decodeOperationalStatusV1 (d : Decoded) : Decoded :=
  let s := decodeOperationalModes me d.opstatus
  let s := if d.mesub = 0 ∧ field me 9 10 = 0 ∧ field me 13 14 = 0 then
      { s with
        cc_acas := !isSet me 11
        cc_cdti := isSet me 12
        cc_arv := isSet me 15
        cc_ts := isSet me 16
        cc_tc := field me 17 18 }
    else if d.mesub = 1 ∧ field me 9 10 = 0 ∧ field me 13 14 = 0 then
      { s with
        cc_poa := isSet me 11
        cc_cdti := isSet me 12
        cc_b2_low := isSet me 15
        cc_lw := some (field me 21 24) }
    else s
  { d with
    opstatus := decodeHeadingReference me d.mesub s
    accuracy := { d.accuracy with
      nicA := some (bitField me 44)
      nacP := some (field me 45 48)
      silType := .unknown
      sil := field me 51 52
      nicBaro := if d.mesub = 0 then some (bitField me 53) else d.accuracy.nicBaro } }

/-- `case 2`. -/
def decodeOperationalStatusV2 (d : Decoded) : Decoded :=
  let s := decodeOperationalModes me d.opstatus
  let s := if field me 25 26 = 0 then { s with om_saf := isSet me 30 } else s
  let airborne := d.mesub = 0 ∧ field me 9 10 = 0
  let surface := d.mesub = 1 ∧ field me 9 10 = 0
  let s := if airborne then
      { s with
        cc_acas := isSet me 11
        cc_1090_in := isSet me 12
        cc_arv := isSet me 15
        cc_ts := isSet me 16
        cc_tc := field me 17 18
        cc_uat_in := isSet me 19 }
    else if surface then
      { s with
        cc_poa := isSet me 11
        cc_1090_in := isSet me 12
        cc_b2_low := isSet me 15
        cc_uat_in := isSet me 16
        cc_lw := some (field me 21 24)
        cc_antenna_offset := field me 33 40 }
    else s
  { d with
    opstatus := decodeHeadingReference me d.mesub s
    accuracy := { d.accuracy with
      sda := if field me 25 26 = 0 then some (field me 31 32) else d.accuracy.sda
      nacV := if surface then some (field me 17 19) else d.accuracy.nacV
      nicC := if surface then some (bitField me 20) else d.accuracy.nicC
      nicA := some (bitField me 44)
      nacP := some (field me 45 48)
      sil := field me 51 52
      silType := if isSet me 55 then .perSample else .perHour
      gva := if d.mesub = 0 then some (field me 49 50) else d.accuracy.gva
      nicBaro := if d.mesub = 0 then some (bitField me 53) else d.accuracy.nicBaro } }

def decodeESOperationalStatus (check_imf : Bool) (d : Decoded) : Decoded :=
  let d := checkIMF me check_imf 56 { d with mesub := getbits me 6 8 }
  if d.mesub = 0 ∨ d.mesub = 1 then
    let version := field me 41 43
    let d := { d with opstatus := { d.opstatus with valid := true, version := version } }
    match version with
    | 0 =>
      if d.mesub = 0 ∧ field me 9 10 = 0 then
        { d with opstatus := { d.opstatus with cc_acas := !isSet me 12, cc_cdti := isSet me 13 } }
      else d
    | 1 => decodeOperationalStatusV1 me d
    | 2 => decodeOperationalStatusV2 me d
    | _ => d
  else d

/-! ### Extended squitters -/

/-- The `switch (metype)` of `decodeExtendedSquitter`. -/
def decodeMetype (check_imf : Bool) (d : Decoded) : Decoded :=
  match d.metype.toNat with
  | 1 | 2 | 3 | 4 => decodeESIdentAndCategory me d
  | 19 => decodeESAirborneVelocity me math check_imf d
  | 5 | 6 | 7 | 8 => decodeESSurfacePosition me check_imf d
  | 0 | 9 | 10 | 11 | 12 | 13 | 14 | 15 | 16 | 17 | 18 | 20 | 21 | 22 =>
    decodeESAirbornePosition me check_imf d
  | 23 => decodeESTestMessage me d
  | 24 | 30 => d
  | 28 => decodeESAircraftStatus me check_imf d
  | 29 => decodeESTargetStatus me check_imf d
  | 31 => decodeESOperationalStatus me check_imf d
  | _ => { d with reliable := false }

/-- `mm->addr |= MODES_NON_ICAO_ADDRESS;`. -/
def markNonIcao (d : Decoded) : Decoded := { d with addr := d.addr ||| modesNonIcaoAddress }

/-- `decodeExtendedSquitter(mm)`. -/
def decodeExtendedSquitter (msgtype : Nat) (CF : BitVec 32) (d : Decoded) : Decoded :=
  let d := { d with metype := getbits me 1 5 }
  if msgtype = 18 then
    match CF.toNat with
    | 0 => decodeMetype me math false { d with addrtype := .adsbIcaoNt }
    | 1 => decodeMetype me math false (markNonIcao { d with addrtype := .adsbOther })
    | 2 => decodeMetype me math true { d with source := .tisb, addrtype := .tisbIcao }
    | 3 => checkIMF me true 1 { d with source := .tisb, addrtype := .tisbIcao }
    | 5 => decodeMetype me math false (markNonIcao { d with addrtype := .tisbOther, source := .tisb })
    | 6 => decodeMetype me math true { d with addrtype := .adsrIcao, source := .adsr }
    | _ => markNonIcao { d with addrtype := .unknown }
  else decodeMetype me math false d

end Squitter

end RbFeeder.ModeS
