import RbFeeder.ModeS.Squitter

/-! The decoders of Comm-B replies: `comm_b.c`.

A reply does not say which register it comes from. Every decoder gives a score for how
well the reply fits its register; the best one decodes it, unless another is as good. -/
namespace RbFeeder.ModeS
open Tracker (MrarSource Hazard Wind NavAltitudeSource NavModes)

/-- `CommBDecoderFn`: the score, and the message if it is stored. -/
abbrev CommBDecoder := Bool → Decoded → Int × Decoded

section Registers
variable (msg : List Byte)

/-! ### Registers with an identifier -/

def decodeEmptyResponse : CommBDecoder := fun store d =>
  if byteAt msg 0 ∉ ([0x00, 0x40, 0x50, 0x60] : List Byte) then (0, d)
  else if (List.range 6).any fun i => byteAt msg (i + 1) ≠ 0 then (0, d)
  else (56, if store then { d with commb_format := .emptyResponse } else d)

def decodeBDS10 : CommBDecoder := fun store d =>
  if byteAt msg 0 ≠ 0x10 then (0, d)
  else if getbits msg 10 14 ≠ 0 then (0, d)
  else (56, if store then { d with commb_format := .datalinkCaps } else d)

/-- The sum of the scores of the bits that are set. -/
def scoreBits (bits : List (Nat × Int)) : Int :=
  (bits.map fun bit => if isSet msg bit.1 then bit.2 else 0).sum

def decodeBDS17 : CommBDecoder := fun store d =>
  if getbits msg 25 56 ≠ 0 then (0, d)
  else
    let bit := isSet msg
    let ident : Int := if bit 7 then 1 else -2
    let unlikely := scoreBits msg [(10, -2), (11, -2), (12, -2), (13, -1), (14, -1), (20, -2), (21, -2), (22, -2)]
    let squitter : Int :=
      if bit 1 && bit 2 && bit 3 && bit 4 && bit 5 then (if bit 6 then 6 else 5)
      else if !bit 1 && !bit 2 && !bit 3 && !bit 4 && !bit 5 && !bit 6 then 1
      else if !bit 1 && !bit 2 && bit 3 && bit 4 && bit 5 then 3
      else -12
    let reports : Int :=
      if bit 16 && bit 24 then (if bit 9 then 3 else 2)
      else if !bit 16 && !bit 24 && !bit 9 then 1
      else -6
    (ident + unlikely + squitter + reports, if store then { d with commb_format := .gicbCaps } else d)

def decodeBDS20 : CommBDecoder := fun store d =>
  let callsign := callsignAt msg
  if byteAt msg 0 ≠ 0x20 then (0, d)
  else if ∃ c ∈ callsign, ¬ CallsignChar c ∧ c ≠ 0x40 then (0, d)
  else
    -- padding is accepted, but the callsign is not used then
    (8 + 6 * (callsign.countP fun c => decide (CallsignChar c)),
      if store then { d with
        commb_format := .aircraftIdent
        callsign := if ∀ c ∈ callsign, CallsignChar c then some callsign else d.callsign }
      else d)

def decodeBDS30 : CommBDecoder := fun store d =>
  if byteAt msg 0 ≠ 0x30 then (0, d)
  else (56, if store then { d with commb_format := .acasRa } else d)

/-! ### Plausible values -/

/-- The score of a value with a status bit that is not sent as 0. -/
def scoreNonzero (valid : Bool) (raw : Nat) (likely : Bool) (score : Int) : Option Int :=
  if valid && raw ≠ 0 then (if likely then some score else none)
  else if !valid && raw = 0 then some 1
  else none

/-- The score of a value with a status bit; `blank` says that without it all bits are 0. -/
def scoreValid (valid blank likely : Bool) (score : Int) : Option Int :=
  if valid then (if likely then some score else none)
  else if blank then some 1
  else none

/-- The score of the one or the other altitude of `decodeBDS40`. -/
def scoreAltitude (valid : Bool) (raw : BitVec 32) : Option Int :=
  scoreNonzero valid raw.toNat (1000 ≤ raw * 16 ∧ raw * 16 ≤ 50000) 13

/-- The penalty for an altitude that is no multiple of 500. -/
def oddAltitude (valid : Bool) (altitude : BitVec 32) : Int :=
  let remainder := altitude % 500
  if valid && !(remainder < 16 || remainder > 484) then -4 else 0

def decodeBDS40 : CommBDecoder := fun store d =>
  let mcp_valid := isSet msg 1
  let mcp_alt := getbits msg 2 13 * 16
  let fms_valid := isSet msg 14
  let fms_alt := getbits msg 15 26 * 16
  let baro_valid := isSet msg 27
  let baro_raw := field msg 28 39
  let baro_setting : ℚ := 800 + baro_raw * (1 / 10)
  let mode_valid := isSet msg 48
  let mode_raw := getbits msg 49 51
  let source_valid := isSet msg 54
  let source_raw := field msg 55 56
  if !mcp_valid && !fms_valid && !baro_valid && !mode_valid && !source_valid then (0, d)
  else
    let likely := do
      let mcp ← scoreAltitude mcp_valid (getbits msg 2 13)
      let fms ← scoreAltitude fms_valid (getbits msg 15 26)
      let baro ← scoreNonzero baro_valid baro_raw (900 ≤ baro_setting ∧ baro_setting ≤ 1100) 13
      let mode ← scoreValid mode_valid (mode_raw = 0) true 4
      let source ← scoreValid source_valid (source_raw = 0) true 3
      if field msg 40 47 = 0 ∧ field msg 52 53 = 0 then some (mcp + fms + baro + mode + source) else none
    match likely with
    | none => (0, d)
    | some score =>
      (score + (if mcp_valid && fms_valid && mcp_alt ≠ fms_alt then -4 else 0) +
          oddAltitude mcp_valid mcp_alt + oddAltitude fms_valid fms_alt,
        if store then { d with
          commb_format := .verticalIntent
          nav := { d.nav with
            mcp_altitude := if mcp_valid then some mcp_alt else d.nav.mcp_altitude
            fms_altitude := if fms_valid then some fms_alt else d.nav.fms_altitude
            qnh := if baro_valid then some baro_setting else d.nav.qnh
            modes_valid := d.nav.modes_valid || mode_valid
            modes := if mode_valid then
                { vnav := mode_raw &&& 4 ≠ 0, altHold := mode_raw &&& 2 ≠ 0, approach := mode_raw &&& 1 ≠ 0 }
              else d.nav.modes
            altitude_source := if source_valid then
                match source_raw with
                | 0 => .unknown
                | 1 => .aircraft
                | 2 => .mcp
                | 3 => .fms
                | _ => .invalid
              else .invalid } }
        else d)

/-! ### Track, heading and speed -/

variable (math : MathLibrary)

/-- A direction of eleven bits, the first of which is the sign. -/
def direction (sign : Bool) (raw : Nat) : ℚ := (raw : ℚ) * 90 / 512 + if sign then 180 else 0

/-- The score of the one or the other speed of `decodeBDS50`. -/
def scoreSpeed (valid : Bool) (raw : Nat) : Option Int :=
  scoreNonzero valid raw (50 ≤ raw * 2 ∧ raw * 2 ≤ 700) 11

def decodeBDS50 : CommBDecoder := fun store d =>
  let roll_valid := isSet msg 1
  let roll_raw := field msg 3 11
  let roll : ℚ := (roll_raw : ℚ) * 45 / 256 - if isSet msg 2 then 90 else 0
  let track_valid := isSet msg 12
  let track := direction (isSet msg 13) (field msg 14 23)
  let gs_valid := isSet msg 24
  let gs_raw := field msg 25 34
  let track_rate_valid := isSet msg 35
  let track_rate_raw := field msg 37 45
  let track_rate : ℚ := (track_rate_raw : ℚ) * 8 / 256 - if isSet msg 36 then 16 else 0
  let tas_valid := isSet msg 46
  let tas_raw := field msg 47 56
  if !roll_valid || !track_valid || !gs_valid || !tas_valid then (0, d)
  else
    let likely := do
      let roll ← scoreValid roll_valid (roll_raw = 0 && !isSet msg 2) (-40 ≤ roll ∧ roll < 40) 11
      let track ← scoreValid track_valid (field msg 14 23 = 0 && !isSet msg 13) true 12
      let gs ← scoreSpeed gs_valid gs_raw
      let rate ← scoreValid track_rate_valid (track_rate_raw = 0 && !isSet msg 36)
        (-10 ≤ track_rate ∧ track_rate ≤ 10) 11
      let tas ← scoreSpeed tas_valid tas_raw
      some (roll + track + gs + rate + tas)
    match likely with
    | none => (0, d)
    | some score =>
      let tas := tas_raw * 2
      -- the difference of the two status bits, not of the speeds
      let delta := |(gs_valid.toNat : Int) - tas_valid.toNat|
      let turn_rate := 68625 * math.tan (roll * math.pi / 180) / (tas * 20 * math.pi)
      (score + (if gs_valid && tas_valid && delta > 150 then -6 else 0) +
          (if roll_valid && tas_valid && tas > 0 && track_rate_valid && |turn_rate - track_rate| > 2
            then -6 else 0),
        if store then { d with
          commb_format := .trackTurn
          roll := if roll_valid then some roll else d.roll
          heading := if track_valid then some (track, .groundTrack) else d.heading
          gs := if gs_valid then some ⟨gs_raw * 2, gs_raw * 2⟩ else d.gs
          track_rate := if track_rate_valid then some track_rate else d.track_rate
          tas := if tas_valid then some tas else d.tas }
        else d)

/-- A vertical rate, of ten bits in steps of 32 ft/min. -/
def verticalRate (sign : Bool) (raw : Nat) : Int := raw * 32 - if sign then 16384 else 0

def scoreRate (valid : Bool) (raw : Nat) (rate : Int) : Option Int :=
  scoreValid valid (raw = 0) (-6000 ≤ rate ∧ rate ≤ 6000) 11

def decodeBDS60 : CommBDecoder := fun store d =>
  let heading_valid := isSet msg 1
  let heading := direction (isSet msg 2) (field msg 3 12)
  let ias_valid := isSet msg 13
  let ias := field msg 14 23
  let mach_valid := isSet msg 24
  let mach_raw := field msg 25 34
  let mach : ℚ := (mach_raw : ℚ) * (2048 / 1000) / 512
  let baro_rate_valid := isSet msg 35
  let baro_rate := verticalRate (isSet msg 36) (field msg 37 45)
  let inertial_rate_valid := isSet msg 46
  let inertial_rate := verticalRate (isSet msg 47) (field msg 48 56)
  if !heading_valid || !ias_valid || !mach_valid || (!baro_rate_valid && !inertial_rate_valid) then (0, d)
  else
    let likely := do
      let heading ← scoreValid heading_valid (field msg 3 12 = 0 && !isSet msg 2) true 12
      let ias ← scoreNonzero ias_valid ias (50 ≤ ias ∧ ias ≤ 700) 11
      let mach ← scoreNonzero mach_valid mach_raw (1 / 10 ≤ mach ∧ mach ≤ 9 / 10) 11
      let baro ← scoreRate baro_rate_valid (field msg 37 45) baro_rate
      let inertial ← scoreRate inertial_rate_valid (field msg 48 56) inertial_rate
      some (heading + ias + mach + baro + inertial)
    match likely with
    | none => (0, d)
    | some score =>
      (score + (if baro_rate_valid && inertial_rate_valid && |baro_rate - inertial_rate| > 2000
          then -12 else 0),
        if store then { d with
          commb_format := .headingSpeed
          heading := if heading_valid then some (heading, .magnetic) else d.heading
          ias := if ias_valid then some ias else d.ias
          mach := if mach_valid then some mach else d.mach
          baro_rate := if baro_rate_valid then some baro_rate else d.baro_rate
          geom_rate := if inertial_rate_valid then some inertial_rate else d.geom_rate }
        else d)

/-! ### Weather -/

/-- `mrar_source_t`, from its number. -/
def mrarSourceOf : Nat → MrarSource
  | 0 => .invalid
  | 1 => .ins
  | 2 => .gnss
  | 3 => .dmedme
  | 4 => .vordme
  | _ => .reserved

/-- `hazard_t`, from its number. -/
def hazardOf : Nat → Hazard
  | 0 => .nil
  | 1 => .light
  | 2 => .moderate
  | _ => .severe

def decodeBDS44 : CommBDecoder := fun store d =>
  let source := field msg 1 4
  let wind_valid := isSet msg 5
  let windspeed_raw := field msg 6 14
  let wind_dir : ℚ := field msg 15 23 * (180 / 256)
  let sat_valid := isSet msg 24
  let sat : ℚ := field msg 26 34 * (1 / 4) - if isSet msg 25 then 128 else 0
  let asp_valid := isSet msg 35
  let asp_raw := field msg 36 46
  let turbulence_valid := isSet msg 47
  let turbulence_raw := field msg 48 49
  let humidity_valid := isSet msg 50
  let humidity_raw := field msg 51 56
  if source = 0 ∨ 5 ≤ source then (0, d)
  else if !wind_valid || !sat_valid then (0, d)
  else if !asp_valid && asp_raw ≠ 0 then (0, d)
  else if !turbulence_valid && turbulence_raw ≠ 0 then (0, d)
  else if !humidity_valid && humidity_raw ≠ 0 then (0, d)
  else
    let likely := do
      let wind ← if wind_valid then
          (if windspeed_raw = 0 then some 2 else if windspeed_raw ≤ 250 then some 19 else none)
        else some (1 : Int)
      let temperature ← if sat_valid then
          (if sat = 0 then some 2 else if -80 ≤ sat ∧ sat ≤ 60 then some 11 else none)
        else some (1 : Int)
      let pressure ← if asp_valid then (if 25 ≤ asp_raw ∧ asp_raw ≤ 1100 then some 12 else none)
        else some (1 : Int)
      some (wind + temperature + pressure + (if turbulence_valid then 3 else 1) +
        (if humidity_valid then 7 else 1))
    match likely with
    | none => (0, d)
    | some score =>
      -- GICB reports are easily mistaken for one with this source
      (if source = 3 && wind_valid && sat_valid && score > 0 then 1 else score,
        if store then { d with
          commb_format := .mrar
          mrar_source := some (mrarSourceOf source)
          wind := if wind_valid then some ⟨windspeed_raw, wind_dir⟩ else d.wind
          temperature := if sat_valid then some sat else d.temperature
          pressure := if asp_valid then some (asp_raw : ℚ) else d.pressure
          turbulence := if turbulence_valid then some (hazardOf turbulence_raw) else d.turbulence
          humidity := if humidity_valid then some (humidity_raw * (100 / 64)) else d.humidity }
        else d)

/-! ### Positions -/

/-- `decodeBDS05`, which looks at the type and the altitude code of the surrounding message. -/
def decodeBDS05 (msgtype : Nat) (AC : BitVec 32) : CommBDecoder := fun store d =>
  let typecode := field msg 1 5
  let ac12 := getbits msg 9 20
  let ac13 := ((ac12 &&& 0x0FC0) <<< 1) ||| (ac12 &&& 0x003F)
  if msgtype ≠ 20 then (0, d)
  else if typecode < 9 ∨ 18 < typecode then (0, d)
  else if isSet msg 21 then (0, d)
  else if ac12 = 0 then (0, d)
  else if AC ≠ ac13 then (0, d)
  else if field msg 23 39 = 0 ∨ field msg 40 56 = 0 then (0, d)
  else (100, if store then { d with commb_format := .airbornePosition } else d)

/-! ### The choice -/

def comm_b_decoders (msgtype : Nat) (AC : BitVec 32) : List CommBDecoder :=
  [ decodeEmptyResponse msg, decodeBDS10 msg, decodeBDS20 msg, decodeBDS30 msg, decodeBDS17 msg,
    decodeBDS40 msg, decodeBDS50 msg math, decodeBDS60 msg, decodeBDS44 msg, decodeBDS05 msg msgtype AC ]

end Registers

/-- `bestScore`, `bestDecoder` and `ambiguous`. -/
structure Choice where
  bestScore : Int
  bestDecoder : Option CommBDecoder
  ambiguous : Bool

/-- The body of the loop of `decodeCommB`. -/
def Choice.consider (d : Decoded) (best : Choice) (decoder : CommBDecoder) : Choice :=
  let score := (decoder false d).1
  if score > best.bestScore then ⟨score, some decoder, false⟩
  else if score = best.bestScore then { best with ambiguous := true }
  else best

/-- `decodeCommB(mm)`; `blocked` says that `DR`, `UM` or `correctedbits` is not 0. -/
def decodeCommB (decoders : List CommBDecoder) (blocked : Bool) (d : Decoded) : Decoded :=
  if blocked then { d with commb_format := .notDecoded }
  else
    let best := decoders.foldl (Choice.consider d) ⟨0, none, false⟩
    match best.bestDecoder with
    | none => { d with commb_format := .unknown }
    | some decoder =>
      if best.ambiguous then { d with commb_format := .ambiguous } else (decoder true d).2

end RbFeeder.ModeS
