import RbFeeder.ModeS.Fields
import RbFeeder.Net.Network
import RbFeeder.Tracker.Record

/-! The FATSV output: `writeFATSV` of `net_io.c`.

Once a second at most every aircraft is looked at, and a line with its data is written
to the service if enough time has passed since the last one. Most data goes out
whenever it has been received again. Eight fields go out only on change: the aircraft
keeps the values that were emitted, and all of them are assigned at the end of the line.

A line is a list of fields here. `p` moves on past `end` by what would have been
written, so at the end `p < end` says that the whole line is shorter than the buffer.
`float` and `double` are exact, except that the division by `faup_rate_multiplier`, which is 0 until
it is set, is that of IEEE. -/
namespace RbFeeder.Net.Fatsv
open ModeS (Byte modesNonIcaoAddress)
open Track (Millis Source DataValidity)
open Tracker

/-! ### Text -/

abbrev Text := List Byte

def chars (s : List Char) : Text := s.map fun c => BitVec.ofNat 8 c.toNat

def text (s : String) : Text := chars s.toList

def tab : Byte := 0x09

/-- At least `width` characters, with leading zeros. -/
def padded (width : Nat) (s : List Char) : Text := chars (List.replicate (width - s.length) '0' ++ s)

/-- `%u`. -/
def unsigned (n : Nat) : Text := chars (Nat.toDigits 10 n)

/-- `%d`. -/
def signed (i : Int) : Text := if i < 0 then text "-" ++ unsigned i.natAbs else unsigned i.natAbs

/-- `%0[width]x`. -/
def hex (width n : Nat) : Text := padded width (Nat.toDigits 16 n)

/-- `%0[width]X`. -/
def upperHex (width n : Nat) : Text := padded width ((Nat.toDigits 16 n).map Char.toUpper)

/-- The nearest integer, and of two the even one. -/
def roundEven (q : ℚ) : Nat :=
  let low := q.floor.toNat
  if q - low < 1 / 2 then low
  else if q - low > 1 / 2 then low + 1
  else if low % 2 = 0 then low else low + 1

/-- `%.[digits]f`. -/
def fixed (digits : Nat) (q : ℚ) : Text :=
  let scaled := roundEven (|q| * 10 ^ digits)
  let whole := unsigned (scaled / 10 ^ digits)
  let point := if digits = 0 then [] else
    text "." ++ padded digits (Nat.toDigits 10 (scaled % 10 ^ digits))
  (if q < 0 then text "-" else []) ++ whole ++ point

/-- The characters up to the terminating zero. -/
def cString (s : List Byte) : Text := s.takeWhile (· ≠ 0)

/-! ### Names of values -/

def addrtype_enum_string : AddrType → Text
  | .adsbIcao => text "adsb_icao"
  | .adsbIcaoNt => text "adsb_icao_nt"
  | .adsrIcao => text "adsr_icao"
  | .tisbIcao => text "tisb_icao"
  | .adsbOther => text "adsb_other"
  | .adsrOther => text "adsr_other"
  | .tisbOther => text "tisb_other"
  | .tisbTrackfile => text "tisb_trackfile"
  | .modeA | .unknown => text "unknown"

def sil_type_enum_string : SilType → Text
  | .unknown => text "unknown"
  | .perHour => text "perhour"
  | .perSample => text "persample"
  | .invalid => text "invalid"

def airground_enum_string : AirGround → Text
  | .airborne => text "A+"
  | .ground => text "G+"
  | .invalid | .uncertain => text "?"

def emergency_enum_string : Emergency → Text
  | .none => text "none"
  | .general => text "general"
  | .lifeguard => text "lifeguard"
  | .minfuel => text "minfuel"
  | .nordo => text "nordo"
  | .unlawful => text "unlawful"
  | .downed => text "downed"
  | .reserved => text "reserved"

def nav_altitude_source_enum_string : NavAltitudeSource → Text
  | .invalid => text "invalid"
  | .unknown => text "unknown"
  | .aircraft => text "aircraft"
  | .mcp => text "mcp"
  | .fms => text "fms"

def mrar_source_enum_string : MrarSource → Text
  | .invalid => text "invalid"
  | .ins => text "ins"
  | .gnss => text "gnss"
  | .dmedme => text "dmedme"
  | .vordme => text "vordme"
  | .reserved => text "reserved"

def hazard_enum_string : Hazard → Text
  | .nil => text "nil"
  | .light => text "light"
  | .moderate => text "moderate"
  | .severe => text "severe"

def nav_modes_flags_string (flags : NavModes) : Text :=
  (text " ").intercalate <| List.reduceOption
    [ if flags.autopilot then some (text "autopilot") else none,
      if flags.vnav then some (text "vnav") else none,
      if flags.altHold then some (text "althold") else none,
      if flags.approach then some (text "approach") else none,
      if flags.lnav then some (text "lnav") else none,
      if flags.tcas then some (text "tcas") else none ]

/-! ### What was emitted -/

/-- The `fatsv_` members of an aircraft. -/
structure Emitted where
  /-- `fatsv_emitted_X`, for the data that has one. -/
  data : (f : Datum) → f.Value
  addrtype : AddrType
  adsbVersion : Int
  category : Nat
  last_emitted : Millis
  last_force_emit : Millis

/-- The data for which there is a `fatsv_emitted_X`. -/
def Recorded : Datum → Bool
  | .callsign | .altitudeBaro | .altitudeGeom | .gs | .ias | .tas | .mach | .track | .trackRate => true
  | .roll | .magHeading | .trueHeading | .baroRate | .geomRate | .squawk | .emergency => true
  | .airground | .navQnh | .navAltitudeMcp | .navAltitudeFms | .navAltitudeSrc | .navHeading => true
  | .navModes | .nicBaro | .nacP | .nacV | .sil => true
  | .geomDelta | .cprOdd | .cprEven | .position | .nicA | .nicC | .gva | .sda => false
  | .mrarSource | .wind | .temperature | .pressure | .turbulence | .humidity => false

/-- The assignments at the end of the loop of `writeFATSV`. -/
def Emitted.record (e : Emitted) (now : Millis) (forceEmit : Bool) (a : Aircraft) : Emitted where
  data f := if Recorded f then (a.data f).value else e.data f
  addrtype := a.addrtype
  adsbVersion := a.adsbVersion
  category := a.category
  last_emitted := now
  last_force_emit := if forceEmit then now else e.last_force_emit

/-! ### Fields -/

/-- A field of a line. -/
structure Field where
  name : String
  value : Text
deriving DecidableEq

/-- `appendFATSV` with a formatted value. -/
def Field.bytes (f : Field) : Text := text f.name ++ [tab] ++ f.value ++ [tab]

/-- `sourcetype`, for the sources that are forwarded. -/
def sourcetype : Source → Option Text
  | .modeS => some (text "U")
  | .modeSChecked => some (text "S")
  | .tisb => some (text "T")
  | .adsr => some (text "R")
  | .adsb => some (text "A")
  | .invalid | .modeAC | .mlat => none

section Aircraft
variable (a : Aircraft) (e : Emitted)

/-- `trackDataValid(&a->X_valid)`, while `messageNow()` is `a->seen`. -/
def trackDataValid (f : Datum) : Bool := a.Valid a.seen f

def value (f : Datum) : f.Value := (a.data f).value

/-- The age in seconds that is sent with a value. -/
def ageSeconds (f : Datum) : Nat := (a.seen - (a.data f).valid.updated).toNat / 1000

/-- `appendFATSVMeta(p, end, field, a, &a->X_valid, …)`, `none` if nothing is appended. -/
def appendFATSVMeta (field : String) (f : Datum) (value : Text) : Option Field :=
  match sourcetype (a.data f).valid.source with
  | none => none
  | some sourcetype =>
    if ¬ trackDataValid a f then none
    else if (a.data f).valid.updated > a.seen then none
    else if (a.data f).valid.updated < e.last_emitted then none
    else if ageSeconds a f > 255 then none
    else some ⟨field, value ++ text " " ++ unsigned (ageSeconds a f) ++ text " " ++ sourcetype⟩

/-! ### Special cases -/

def airgroundValid : Bool :=
  trackDataValid a .airground && (a.data .airground).valid.source.rank ≥ Source.modeSChecked.rank

def gsValid : Bool := trackDataValid a .gs

def squawkValid : Bool := trackDataValid a .squawk

def callsignValid : Bool :=
  trackDataValid a .callsign && cString (value a .callsign) ≠ text "        "

def positionValid : Bool := trackDataValid a .position

def altValid : Bool :=
  trackDataValid a .altitudeBaro &&
    !(airgroundValid a && value a .airground == AirGround.ground &&
      (a.data .altitudeBaro).valid.source.rank < Source.modeSChecked.rank)

/-! ### When a line is due -/

def unsigned_difference (v1 v2 : Nat) : Nat := if v1 > v2 then v1 - v2 else v2 - v1

def heading_difference (h1 h2 : ℚ) : ℚ := if |h1 - h2| < 180 then |h1 - h2| else 360 - |h1 - h2|

/-- A difference between the datum and what was emitted. -/
def differs (f : Datum) (difference : f.Value → f.Value → Bool) : Bool :=
  difference (value a f) (e.data f)

def changed : Bool :=
  altValid a && differs a e .altitudeBaro (fun v w => 50 ≤ |(v : Int) - w|) ||
  trackDataValid a .altitudeGeom && differs a e .altitudeGeom (fun v w => 50 ≤ |(v : Int) - w|) ||
  trackDataValid a .baroRate && differs a e .baroRate (fun v w => 500 < |(v : Int) - w|) ||
  trackDataValid a .geomRate && differs a e .geomRate (fun v w => 500 < |(v : Int) - w|) ||
  trackDataValid a .track && differs a e .track (fun v w => 2 ≤ heading_difference v w) ||
  trackDataValid a .trackRate && differs a e .trackRate (fun v w => 1 / 2 ≤ |(v : ℚ) - w|) ||
  trackDataValid a .roll && differs a e .roll (fun v w => 5 ≤ |(v : ℚ) - w|) ||
  trackDataValid a .magHeading && differs a e .magHeading (fun v w => 2 ≤ heading_difference v w) ||
  trackDataValid a .trueHeading && differs a e .trueHeading (fun v w => 2 ≤ heading_difference v w) ||
  gsValid a && differs a e .gs (fun v w => 25 ≤ |(v : ℚ) - w|) ||
  trackDataValid a .ias && differs a e .ias (fun v w => 25 ≤ unsigned_difference v w) ||
  trackDataValid a .tas && differs a e .tas (fun v w => 25 ≤ unsigned_difference v w) ||
  trackDataValid a .mach && differs a e .mach (fun v w => 2 / 100 ≤ |(v : ℚ) - w|)

/-- Data without a `fatsv_emitted_X` that has been updated. -/
def updatedSince (f : Datum) : Bool :=
  trackDataValid a f && (a.data f).valid.updated > e.last_emitted

def immediate : Bool :=
  trackDataValid a .navAltitudeMcp && differs a e .navAltitudeMcp (fun v w => 50 < unsigned_difference v w) ||
  trackDataValid a .navAltitudeFms && differs a e .navAltitudeFms (fun v w => 50 < unsigned_difference v w) ||
  trackDataValid a .navAltitudeSrc && differs a e .navAltitudeSrc (fun v w => (v : NavAltitudeSource) ≠ w) ||
  trackDataValid a .navHeading && differs a e .navHeading (fun v w => 2 < heading_difference v w) ||
  trackDataValid a .navModes && differs a e .navModes (fun v w => (v : NavModes) ≠ w) ||
  trackDataValid a .navQnh && differs a e .navQnh (fun v w => 8 / 10 < |(v : ℚ) - w|) ||
  callsignValid a && differs a e .callsign (fun v w => cString v ≠ cString w) ||
  airgroundValid a && value a .airground == AirGround.airborne && e.data .airground == AirGround.ground ||
  airgroundValid a && value a .airground == AirGround.ground && e.data .airground == AirGround.airborne ||
  squawkValid a && differs a e .squawk (fun v w => (v : Nat) ≠ w) ||
  trackDataValid a .emergency && differs a e .emergency (fun v w => (v : Emergency) ≠ w) ||
  updatedSince a e .mrarSource || updatedSince a e .wind || updatedSince a e .pressure ||
  updatedSince a e .temperature || updatedSince a e .turbulence || updatedSince a e .humidity

def altitudeBelow (altitude : Int) : Bool := decide ((value a .altitudeBaro : Int) < altitude)

def gsBelow (gs : ℚ) : Bool := decide ((value a .gs : ℚ) < gs)

def minAge : Nat :=
  if immediate a e then 0
  else if ¬ positionValid a then 30000
  else if airgroundValid a && value a .airground == AirGround.ground ||
      altValid a && altitudeBelow a 500 && (!gsValid a || gsBelow a 200) ||
      gsValid a && gsBelow a 100 && (!altValid a || altitudeBelow a 1000) then 1000
  else if !altValid a || altitudeBelow a 10000 then (if changed a e then 5000 else 10000)
  else (if changed a e then 10000 else 30000)

/-- `age < minAge / faup_rate_multiplier`. -/
def tooYoung (faup_rate_multiplier : ℚ) (age minAge : Nat) : Bool :=
  if faup_rate_multiplier = 0 then minAge ≠ 0 else (age : ℚ) < minAge / faup_rate_multiplier

/-- The aircraft is not passed over. -/
def due (faup_rate_multiplier : ℚ) (now : Millis) : Bool :=
  a.reliable && !(a.seen < e.last_emitted) &&
    !tooYoung faup_rate_multiplier (now - e.last_emitted).toNat (minAge a e)

def forceEmit (now : Millis) : Bool := now - e.last_force_emit > 600000

end Aircraft

/-! ### Fields that are emitted on change -/

/-- The fields in the order of the line. -/
inductive OnChange
  | addrtype
  | adsbVersion
  | category
  | nacP
  | nacV
  | sil
  | silType
  | nicBaro
deriving DecidableEq

namespace OnChange

def all : List OnChange := [addrtype, adsbVersion, category, nacP, nacV, sil, silType, nicBaro]

def name : OnChange → String
  | addrtype => "addrtype"
  | adsbVersion => "adsb_version"
  | category => "category"
  | nacP => "nac_p"
  | nacV => "nac_v"
  | sil => "sil"
  | silType => "sil_type"
  | nicBaro => "nic_baro"

abbrev Value : OnChange → Type
  | addrtype => AddrType
  | adsbVersion => Int
  | category | nacP | nacV | sil | nicBaro => Nat
  | silType => SilType

/-- `a->X`. -/
def current (a : Aircraft) : (x : OnChange) → x.Value
  | addrtype => a.addrtype
  | adsbVersion => a.adsbVersion
  | category => a.category
  | nacP => (a.data .nacP).value
  | nacV => (a.data .nacV).value
  | sil => (a.data .sil).value.sil
  | silType => (a.data .sil).value.type
  | nicBaro => (a.data .nicBaro).value

/-- `a->fatsv_emitted_X`. -/
def emitted (e : Emitted) : (x : OnChange) → x.Value
  | addrtype => e.addrtype
  | adsbVersion => e.adsbVersion
  | category => e.category
  | nacP => (e.data .nacP : Nat)
  | nacV => (e.data .nacV : Nat)
  | sil => (e.data .sil : Sil).sil
  | silType => (e.data .sil : Sil).type
  | nicBaro => (e.data .nicBaro : Nat)

/-- The formatted value. -/
def format : (x : OnChange) → x.Value → Text
  | addrtype, v => addrtype_enum_string v
  | adsbVersion, v => signed v
  | category, v => upperHex 2 v
  | nacP, v | nacV, v | sil, v | nicBaro, v => unsigned v
  | silType, v => sil_type_enum_string v

/-- The data whose `_valid` record is looked at. -/
def datum : OnChange → Option Datum
  | addrtype | adsbVersion | category => none
  | nacP => some .nacP
  | nacV => some .nacV
  | sil | silType => some .sil
  | nicBaro => some .nicBaro

instance (x : OnChange) : DecidableEq x.Value := by
  cases x <;> dsimp only [Value] <;> infer_instance

end OnChange

/-! ### The line -/

section Line
variable (a : Aircraft) (e : Emitted) (now : Millis)

def header : List Field :=
  [ ⟨"_v", text "9E"⟩,
    ⟨"clock", unsigned (a.seen.toNat / 1000)⟩,
    ⟨if a.addr &&& modesNonIcaoAddress ≠ 0 then "otherid" else "hexid",
      upperHex 6 (a.addr &&& 0xFFFFFF).toNat⟩ ]

/-- The field for `X`, `none` if nothing is appended. -/
def onChangeField (x : OnChange) : Option Field :=
  if forceEmit e now || x.current a ≠ x.emitted e then
    match x.datum with
    | none => some ⟨x.name, x.format (x.current a)⟩
    | some f =>
      if trackDataValid a f then appendFATSVMeta a e x.name f (x.format (x.current a)) else none
  else none

/-- A call of `appendFATSVMeta` after `dataStart`, which is made if `guard` holds. -/
structure Append where
  guard : Bool
  name : String
  datum : Datum
  text : Text

def appends : List Append :=
  let position : Position := value a .position
  let wind : Wind := value a .wind
  [ ⟨airgroundValid a, "airGround", .airground, airground_enum_string (value a .airground)⟩,
    ⟨squawkValid a, "squawk", .squawk, hex 4 (value a .squawk)⟩,
    ⟨callsignValid a, "ident", .callsign, text "\x7b" ++ cString (value a .callsign) ++ text "\x7d"⟩,
    ⟨altValid a, "alt", .altitudeBaro, signed (value a .altitudeBaro)⟩,
    ⟨positionValid a, "position", .position,
      text "\x7b" ++ fixed 5 position.lat ++ text " " ++ fixed 5 position.lon ++ text " " ++
        unsigned position.nic ++ text " " ++ unsigned position.rc ++ text "\x7d"⟩,
    ⟨true, "alt_gnss", .altitudeGeom, signed (value a .altitudeGeom)⟩,
    ⟨true, "vrate", .baroRate, signed (value a .baroRate)⟩,
    ⟨true, "vrate_geom", .geomRate, signed (value a .geomRate)⟩,
    ⟨true, "speed", .gs, fixed 1 (value a .gs)⟩,
    ⟨true, "speed_ias", .ias, unsigned (value a .ias)⟩,
    ⟨true, "speed_tas", .tas, unsigned (value a .tas)⟩,
    ⟨true, "mach", .mach, fixed 3 (value a .mach)⟩,
    ⟨true, "track", .track, fixed 1 (value a .track)⟩,
    ⟨true, "track_rate", .trackRate, fixed 2 (value a .trackRate)⟩,
    ⟨true, "roll", .roll, fixed 1 (value a .roll)⟩,
    ⟨true, "heading_magnetic", .magHeading, fixed 1 (value a .magHeading)⟩,
    ⟨true, "heading_true", .trueHeading, fixed 1 (value a .trueHeading)⟩,
    ⟨true, "nav_alt_mcp", .navAltitudeMcp, unsigned (value a .navAltitudeMcp)⟩,
    ⟨true, "nav_alt_fms", .navAltitudeFms, unsigned (value a .navAltitudeFms)⟩,
    ⟨true, "nav_alt_src", .navAltitudeSrc, nav_altitude_source_enum_string (value a .navAltitudeSrc)⟩,
    ⟨true, "nav_heading", .navHeading, fixed 1 (value a .navHeading)⟩,
    ⟨true, "nav_modes", .navModes,
      text "\x7b" ++ nav_modes_flags_string (value a .navModes) ++ text "\x7d"⟩,
    ⟨true, "nav_qnh", .navQnh, fixed 1 (value a .navQnh)⟩,
    ⟨true, "emergency", .emergency, emergency_enum_string (value a .emergency)⟩,
    ⟨true, "mrar_source", .mrarSource, mrar_source_enum_string (value a .mrarSource)⟩,
    ⟨true, "wind_speed", .wind, fixed 0 wind.speed⟩,
    ⟨true, "wind_dir", .wind, fixed 1 wind.dir⟩,
    ⟨true, "temperature", .temperature, fixed 2 (value a .temperature)⟩,
    ⟨true, "pressure", .pressure, fixed 0 (value a .pressure)⟩,
    ⟨true, "turbulence", .turbulence, hazard_enum_string (value a .turbulence)⟩,
    ⟨true, "humidity", .humidity, fixed 0 (value a .humidity)⟩ ]

/-- The fields from `dataStart` on. -/
def dataFields : List Field :=
  (appends a).filterMap fun d => if d.guard then appendFATSVMeta a e d.name d.datum d.text else none

def line : List Field :=
  header a ++ OnChange.all.filterMap (onChangeField a e now) ++ dataFields a e

end Line

/-- The text of a line: the last tab becomes a newline. -/
def lineText (fields : List Field) : Text := (fields.flatMap Field.bytes).dropLast ++ [newline]

/-- `TSV_MAX_PACKET_SIZE`. -/
def tsvMaxPacketSize : Nat := 800

/-- `p < end`. -/
def Fits (fields : List Field) : Prop := (lineText fields).length < tsvMaxPacketSize

instance (fields : List Field) : Decidable (Fits fields) := inferInstanceAs (Decidable (_ < _))

/-! ### The pass -/

/-- An aircraft and what was emitted for it. -/
abbrev Entry := Aircraft × Emitted

/-- What a pass leaves of an aircraft, and the line that was completed for it. -/
structure Outcome where
  emitted : Emitted
  sent : Option (List Field)

section Pass
variable (env : Environment) (faup_rate_multiplier : ℚ) (now : Millis)

/-- The body of the loop of `writeFATSV`; `none` if it returns. -/
def visit (net : Network) (entry : Entry) : Option (Network × Outcome) :=
  let (a, e) := entry
  if ¬ due a e faup_rate_multiplier now then some (net, ⟨e, none⟩)
  else
    match net.prepareWrite env .fatsv tsvMaxPacketSize with
    | none => none
    | some net =>
      if dataFields a e = [] then some (net, ⟨e, none⟩)
      else
        let recorded := e.record now (forceEmit e now) a
        if Fits (line a e now) then
          some (net.completeWrite env .fatsv (lineText (line a e now)), ⟨recorded, some (line a e now)⟩)
        else some (net, ⟨recorded, none⟩)

/-- An aircraft that the pass does not get to. -/
def unvisited (entry : Entry) : Outcome := ⟨entry.2, none⟩

/-- The loop of `writeFATSV`. -/
def visitAll (net : Network) : List Entry → Network × List Outcome
  | [] => (net, [])
  | entry :: rest =>
    match visit env faup_rate_multiplier now net entry with
    | none => (net, (entry :: rest).map unvisited)
    | some (net, outcome) =>
      let (net, outcomes) := visitAll net rest
      (net, outcome :: outcomes)

/-- The network, `next_update`, and what is left of every aircraft. -/
structure Pass where
  net : Network
  next_update : Millis
  outcomes : List Outcome

/-- `writeFATSV`. -/
def writeFATSV (next_update : Millis) (net : Network) (aircrafts : List Entry) : Pass :=
  if net.connections .fatsv = 0 then ⟨net, next_update, aircrafts.map unvisited⟩
  else if now < next_update then ⟨net, next_update, aircrafts.map unvisited⟩
  else
    let (net, outcomes) := visitAll env faup_rate_multiplier now net aircrafts
    ⟨net, now + 1000, outcomes⟩

end Pass
end RbFeeder.Net.Fatsv
