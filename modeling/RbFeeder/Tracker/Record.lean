import RbFeeder.Track.Validity
import RbFeeder.Lib.Fields

/-! The record of an aircraft: `struct aircraft` of `track.h`.

Forty-one pieces of data have a `_valid` record beside them, and all of them are
updated and expire by the same rules. The record is therefore a function from the
names of the data. What is kept for the displays and outputs (signal levels, Mode A/C
hits, what was last emitted) is left out. -/
namespace RbFeeder.Tracker
open Track

/-! ### Types -/

/-- `addrtype_t`, in order of decreasing priority. -/
inductive AddrType
  | adsbIcao
  | adsbIcaoNt
  | adsrIcao
  | tisbIcao
  | adsbOther
  | adsrOther
  | tisbTrackfile
  | tisbOther
  | modeA
  | unknown
deriving DecidableEq

/-- `airground_t`. -/
inductive AirGround
  | invalid
  | ground
  | airborne
  | uncertain
deriving DecidableEq

/-- `sil_type_t`. -/
inductive SilType
  | invalid
  | unknown
  | perSample
  | perHour
deriving DecidableEq

/-- `cpr_type_t`. -/
inductive CprType
  | surface
  | airborne
  | coarse
deriving DecidableEq

/-- `heading_type_t`. -/
inductive HeadingType
  | invalid
  | groundTrack
  | trueHeading
  | magnetic
  | magneticOrTrue
  | trackOrHeading
deriving DecidableEq

/-- `nav_modes_t`, a set of flags. -/
structure NavModes where
  autopilot : Bool := false
  vnav : Bool := false
  altHold : Bool := false
  approach : Bool := false
  lnav : Bool := false
  tcas : Bool := false
deriving DecidableEq

/-- `emergency_t`. -/
inductive Emergency
  | none
  | general
  | lifeguard
  | minfuel
  | nordo
  | unlawful
  | downed
  | reserved
deriving DecidableEq

/-- `nav_altitude_source_t`. -/
inductive NavAltitudeSource
  | invalid
  | unknown
  | aircraft
  | mcp
  | fms
deriving DecidableEq

/-- `mrar_source_t`. -/
inductive MrarSource
  | invalid
  | ins
  | gnss
  | dmedme
  | vordme
  | reserved
deriving DecidableEq

/-- `hazard_t`. -/
inductive Hazard
  | nil
  | light
  | moderate
  | severe
deriving DecidableEq

/-- A CPR message, as it is kept until there is another of the other kind. -/
structure CprData where
  type : CprType
  lat : Int
  lon : Int
  nic : Nat
  rc : Nat
deriving DecidableEq

/-- `lat`, `lon`, `pos_nic` and `pos_rc`. -/
structure Position where
  lat : ℚ
  lon : ℚ
  nic : Nat
  rc : Nat
deriving DecidableEq

/-- `sil` and `sil_type`. -/
structure Sil where
  sil : Nat
  type : SilType
deriving DecidableEq

/-- `wind_speed` and `wind_dir`. -/
structure Wind where
  speed : ℚ
  dir : ℚ
deriving DecidableEq

/-! ### Data -/

/-- The data with a `_valid` record. -/
inductive Datum
  | callsign
  | altitudeBaro
  | altitudeGeom
  | geomDelta
  | gs
  | ias
  | tas
  | mach
  | track
  | trackRate
  | roll
  | magHeading
  | trueHeading
  | baroRate
  | geomRate
  | squawk
  | emergency
  | airground
  | navQnh
  | navAltitudeMcp
  | navAltitudeFms
  | navAltitudeSrc
  | navHeading
  | navModes
  | cprOdd
  | cprEven
  | position
  | nicA
  | nicC
  | nicBaro
  | nacP
  | nacV
  | sil
  | gva
  | sda
  | mrarSource
  | wind
  | temperature
  | pressure
  | turbulence
  | humidity
deriving DecidableEq

namespace Datum

/-- The type of a piece of data. A `float` is an exact rational. -/
abbrev Value : Datum → Type
  | callsign => List (BitVec 8)
  | altitudeBaro | altitudeGeom | geomDelta | baroRate | geomRate => Int
  | gs | mach | track | trackRate | roll | magHeading | trueHeading | navQnh | navHeading => ℚ
  | temperature | pressure | humidity => ℚ
  | ias | tas | squawk | navAltitudeMcp | navAltitudeFms => Nat
  | nicA | nicC | nicBaro | nacP | nacV | gva | sda => Nat
  | emergency => Emergency
  | airground => AirGround
  | navAltitudeSrc => NavAltitudeSource
  | navModes => NavModes
  | cprOdd | cprEven => CprData
  | position => Position
  | sil => Sil
  | mrarSource => MrarSource
  | wind => Wind
  | turbulence => Hazard

/-- All bits zero. -/
def zero : (f : Datum) → f.Value
  | callsign => ([] : List (BitVec 8))
  | altitudeBaro | altitudeGeom | geomDelta | baroRate | geomRate => (0 : Int)
  | gs | mach | track | trackRate | roll | magHeading | trueHeading | navQnh | navHeading => (0 : ℚ)
  | temperature | pressure | humidity => (0 : ℚ)
  | ias | tas | squawk | navAltitudeMcp | navAltitudeFms => (0 : Nat)
  | nicA | nicC | nicBaro | nacP | nacV | gva | sda => (0 : Nat)
  | emergency => Emergency.none
  | airground => AirGround.invalid
  | navAltitudeSrc => NavAltitudeSource.invalid
  | navModes => ({} : NavModes)
  | cprOdd | cprEven => (⟨.surface, 0, 0, 0, 0⟩ : CprData)
  | position => (⟨0, 0, 0, 0⟩ : Position)
  | sil => (⟨0, .invalid⟩ : Sil)
  | mrarSource => MrarSource.invalid
  | wind => (⟨0, 0⟩ : Wind)
  | turbulence => Hazard.nil

/-- The seconds until the data is stale. -/
def staleSeconds : Datum → Nat
  | altitudeBaro | squawk | airground => 15
  | _ => 60

end Datum

/-- A value and its `_valid` record. -/
structure Tracked (α : Type) where
  valid : DataValidity
  value : α

namespace Tracked
variable {α : Type}

/-- `X_valid && accept_data(&a->X_valid, source)` and the assignment after it; without a
value `X_valid` is not set. -/
def update (now : Millis) (source : Source) : Option α → Tracked α → Tracked α
  | none, t => t
  | some value, t =>
    if t.valid.Accepts now source then { valid := t.valid.accept now source, value } else t

/-- `EXPIRE`. -/
def expire (now : Millis) (t : Tracked α) : Tracked α := { t with valid := t.valid.expire now }

/-- The data is discarded. -/
def invalidate (t : Tracked α) : Tracked α := { t with valid := { t.valid with source := .invalid } }

end Tracked

/-- `struct aircraft`. -/
structure Aircraft where
  addr : BitVec 32
  addrtype : AddrType
  seen : Millis
  messages : Nat
  reliable : Bool
  reliableDF11 : Nat
  reliableDF17 : Nat
  discarded : Nat
  category : Nat
  adsbVersion : Int
  adsrVersion : Int
  tisbVersion : Int
  adsbHrd : HeadingType
  adsbTah : HeadingType
  data : (f : Datum) → Tracked f.Value

namespace Aircraft

/-- One piece of data changed. -/
def modify (a : Aircraft) (f : Datum) (change : Tracked f.Value → Tracked f.Value) : Aircraft :=
  { a with data := Fields.modify a.data f change }

/-- `trackDataValid(&a->X_valid)`. -/
def Valid (now : Millis) (a : Aircraft) (f : Datum) : Prop := (a.data f).valid.Valid now

instance (now : Millis) (a : Aircraft) (f : Datum) : Decidable (a.Valid now f) :=
  inferInstanceAs (Decidable ((a.data f).valid.Valid now))

end Aircraft

end RbFeeder.Tracker
