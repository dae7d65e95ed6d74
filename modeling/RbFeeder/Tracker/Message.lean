import RbFeeder.Track.Aircraft
import RbFeeder.Tracker.Record

/-! A decoded message, as the tracker reads it: `struct modesMessage`.

Data whose `_valid` flag is not set is `none`. The versions of the ADS-B standard differ
in what a message says; `version` is the one a message is read by. -/
namespace RbFeeder.Tracker
open Track (Millis Source AltitudeUnit altitudeToFeet)

/-- `gs`: the two readings of a surface movement. -/
structure Groundspeed where
  v0 : ℚ
  v2 : ℚ
deriving DecidableEq

/-- The `cpr` fields of a message. -/
structure CprReport where
  odd : Bool
  type : CprType
  lat : Int
  lon : Int
deriving DecidableEq

/-- The part of `opstatus` that is read. -/
structure Opstatus where
  version : Nat
  hrd : HeadingType
  tah : HeadingType
deriving DecidableEq

/-- `accuracy`. -/
structure Accuracy where
  nicA : Option Nat := none
  nicB : Option Nat := none
  nicC : Option Nat := none
  nicBaro : Option Nat := none
  nacP : Option Nat := none
  nacV : Option Nat := none
  sil : Nat := 0
  silType : SilType := .invalid
  gva : Option Nat := none
  sda : Option Nat := none

/-- `nav`. -/
structure Nav where
  mcpAltitude : Option Nat := none
  fmsAltitude : Option Nat := none
  altitudeSource : NavAltitudeSource := .invalid
  heading : Option ℚ := none
  modes : Option NavModes := none
  qnh : Option ℚ := none

/-- `struct modesMessage`. Decoding gives every message a source. -/
structure Message where
  msgtype : Nat
  addr : BitVec 32
  addrtype : AddrType := .adsbIcao
  sysTimestampMsg : Millis
  reliable : Bool
  source : Source
  source_ne : source ≠ .invalid
  metype : Nat := 0
  category : Option Nat := none
  opstatus : Option Opstatus := none
  accuracy : Accuracy := {}
  nav : Nav := {}
  altitudeBaro : Option (Int × AltitudeUnit) := none
  altitudeGeom : Option (Int × AltitudeUnit) := none
  geomDelta : Option Int := none
  squawk : Option Nat := none
  emergency : Option Emergency := none
  heading : Option (ℚ × HeadingType) := none
  trackRate : Option ℚ := none
  roll : Option ℚ := none
  gs : Option Groundspeed := none
  ias : Option Nat := none
  tas : Option Nat := none
  mach : Option ℚ := none
  baroRate : Option Int := none
  geomRate : Option Int := none
  airground : AirGround := .invalid
  callsign : Option (List (BitVec 8)) := none
  cpr : Option CprReport := none
  mrarSource : Option MrarSource := none
  wind : Option Wind := none
  temperature : Option ℚ := none
  pressure : Option ℚ := none
  turbulence : Option Hazard := none
  humidity : Option ℚ := none

theorem adsb_ne_invalid : Source.adsb ≠ .invalid := by decide

theorem tisb_ne_invalid : Source.tisb ≠ .invalid := by decide

/-! ### Integrity -/

/-- `compute_nic`. -/
def computeNic (metype : Nat) (version : Int) (nicA nicB nicC : Bool) : Nat :=
  match metype with
  | 5 | 9 | 20 => 11
  | 6 | 10 | 21 => 10
  | 7 =>
    if version = 2 then if nicA ∧ ¬ nicC then 9 else 8
    else if version = 1 then if nicA then 9 else 8
    else 8
  | 8 =>
    if version = 2 then
      if nicA ∧ nicC then 7 else if nicA ∧ ¬ nicC then 6 else if ¬ nicA ∧ nicC then 6 else 0
    else 0
  | 11 =>
    if version = 2 then if nicA ∧ nicB then 9 else 8
    else if version = 1 then if nicA then 9 else 8
    else 8
  | 12 => 7
  | 13 => 6
  | 14 => 5
  | 15 => 4
  | 16 => if nicA ∧ nicB then 3 else 2
  | 17 => 1
  | _ => 0

/-- `compute_rc`. -/
def computeRc (metype : Nat) (version : Int) (nicA nicB nicC : Bool) : Nat :=
  match metype with
  | 5 | 9 | 20 => 8
  | 6 | 10 | 21 => 25
  | 7 =>
    if version = 2 then if nicA ∧ ¬ nicC then 75 else 186
    else if version = 1 then if nicA then 75 else 186
    else 186
  | 8 =>
    if version = 2 then
      if nicA ∧ nicC then 371 else if nicA ∧ ¬ nicC then 556 else if ¬ nicA ∧ nicC then 1111 else 0
    else 0
  | 11 =>
    if version = 2 then if nicA ∧ nicB then 75 else 186
    else if version = 1 then if nicA then 75 else 186
    else 186
  | 12 => 371
  | 13 =>
    if version = 2 then
      if ¬ nicA ∧ nicB then 556 else if ¬ nicA ∧ ¬ nicB then 926 else if nicA ∧ nicB then 1112 else 0
    else if version = 1 then if nicA then 1112 else 926
    else 926
  | 14 => 1852
  | 15 => 3704
  | 16 =>
    if version = 2 then if nicA ∧ nicB then 7408 else 14816
    else if version = 1 then if nicA then 7408 else 14816
    else 18520
  | 17 => 37040
  | _ => 0

/-- `compute_v0_nacp`; without a value it is -1. -/
def computeV0Nacp (mm : Message) : Option Nat :=
  if mm.msgtype ≠ 17 ∧ mm.msgtype ≠ 18 then none
  else match mm.metype with
    | 0 | 8 | 18 | 22 => some 0
    | 5 | 9 | 20 => some 11
    | 6 | 10 | 21 => some 10
    | 7 | 11 => some 8
    | 12 => some 7
    | 13 => some 6
    | 14 => some 5
    | 15 => some 4
    | 16 | 17 => some 1
    | _ => none

/-- `compute_v0_sil`; without a value it is -1. -/
def computeV0Sil (mm : Message) : Option Nat :=
  if mm.msgtype ≠ 17 ∧ mm.msgtype ≠ 18 then none
  else match mm.metype with
    | 0 | 18 | 22 => some 0
    | 5 | 6 | 7 | 8 | 9 | 10 | 11 | 12 | 13 | 14 | 15 | 16 | 17 | 20 | 21 => some 2
    | _ => none

/-- The ADS-B v0 NACp, from the type of position message, where there is no other. -/
def nacPOf (version : Int) (mm : Message) : Option Nat :=
  mm.accuracy.nacP <|> if version = 0 then computeV0Nacp mm else none

/-- The SIL and its type; likewise. -/
def silOf (version : Int) (mm : Message) : Nat × SilType :=
  if version = 0 ∧ mm.accuracy.silType = .invalid then
    match computeV0Sil mm with
    | some sil => (sil, .unknown)
    | none => (mm.accuracy.sil, .invalid)
  else (mm.accuracy.sil, mm.accuracy.silType)

/-! ### What a message says -/

namespace Aircraft

/-- `*message_version` at first, for a message from `source`. -/
def versionFor (a : Aircraft) : Source → Int
  | .adsb => a.adsbVersion
  | .tisb => a.tisbVersion
  | .adsr => a.adsrVersion
  | _ => -1

/-- The version is stored; that of another source is a dummy. -/
def setVersionFor (a : Aircraft) (source : Source) (version : Int) : Aircraft :=
  match source with
  | .adsb => { a with adsbVersion := version }
  | .tisb => { a with tisbVersion := version }
  | .adsr => { a with adsrVersion := version }
  | _ => a

/-- `*message_version`, as the message leaves it. -/
def version (a : Aircraft) (mm : Message) : Int :=
  match mm.opstatus with
  | some opstatus => opstatus.version
  | none => if a.versionFor mm.source < 0 then 0 else a.versionFor mm.source

/-- The message is counted, and its version, category and heading types are taken. -/
def describe (a : Aircraft) (mm : Message) : Aircraft :=
  let a := { a with addrtype := if mm.addrtype.ctorIdx < a.addrtype.ctorIdx then mm.addrtype else a.addrtype }
  let a := a.setVersionFor mm.source (a.version mm)
  { a with
    category := mm.category.getD a.category
    adsbHrd := match mm.opstatus with
      | some opstatus => if opstatus.hrd ≠ .invalid then opstatus.hrd else a.adsbHrd
      | none => a.adsbHrd
    adsbTah := match mm.opstatus with
      | some opstatus => if opstatus.tah ≠ .invalid then opstatus.tah else a.adsbTah
      | none => a.adsbTah }

/-- The type of a heading, resolved. -/
def headingType (a : Aircraft) : HeadingType → HeadingType
  | .magneticOrTrue => a.adsbHrd
  | .trackOrHeading => a.adsbTah
  | type => type

/-- The heading of a message, if it is of type `type`. -/
def headingOf (a : Aircraft) (mm : Message) (type : HeadingType) : Option ℚ :=
  match mm.heading with
  | some (heading, htype) => if a.headingType htype = type then some heading else none
  | none => none

/-- `mm->gs.selected`, by the version that `describe` has left. -/
def selectedGs (version : Int) (mm : Message) : Option ℚ :=
  mm.gs.map fun gs => if version = 2 then gs.v2 else gs.v0

/-- A CPR message with its accuracy, `compute_nic_rc_from_message`. -/
def cprData (now : Millis) (a : Aircraft) (mm : Message) (cpr : CprReport) : CprData :=
  let nicA : Bool := a.Valid now .nicA ∧ (a.data .nicA).value ≠ 0
  let nicB : Bool := mm.accuracy.nicB.getD 0 ≠ 0
  let nicC : Bool := a.Valid now .nicC ∧ (a.data .nicC).value ≠ 0
  { type := cpr.type
    lat := cpr.lat
    lon := cpr.lon
    nic := computeNic mm.metype a.adsbVersion nicA nicB nicC
    rc := computeRc mm.metype a.adsbVersion nicA nicB nicC }

/-- The CPR message of the kind `odd`. -/
def cprOf (now : Millis) (a : Aircraft) (mm : Message) (odd : Bool) : Option CprData :=
  match mm.cpr with
  | some cpr => if cpr.odd = odd then some (a.cprData now mm cpr) else none
  | none => none

/-- The air/ground state, unless it is uncertain and the one known is fresh. -/
def airgroundOf (now : Millis) (a : Aircraft) (mm : Message) : Option AirGround :=
  if mm.airground ≠ .invalid ∧
      (mm.airground ≠ .uncertain ∨ ¬ (a.data .airground).valid.Fresh now) then
    some mm.airground
  else none

/-- The SIL; its type is not replaced by an unknown one. -/
def silValue (a : Aircraft) (version : Int) (mm : Message) : Option Sil :=
  let sil := silOf version mm
  let known := (a.data .sil).value.type
  if sil.2 ≠ .invalid then
    some ⟨sil.1, if known = .invalid ∨ sil.2 ≠ .unknown then sil.2 else known⟩
  else none

end Aircraft

/-- An airborne position message received at `t`. -/
def positionAt (t : Millis) (source : Source) (h : source ≠ .invalid) (odd : Bool) (lat : Int) :
    Message :=
  { msgtype := 17
    addr := 0x4840d6
    sysTimestampMsg := t
    reliable := true
    source := source
    source_ne := h
    metype := 11
    cpr := some { odd := odd, type := .airborne, lat := lat, lon := 0 } }

end RbFeeder.Tracker
