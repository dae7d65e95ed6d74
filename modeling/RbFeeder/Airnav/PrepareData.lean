import RbFeeder.Airnav.PacketData
import RbFeeder.Asterix.Packet
import RbFeeder.Tracker.Record
import RbFeeder.Lib.Throttle

/-! One pass over the aircraft: `airnav_prepareData`.

For each aircraft the pass fills two packets (the second is for ANRB) and an ASTERIX
packet, field by field. Most fields are throttled: they are sent when they changed, or
again after some time, and `b->an` keeps what was sent last, and when. Some fields raise
`send`; if none did, the packets are thrown away. Times of the tracker are judged by
`messageNow`, those of the throttles are seconds. -/
namespace RbFeeder.Airnav
open ModeS (Byte)
open Tracker (Aircraft Datum NavModes)
open Throttle (Last)
open Track (Millis)

/-! ### What was sent last -/

/-- The throttled fields, `rpisrv_emitted_X`. -/
inductive Field
  | callsign
  | airborne
  | altitudeGeom
  | altitudeBaro
  | posNic
  | magHeading
  | temperature
  | wind
  | gs
  | geomRate
  | baroRate
  | squawk
  | ias
  | navModes
  | navAltitudeFms
  | navAltitudeMcp
  | navQnh
  | nicBaro
  | nacP
  | nacV
  | sil
deriving DecidableEq

namespace Field

/-- The type of what is recorded of a field. -/
abbrev Value : Field → Type
  | callsign => List Byte
  | airborne => Byte
  | altitudeGeom | altitudeBaro | geomRate | baroRate => Int
  | magHeading | gs | navQnh => ℚ
  | temperature => BitVec 16
  | wind => BitVec 16 × BitVec 16
  | navModes => NavModes
  | posNic | squawk | ias | navAltitudeFms | navAltitudeMcp | nicBaro | nacP | nacV | sil => Nat

/-- `MAX_TIME_FIELD_X`, in seconds. -/
def maxTime : Field → Int
  | callsign | altitudeGeom | altitudeBaro | magHeading | gs | geomRate | baroRate | ias => 60
  | squawk => 120
  | _ => 180

end Field

/-- `b->an`: `rpisrv_emitted_X` and `rpisrv_emitted_X_time` for every field. -/
abbrev Emitted := (f : Field) → Last f.Value

/-! ### Inputs -/

/-- The configuration of ASTERIX output, where it is enabled and the specification loaded. -/
structure AsterixConfig where
  toc : Nat → Asterix.SpecItem
  sac : BitVec 32
  sic : BitVec 32
  sid : BitVec 32
  sidEnabled : Bool

/-- The configuration. The air temperature and the wind (direction and speed) are
calculated from the aircraft, a position and the date. -/
structure Config where
  useGnss : Bool
  asterix : Option AsterixConfig
  temperature : Aircraft → BitVec 16
  wind : Aircraft → ℚ × ℚ → Int → BitVec 16 × BitVec 16

/-- An aircraft, the clocks at its turn and what `malloc` returns then. -/
structure Turn where
  aircraft : Aircraft
  messageNow : Millis
  mstime : BitVec 64
  tvSec : Int
  heap : Packet
  heap2 : Packet

/-- `AIRNAV_MAX_ITEM_AGE`. -/
def maxItemAge : Millis := 3000

namespace Turn

/-- `trackDataValid`. -/
def Valid (x : Turn) (d : Datum) : Prop := x.aircraft.Valid x.messageNow d

instance (x : Turn) (d : Datum) : Decidable (x.Valid d) :=
  inferInstanceAs (Decidable (x.aircraft.Valid x.messageNow d))

/-- `trackDataAge(..) <= AIRNAV_MAX_ITEM_AGE`. -/
def Recent (x : Turn) (d : Datum) : Prop := (x.aircraft.data d).valid.age x.messageNow ≤ maxItemAge

instance (x : Turn) (d : Datum) : Decidable (x.Recent d) := inferInstanceAs (Decidable (_ ≤ _))

/-- The value of a piece of data. -/
def value (x : Turn) (d : Datum) : d.Value := (x.aircraft.data d).value

/-- `b->addr & MODES_NON_ICAO_ADDRESS`. -/
def NonIcao (x : Turn) : Prop := x.aircraft.addr &&& 0x1000000 ≠ 0

instance (x : Turn) : Decidable x.NonIcao := inferInstanceAs (Decidable (_ ≠ _))

/-- The aircraft says that it is on the ground. -/
def OnGround (x : Turn) : Prop :=
  x.Valid .airground ∧ x.value .airground = Tracker.AirGround.ground ∧
    (x.aircraft.data .airground).valid.source.rank ≥ Track.Source.modeSChecked.rank

instance (x : Turn) : Decidable x.OnGround := inferInstanceAs (Decidable (_ ∧ _))

/-- The altitude, geometric or else barometric, is at most `limit`. -/
def Below (x : Turn) (limit : Int) : Prop :=
  if x.Valid .altitudeGeom ∧ (x.value .altitudeGeom : Int) ≤ limit then True
  else x.Valid .altitudeBaro ∧ (x.value .altitudeBaro : Int) ≤ limit

instance (x : Turn) (limit : Int) : Decidable (x.Below limit) := inferInstanceAs (Decidable (ite _ _ _))

/-- `force_send == 1`: slow, low, on the ground, or climbing near it. -/
def Force (x : Turn) : Prop :=
  ¬ x.NonIcao ∧
    ((x.Valid .gs ∧ (x.value .gs : ℚ) ≤ 50) ∨ x.Below 3000 ∨ x.OnGround ∨
      (if x.Valid .geomRate ∧ (x.value .geomRate : Int) ≥ 1000 then x.Below 10000
        else x.Valid .baroRate ∧ (x.value .baroRate : Int) ≥ 1000 ∧ x.Below 10000))

instance (x : Turn) : Decidable x.Force := inferInstanceAs (Decidable (_ ∧ (_ ∨ _ ∨ _ ∨ ite _ _ _)))

/-- `mlat_check_is_mlat`. -/
def isMlat (x : Turn) : Bool :=
  [Datum.callsign, .altitudeBaro, .altitudeGeom, .gs, .ias, .tas, .mach, .track, .trackRate, .roll,
    .magHeading, .trueHeading, .baroRate, .geomRate, .squawk, .emergency, .navQnh, .navAltitudeMcp,
    .navAltitudeFms, .navHeading, .navModes, .position, .nicBaro, .nacP, .nacV, .sil, .gva,
    .sda].any fun d => (x.aircraft.data d).valid.source = .mlat

end Turn

/-! ### The pass over one aircraft -/

/-- What the pass changes: `b->an`, `acf`, `acf2`, the calls that fill the ASTERIX packet,
and `send`. -/
structure Pass where
  an : Emitted
  acf : Packet
  acf2 : Packet
  calls : List Asterix.Call
  send : Bool

namespace Pass

/-- A value is assigned in the first packet. -/
def writeFirst (s : Pass) (k : Entry) (value : k.Value) : Pass := { s with acf := s.acf.assign k value }

/-- A value is assigned in both packets. -/
def write (s : Pass) (k : Entry) (value : k.Value) : Pass :=
  { s with acf := s.acf.assign k value, acf2 := s.acf2.assign k value }

/-- Another part of the first packet is assigned. -/
def amend (s : Pass) (change : Packet → Packet) : Pass := { s with acf := change s.acf }

/-- `send = 1`. -/
def raise (s : Pass) : Pass := { s with send := true }

/-- A call for the ASTERIX packet. -/
def call (s : Pass) (c : Asterix.Call) : Pass := { s with calls := s.calls ++ [c] }

/-- `rpisrv_emitted_X` and its time are assigned. -/
def record (s : Pass) (x : Turn) (f : Field) (value : f.Value) : Pass :=
  { s with an := Fields.modify s.an f fun _ => ⟨value, x.tvSec⟩ }

end Pass

instance : (f : Field) → DecidableEq f.Value
  | .callsign => inferInstanceAs (DecidableEq (List Byte))
  | .airborne => inferInstanceAs (DecidableEq Byte)
  | .altitudeGeom | .altitudeBaro | .geomRate | .baroRate => inferInstanceAs (DecidableEq Int)
  | .magHeading | .gs | .navQnh => inferInstanceAs (DecidableEq ℚ)
  | .temperature => inferInstanceAs (DecidableEq (BitVec 16))
  | .wind => inferInstanceAs (DecidableEq (BitVec 16 × BitVec 16))
  | .navModes => inferInstanceAs (DecidableEq NavModes)
  | .posNic | .squawk | .ias | .navAltitudeFms | .navAltitudeMcp | .nicBaro | .nacP | .nacV | .sil =>
    inferInstanceAs (DecidableEq Nat)

/-- A throttled field: if it may be sent, the value is recorded and `emit` done. -/
def Turn.throttle (x : Turn) (f : Field) (value : f.Value) (emit : Pass → Pass) (s : Pass) : Pass :=
  if (s.an f).Due x.tvSec f.maxTime value then emit (s.record x f value) else s

/-- A throttled field that `force_send` opens. -/
def Turn.throttleOrForce (x : Turn) (f : Field) (value : f.Value) (emit : Pass → Pass) (s : Pass) : Pass :=
  if (s.an f).Due x.tvSec f.maxTime value ∨ x.Force then emit (s.record x f value) else s

/-- A call, if ASTERIX is enabled. -/
def asterix (cfg : Config) (c : Asterix.Call) (s : Pass) : Pass :=
  if cfg.asterix.isSome then s.call c else s

namespace Turn
variable (x : Turn) (cfg : Config)

/-- The address, unless it is not an ICAO address. -/
def address (s : Pass) : Pass :=
  if x.NonIcao then s
  else
    let addr := x.aircraft.addr
    asterix cfg (.setTargetAddress ((addr >>> 16).setWidth 8) ((addr >>> 8).setWidth 8) (addr.setWidth 8))
      (s.write .modesAddr addr)

def timestamp (s : Pass) : Pass :=
  { s with acf := { s.acf with timestp := x.mstime }, acf2 := { s.acf2 with timestp := x.mstime } }

def callsign (s : Pass) : Pass :=
  if x.Recent .callsign then
    x.throttleOrForce .callsign (x.value .callsign) (fun s =>
      asterix cfg (.setTargetId fun i => (x.value .callsign : List Byte).getD i 0)
        (s.write .callsign (x.value .callsign))) s
  else s

/-- `airborne`, as `value`. -/
def airborne (value : Byte) (emit : Pass → Pass) : Pass → Pass :=
  x.throttleOrForce .airborne value fun s => emit (s.write .airborne value)

def altitudeGeom (s : Pass) : Pass :=
  if cfg.useGnss ∧ x.Valid .altitudeGeom then
    if x.Recent .altitudeGeom then
      let altitude : Int := x.value .altitudeGeom
      let s := x.throttleOrForce .altitudeGeom altitude (fun s =>
        let s := if altitude > 0 then x.airborne 1 id s else s
        (s.write .altitudeGeo (BitVec.ofInt 32 altitude)).raise) s
      asterix cfg (.setGeometricHeight (BitVec.ofInt 16 (altitude.tdiv 100))) s
    else s
  else s

def altitudeBaro (s : Pass) : Pass :=
  if x.Valid .altitudeBaro then
    if x.Recent .altitudeBaro then
      let altitude : Int := x.value .altitudeBaro
      let s := x.throttleOrForce .altitudeBaro altitude (fun s =>
        let s := if altitude > 0 then x.airborne 1 id s else s
        (s.write .altitude (BitVec.ofInt 32 altitude)).raise) s
      asterix cfg (.setFlightLevel (BitVec.ofInt 32 (altitude.tdiv 100))) s
    else s
  else s

def altitude (s : Pass) : Pass :=
  if x.OnGround then x.airborne 0 Pass.raise s else x.altitudeBaro cfg (x.altitudeGeom cfg s)

def position (s : Pass) : Pass :=
  if x.Recent .position then
    if x.Valid .position then
      let point : Tracker.Position := x.value .position
      let s := s.writeFirst .position (point.lat, point.lon)
      let s := x.throttleOrForce .posNic point.nic
        (·.writeFirst .posNic (BitVec.ofNat 32 point.nic)) s
      let s := { s with acf2 := s.acf2.assign .position (point.lat, point.lon) }.raise
      asterix cfg (.setPosWGS84Precision point.lat point.lon) s
    else s
  else s

/-- The heading is recorded whether it is valid or not. -/
def heading (s : Pass) : Pass :=
  if x.Recent .magHeading then
    let tens : ℚ := (x.value .magHeading : ℚ) / 10
    let s := x.throttle .magHeading tens (fun s =>
      if x.Valid .magHeading then (s.write .heading (Asterix.toInt 16 tens)).raise
      else s) s
    asterix cfg (.setMagneticHeading (x.value .magHeading : ℚ)) s
  else s

def trueAirSpeed (s : Pass) : Pass :=
  if x.Recent .tas then
    if x.Valid .tas then asterix cfg (.setTrueAirSpeed 0 (BitVec.ofNat 16 (x.value .tas : Nat))) s else s
  else s

/-- Temperature and wind, when altitude, position and heading are in the packet. -/
def weather (s : Pass) : Pass :=
  if x.Valid .mach ∧ x.Valid .ias ∧ x.Valid .altitudeBaro ∧ x.Valid .tas then
    if (s.acf.slots .altitude).set = 1 ∧ (s.acf.slots .position).set = 1 ∧ (s.acf.slots .heading).set = 1 then
      let temperature := cfg.temperature x.aircraft
      let s := x.throttle .temperature temperature (fun s =>
        (s.writeFirst .temperature (temperature.signExtend 32)).raise) s
      let wind := cfg.wind x.aircraft (s.acf.slots .position).value x.tvSec
      x.throttle .wind wind (fun s =>
        ((s.writeFirst .windDir wind.1).writeFirst .windSpeed wind.2).raise) s
    else s
  else s

/-- The ground speed is recorded whether it is valid or not. -/
def groundSpeed (s : Pass) : Pass :=
  if x.Recent .gs then
    let tens : ℚ := (x.value .gs : ℚ) / 10
    x.throttleOrForce .gs tens (fun s =>
      if x.Valid .gs then (s.write .gndSpeed (Asterix.toInt 16 tens)).raise
      else s) s
  else s

/-- A rate in tens of feet per minute. -/
def vertRate (rate : Int) (s : Pass) : Pass :=
  (s.write .vertRate (BitVec.ofInt 16 rate)).raise

def verticalRate (s : Pass) : Pass :=
  if cfg.useGnss ∧ x.Valid .geomRate then
    if x.Recent .geomRate then
      let rate := (x.value .geomRate : Int).tdiv 10
      x.throttleOrForce .geomRate rate (vertRate rate) s
    else s
  else if x.Valid .baroRate then
    if x.Recent .baroRate then
      let rate := (x.value .baroRate : Int).tdiv 10
      x.throttleOrForce .baroRate rate (vertRate rate) s
    else s
  else s

/-- The squawk. The time is compared with the squawk emitted last, not with its time. -/
def squawk (s : Pass) : Pass :=
  if x.Recent .squawk then
    if x.Valid .squawk then
      let code : Nat := x.value .squawk
      if x.tvSec - ((s.an .squawk).value : Nat) ≥ Field.squawk.maxTime ∨ (s.an .squawk).value ≠ code then
        ((s.record x .squawk code).write .squawk (BitVec.ofNat 16 code)).raise
      else s
    else s
  else s

def indicatedAirSpeed (s : Pass) : Pass :=
  if x.Recent .ias then
    let tens := (x.value .ias : Nat) / 10
    x.throttle .ias tens (fun s => (s.write .ias (BitVec.ofNat 16 tens)).raise) s
  else s

def mlat (s : Pass) : Pass := if x.isMlat then s.amend fun p => { p with isMlat := 1 } else s

/-- The flags of the modes that are on are set; none is cleared. -/
def navModes (s : Pass) : Pass :=
  if x.Recent .navModes then
    let modes : NavModes := x.value .navModes
    x.throttle .navModes modes (·.amend fun p =>
      { p with
        navModes :=
          { autopilot := p.navModes.autopilot || modes.autopilot
            vnav := p.navModes.vnav || modes.vnav
            altHold := p.navModes.altHold || modes.altHold
            approach := p.navModes.approach || modes.approach
            lnav := p.navModes.lnav || modes.lnav
            tcas := p.navModes.tcas || modes.tcas } }) s
  else s

def navAltitudeFms (s : Pass) : Pass :=
  if x.Recent .navAltitudeFms then
    let altitude : Nat := x.value .navAltitudeFms
    if altitude ≥ 1000 then
      x.throttle .navAltitudeFms altitude
        (·.writeFirst .navAltitudeFms (BitVec.ofNat 32 altitude)) s
    else s
  else s

def navAltitudeMcp (s : Pass) : Pass :=
  if x.Recent .navAltitudeMcp then
    let altitude : Nat := x.value .navAltitudeMcp
    if altitude ≥ 1000 then
      x.throttle .navAltitudeMcp altitude
        (·.writeFirst .navAltitudeMcp (BitVec.ofNat 32 altitude)) s
    else s
  else s

/-- The source of the selected altitude, unless it is unknown or invalid. -/
def navAltitudeSrc (s : Pass) : Pass :=
  if x.Recent .navAltitudeSrc then
    let source : Tracker.NavAltitudeSource := x.value .navAltitudeSrc
    match source with
    | .aircraft => (s.amend fun p => { p with navAltitudeSrc := source }).writeFirst .extraFlags (1 <<< 7)
    | .mcp => (s.amend fun p => { p with navAltitudeSrc := source }).writeFirst .extraFlags (1 <<< 8)
    | .fms => (s.amend fun p => { p with navAltitudeSrc := source }).writeFirst .extraFlags (1 <<< 9)
    | _ => s
  else s

def navQnh (s : Pass) : Pass :=
  if x.Recent .navQnh then
    let qnh : ℚ := x.value .navQnh
    x.throttle .navQnh qnh (·.writeFirst .navQnh (Asterix.toInt 32 qnh)) s
  else s

def navHeading (s : Pass) : Pass :=
  if x.Recent .navHeading then
    let degrees := FixedPoint.truncate (x.value .navHeading : ℚ)
    if degrees ≠ 0 then s.writeFirst .navHeading (BitVec.ofInt 32 degrees) else s
  else s

def nicBaro (s : Pass) : Pass :=
  if x.Valid .nicBaro then
    let nic : Nat := x.value .nicBaro
    x.throttleOrForce .nicBaro nic (fun s =>
      (s.writeFirst .nicBaro (BitVec.ofNat 8 nic)).raise) s
  else s

def nacP (s : Pass) : Pass :=
  if x.Valid .nacP then
    let nac : Nat := x.value .nacP
    x.throttleOrForce .nacP nac (fun s =>
      (s.writeFirst .nacP (BitVec.ofNat 32 nac)).raise) s
  else s

def nacV (s : Pass) : Pass :=
  if x.Valid .nacV then
    let nac : Nat := x.value .nacV
    x.throttleOrForce .nacV nac (fun s =>
      (s.writeFirst .nacV (BitVec.ofNat 32 nac)).raise) s
  else s

def sil (s : Pass) : Pass :=
  if x.Valid .sil then
    let sil : Tracker.Sil := x.value .sil
    x.throttleOrForce .sil sil.sil (fun s =>
      ((s.writeFirst .sil (BitVec.ofNat 32 sil.sil)).writeFirst .silType sil.type).raise) s
  else s

/-- The ASTERIX packet at first: the data source, and the service if that is configured. -/
def sourceCalls : List Asterix.Call :=
  match cfg.asterix with
  | some config =>
    .setDataSourceSACSIC config.sac config.sic ::
      if config.sidEnabled then [.setServiceId config.sid] else []
  | none => []

/-- The pass over one aircraft. -/
def prepareAircraft (an : Emitted) : Pass :=
  let s : Pass :=
    { an := an
      acf := netPreparePacketV2 x.heap
      acf2 := netPreparePacketV2 x.heap2
      calls := sourceCalls cfg
      send := false }
  let s := x.callsign cfg (x.timestamp (x.address cfg s))
  let s := x.heading cfg (x.position cfg (x.altitude cfg s))
  let s := x.weather cfg (x.trueAirSpeed cfg s)
  let s := x.indicatedAirSpeed (x.squawk (x.verticalRate cfg (x.groundSpeed s)))
  let s := x.navAltitudeMcp (x.navAltitudeFms (x.navModes (x.mlat s)))
  let s := x.navHeading (x.navQnh (x.navAltitudeSrc s))
  x.sil (x.nacV (x.nacP (x.nicBaro s)))

end Turn

/-! ### The pass over the list -/

/-- `flist`, `flist2` and the ASTERIX packets sent. -/
structure Queues where
  flist : List Packet := []
  flist2 : List Packet := []
  sent : List Asterix.Packet := []

/-- The packets of one aircraft are queued at the head, or freed. -/
def enqueue (cfg : Config) (q : Queues) (s : Pass) : Queues :=
  if s.send then
    { flist := { s.acf with cmd := 5 } :: q.flist
      flist2 := { s.acf2 with cmd := 5 } :: q.flist2
      sent := q.sent ++ (cfg.asterix.map fun config => Asterix.build config.toc s.calls).toList }
  else q

/-- One pass of `airnav_prepareData` over the aircraft, each with what was sent of it. -/
def prepareData (cfg : Config) (turns : List (Turn × Emitted)) : Queues :=
  turns.foldl (fun q turn => enqueue cfg q (turn.1.prepareAircraft cfg turn.2)) {}

end RbFeeder.Airnav
