import RbFeeder.Airnav.SendPacket
import RbFeeder.Tracker.Record
import RbFeeder.Lib.Fields

/-! The packet of one aircraft: `struct p_data` in memory.

Twenty-five values have a `_set` flag beside them; as in the record of an aircraft they
are a function of their names. `net_preparePacket_v2` takes memory from `malloc` and
initialises it field by field. The geometric altitude and its flag, the source of the
selected altitude and the time are not among the fields; they keep what the memory held.
What `sendMultipleFlights` reads of a packet is its `flight`. -/
namespace RbFeeder.Airnav
open ModeS (Byte)

/-- The values of a packet with a `_set` flag. -/
inductive Entry
  | modesAddr
  | callsign
  | altitude
  | altitudeGeo
  | position
  | heading
  | gndSpeed
  | ias
  | vertRate
  | squawk
  | airborne
  | extraFlags
  | navAltitudeFms
  | navAltitudeMcp
  | navQnh
  | navHeading
  | windDir
  | windSpeed
  | temperature
  | posNic
  | nicBaro
  | nacP
  | nacV
  | sil
  | silType
deriving DecidableEq

namespace Entry

/-- The type of a value. `position` is `lat` and `lon`. -/
abbrev Value : Entry → Type
  | callsign => List Byte
  | position => ℚ × ℚ
  | heading | gndSpeed | ias | vertRate | squawk | windDir | windSpeed => BitVec 16
  | airborne | nicBaro => Byte
  | silType => Tracker.SilType
  | modesAddr | altitude | altitudeGeo | extraFlags | navAltitudeFms | navAltitudeMcp => BitVec 32
  | navQnh | navHeading | temperature | posNic | nacP | nacV | sil => BitVec 32

/-- All bits zero. -/
def zero : (k : Entry) → k.Value
  | callsign => ([] : List Byte)
  | position => ((0, 0) : ℚ × ℚ)
  | heading | gndSpeed | ias | vertRate | squawk | windDir | windSpeed => (0 : BitVec 16)
  | airborne | nicBaro => (0 : Byte)
  | silType => Tracker.SilType.invalid
  | modesAddr | altitude | altitudeGeo | extraFlags | navAltitudeFms | navAltitudeMcp => (0 : BitVec 32)
  | navQnh | navHeading | temperature | posNic | nacP | nacV | sil => (0 : BitVec 32)

end Entry

/-- A value and its `_set` flag. -/
structure Slot (α : Type) where
  set : Int
  value : α
deriving DecidableEq

/-- What is read of a value: one that is marked set. -/
def Slot.read {α : Type} (s : Slot α) : Option α := if s.set = 1 then some s.value else none

/-- The part of `struct p_data` that is written for an aircraft. -/
structure Packet where
  cmd : Int
  timestp : BitVec 64
  isMlat : Int
  is978 : Int
  navAltitudeSrc : Tracker.NavAltitudeSource
  navModes : Tracker.NavModes
  slots : (k : Entry) → Slot k.Value

namespace Packet

/-- A value, marked set. -/
def assign (p : Packet) (k : Entry) (value : k.Value) : Packet :=
  { p with slots := Fields.modify p.slots k fun _ => ⟨1, value⟩ }

/-- What is read of a value. -/
def read (p : Packet) (k : Entry) : Option k.Value := (p.slots k).read

end Packet

/-- `net_preparePacket_v2`, in memory that held `heap`. The autopilot flag is set. -/
def netPreparePacketV2 (heap : Packet) : Packet :=
  { cmd := 0
    timestp := heap.timestp
    isMlat := 0
    is978 := 0
    navAltitudeSrc := heap.navAltitudeSrc
    navModes := { autopilot := true }
    slots := fun k => if k = .altitudeGeo then heap.slots k else ⟨0, k.zero⟩ }

/-- What `sendMultipleFlights` reads; `bits` are the bits of a `double`. -/
def Packet.flight (bits : ℚ → BitVec 64) (p : Packet) : PData :=
  { modesAddr := (p.slots .modesAddr).value
    callsign := p.read .callsign
    altitude := p.read .altitude
    altitudeGeo := p.read .altitudeGeo
    position := (p.read .position).map fun point => (bits point.1, bits point.2)
    heading := p.read .heading
    gndSpeed := p.read .gndSpeed
    ias := p.read .ias
    vertRate := p.read .vertRate
    squawk := p.read .squawk
    airborne := p.read .airborne
    isMlat := p.isMlat = 1
    is978 := p.is978 = 1
    navAltitudeFms := p.read .navAltitudeFms
    navAltitudeMcp := p.read .navAltitudeMcp
    navQnh := p.read .navQnh
    windDir := p.read .windDir
    windSpeed := p.read .windSpeed
    temperature := p.read .temperature
    posNic := p.read .posNic
    nicBaro := p.read .nicBaro
    nacP := p.read .nacP
    nacV := p.read .nacV
    sil := p.read .sil
    silType := (p.read .silType).map fun type => BitVec.ofNat 32 type.ctorIdx }

end RbFeeder.Airnav
