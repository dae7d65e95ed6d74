import RbFeeder.Track.Validity

/-! Tracked aircraft: `trackUpdateFromMessage` and `trackRemoveStaleAircraft` of `track.c`.

Of an aircraft the model keeps its lifetime and the three altitude fields; the other
fields are updated beside them and read by none of them. The list of aircraft is the
linked list from `Modes.aircrafts` on. Each message sets the time that the validity of
data is judged by. -/
namespace RbFeeder.Track

/-- A field and its `_valid` record. -/
structure Field where
  valid : DataValidity
  value : Int
deriving DecidableEq

/-- A field that was never set; the intervals in seconds. -/
def Field.initial (stale expire : Nat) : Field :=
  { valid := .never (BitVec.ofNat 64 (stale * 1000)) (BitVec.ofNat 64 (expire * 1000)), value := 0 }

/-- New data for a field, if it takes it. -/
def Field.update (now : Millis) (source : Source) (f : Field) : Option Int → Field
  | none => f
  | some value =>
    if f.valid.Accepts now source then { valid := f.valid.accept now source, value := value } else f

def Field.expire (now : Millis) (f : Field) : Field := { f with valid := f.valid.expire now }

/-- `altitude_unit_t`. -/
inductive AltitudeUnit
  | feet
  | meters
deriving DecidableEq

/-- `altitude_to_feet`. A meter altitude divided by 0.3048, towards zero. -/
def altitudeToFeet (raw : Int) : AltitudeUnit → Int
  | .meters => (raw * 10000).tdiv 3048
  | .feet => raw

/-- The part of `struct modesMessage` that is used. Data whose `_valid` flag is not set
is `none`. -/
structure Message where
  msgtype : Nat
  addr : BitVec 32
  sysTimestampMsg : Millis
  reliable : Bool
  source : Source
  altitudeBaro : Option (Int × AltitudeUnit) := none
  altitudeGeom : Option (Int × AltitudeUnit) := none
  geomDelta : Option Int := none

/-- `struct aircraft`. -/
structure Aircraft where
  addr : BitVec 32
  seen : Millis
  messages : Nat
  reliable : Bool
  reliableDF11 : Nat
  reliableDF17 : Nat
  discarded : Nat
  altitudeBaro : Field
  altitudeGeom : Field
  geomDelta : Field
deriving DecidableEq

def trackAircraftTTL : Millis := 300000
def trackAircraftUnreliableTTL : Millis := 60000
def trackReliableDF17Messages : Nat := 2
def trackReliableDF11Messages : Nat := 3
def trackReliableAnyMessages : Nat := 5

/-- `trackCreateAircraft`. -/
def trackCreateAircraft (mm : Message) : Aircraft :=
  { addr := mm.addr
    seen := 0
    messages := 0
    reliable := false
    reliableDF11 := 0
    reliableDF17 := 0
    discarded := 0
    altitudeBaro := .initial 15 70
    altitudeGeom := .initial 60 70
    geomDelta := .initial 60 70 }

namespace Aircraft

/-- The aircraft was heard. -/
def heard (a : Aircraft) (mm : Message) : Aircraft :=
  let reliableDF11 := if mm.msgtype = 11 ∧ mm.reliable then a.reliableDF11 + 1 else a.reliableDF11
  let reliableDF17 := if mm.msgtype = 17 ∧ mm.reliable then a.reliableDF17 + 1 else a.reliableDF17
  { a with
    seen := mm.sysTimestampMsg
    messages := a.messages + 1
    reliableDF11 := reliableDF11
    reliableDF17 := reliableDF17
    reliable := a.reliable ∨ reliableDF11 ≥ trackReliableDF11Messages ∨
      reliableDF17 ≥ trackReliableDF17Messages ∨ a.messages + 1 ≥ trackReliableAnyMessages }

/-- The fields take what the message has for them. -/
def acceptFields (a : Aircraft) (mm : Message) : Aircraft :=
  let now := mm.sysTimestampMsg
  { a with
    altitudeBaro :=
      a.altitudeBaro.update now mm.source (mm.altitudeBaro.map fun alt => altitudeToFeet alt.1 alt.2)
    altitudeGeom :=
      a.altitudeGeom.update now mm.source (mm.altitudeGeom.map fun alt => altitudeToFeet alt.1 alt.2)
    geomDelta := a.geomDelta.update now mm.source mm.geomDelta }

/-- Whether baro and delta are both more recent than geometric. -/
def Derives (now : Millis) (a : Aircraft) : Prop :=
  a.altitudeBaro.valid.compare now a.altitudeGeom.valid > 0 ∧
    a.geomDelta.valid.compare now a.altitudeGeom.valid > 0

instance (now : Millis) (a : Aircraft) : Decidable (a.Derives now) :=
  inferInstanceAs (Decidable (_ ∧ _))

/-- The geometric altitude derived from baro + delta. -/
def derived (a : Aircraft) : Aircraft :=
  { a with
    altitudeGeom :=
      { value := a.altitudeBaro.value + a.geomDelta.value
        valid := .combine a.altitudeGeom.valid a.altitudeBaro.valid a.geomDelta.valid } }

/-- A message that is not trusted, from an aircraft that is not either. -/
def Distrusts (a : Aircraft) (mm : Message) : Prop := mm.reliable = false ∧ a.reliable = false

instance (a : Aircraft) (mm : Message) : Decidable (a.Distrusts mm) :=
  inferInstanceAs (Decidable (_ ∧ _))

/-- What a message does to its aircraft. -/
def update (a : Aircraft) (mm : Message) : Aircraft :=
  let a := a.heard mm
  if a.Distrusts mm then { a with discarded := a.discarded + 1 }
  else
    let a := a.acceptFields mm
    if a.Derives mm.sysTimestampMsg then a.derived else a

/-- Whether a sweep removes the aircraft. The age is an unsigned difference. -/
def Stale (now : Millis) (a : Aircraft) : Prop :=
  now - a.seen > trackAircraftTTL ∨
    (a.reliable = false ∧ now - a.seen > trackAircraftUnreliableTTL)

instance (now : Millis) (a : Aircraft) : Decidable (a.Stale now) :=
  inferInstanceAs (Decidable (_ ∨ _))

def expire (now : Millis) (a : Aircraft) : Aircraft :=
  { a with
    altitudeBaro := a.altitudeBaro.expire now
    altitudeGeom := a.altitudeGeom.expire now
    geomDelta := a.geomDelta.expire now }

end Aircraft

/-! ### The list of aircraft -/

/-- `trackFindAircraft`. -/
def trackFindAircraft (aircrafts : List Aircraft) (addr : BitVec 32) : Option Aircraft :=
  aircrafts.find? (·.addr = addr)

/-- The first record with this address is updated in place. -/
def updateFirst (addr : BitVec 32) (f : Aircraft → Aircraft) : List Aircraft → List Aircraft
  | [] => []
  | a :: rest => if a.addr = addr then f a :: rest else a :: updateFirst addr f rest

/-- Messages that are tracked: neither Mode A/C, which is only counted, nor from a junk
address. -/
def Message.Tracked (mm : Message) : Prop := mm.msgtype ≠ 32 ∧ mm.addr ≠ 0

instance (mm : Message) : Decidable mm.Tracked := inferInstanceAs (Decidable (_ ∧ _))

/-- `trackUpdateFromMessage`. -/
def trackUpdateFromMessage (aircrafts : List Aircraft) (mm : Message) : List Aircraft :=
  if mm.Tracked then
    match trackFindAircraft aircrafts mm.addr with
    | none => (trackCreateAircraft mm).update mm :: aircrafts
    | some _ => updateFirst mm.addr (·.update mm) aircrafts
  else aircrafts

/-- `trackRemoveStaleAircraft`. -/
def trackRemoveStaleAircraft (now : Millis) : List Aircraft → List Aircraft
  | [] => []
  | a :: rest =>
    if a.Stale now then trackRemoveStaleAircraft now rest
    else a.expire now :: trackRemoveStaleAircraft now rest

/-- What happens to the list: a message, or a sweep at some time. -/
inductive Event
  | message (mm : Message)
  | sweep (now : Millis)

def step (aircrafts : List Aircraft) : Event → List Aircraft
  | .message mm => trackUpdateFromMessage aircrafts mm
  | .sweep now => trackRemoveStaleAircraft now aircrafts

/-- The list after some events, from none on. -/
def track (events : List Event) : List Aircraft := events.foldl step []

end RbFeeder.Track
