import RbFeeder.Tracker.Position

/-! Tracking: `trackUpdateFromMessage` and the sweep of `track.c`.

A message is handled in the order of the source: it is counted; if it is not trusted it
goes no further; its version and types of heading are taken; every field takes what the
message has for it, if the source is accepted; then the geometric altitude and the
position are derived. Mode A/C replies are only counted, and not matched here. -/
namespace RbFeeder.Tracker
open Track (Millis Source DataValidity altitudeToFeet trackReliableDF11Messages
  trackReliableDF17Messages trackReliableAnyMessages trackAircraftTTL trackAircraftUnreliableTTL)

/-- `trackCreateAircraft`. -/
def trackCreateAircraft (mm : Message) : Aircraft :=
  { addr := mm.addr
    addrtype := mm.addrtype
    seen := 0
    messages := 0
    reliable := false
    reliableDF11 := 0
    reliableDF17 := 0
    discarded := 0
    category := 0
    adsbVersion := -1
    adsrVersion := 0
    tisbVersion := 0
    adsbHrd := .magnetic
    adsbTah := .groundTrack
    data := fun f =>
      { valid := .never (BitVec.ofNat 64 (f.staleSeconds * 1000)) (BitVec.ofNat 64 (70 * 1000))
        value := f.zero } }

/-- Where a CPR message is kept. -/
def CprReport.datum (cpr : CprReport) : Datum := if cpr.odd then .cprOdd else .cprEven

namespace Aircraft

/-- The aircraft was heard. -/
def heard (a : Aircraft) (mm : Message) : Aircraft :=
  let reliableDF11 := if mm.msgtype = 11 ∧ mm.reliable then a.reliableDF11 + 1 else a.reliableDF11
  let reliableDF17 := if mm.msgtype = 17 ∧ mm.reliable then a.reliableDF17 + 1 else a.reliableDF17
  { a with
    seen := mm.sysTimestampMsg
    messages := a.messages + 1
    reliableDF11 := reliableDF11
    reliableDF17 := reliableDF17
    reliable := a.reliable ∨ reliableDF11 ≥ trackReliableDF11Messages ∨
      reliableDF17 ≥ trackReliableDF17Messages ∨ a.messages + 1 ≥ trackReliableAnyMessages }

/-- A message that is not trusted, from an aircraft that is not either. -/
def Distrusts (a : Aircraft) (mm : Message) : Prop := mm.reliable = false ∧ a.reliable = false

instance (a : Aircraft) (mm : Message) : Decidable (a.Distrusts mm) :=
  inferInstanceAs (Decidable (_ ∧ _))

/-- What a message has for the fields, in the order in which they take it. Each value
depends on fields that are not updated before it; `sda` is updated twice. -/
def reports (version : Int) (a : Aircraft) (mm : Message) : List (Σ f : Datum, Option f.Value) :=
  let now := mm.sysTimestampMsg
  [⟨.altitudeBaro, mm.altitudeBaro.map fun alt => altitudeToFeet alt.1 alt.2⟩,
    ⟨.squawk, mm.squawk⟩,
    ⟨.emergency, mm.emergency⟩,
    ⟨.altitudeGeom, mm.altitudeGeom.map fun alt => altitudeToFeet alt.1 alt.2⟩,
    ⟨.geomDelta, mm.geomDelta⟩,
    ⟨.track, a.headingOf mm .groundTrack⟩,
    ⟨.magHeading, a.headingOf mm .magnetic⟩,
    ⟨.trueHeading, a.headingOf mm .trueHeading⟩,
    ⟨.trackRate, mm.trackRate⟩,
    ⟨.roll, mm.roll⟩,
    ⟨.gs, selectedGs version mm⟩,
    ⟨.ias, mm.ias⟩,
    ⟨.tas, mm.tas⟩,
    ⟨.mach, mm.mach⟩,
    ⟨.baroRate, mm.baroRate⟩,
    ⟨.geomRate, mm.geomRate⟩,
    ⟨.airground, a.airgroundOf now mm⟩,
    ⟨.callsign, mm.callsign⟩,
    ⟨.navAltitudeMcp, mm.nav.mcpAltitude⟩,
    ⟨.navAltitudeFms, mm.nav.fmsAltitude⟩,
    ⟨.navAltitudeSrc, if mm.nav.altitudeSource ≠ .invalid then some mm.nav.altitudeSource else none⟩,
    ⟨.navHeading, mm.nav.heading⟩,
    ⟨.navModes, mm.nav.modes⟩,
    ⟨.navQnh, mm.nav.qnh⟩,
    ⟨.cprEven, a.cprOf now mm false⟩,
    ⟨.cprOdd, a.cprOf now mm true⟩,
    ⟨.sda, mm.accuracy.sda⟩,
    ⟨.nicA, mm.accuracy.nicA⟩,
    ⟨.nicC, mm.accuracy.nicC⟩,
    ⟨.nicBaro, mm.accuracy.nicBaro⟩,
    ⟨.nacP, nacPOf version mm⟩,
    ⟨.nacV, mm.accuracy.nacV⟩,
    ⟨.sil, a.silValue version mm⟩,
    ⟨.gva, mm.accuracy.gva⟩,
    ⟨.sda, mm.accuracy.sda⟩,
    ⟨.mrarSource, mm.mrarSource⟩,
    ⟨.wind, mm.wind⟩,
    ⟨.temperature, mm.temperature⟩,
    ⟨.pressure, mm.pressure⟩,
    ⟨.turbulence, mm.turbulence⟩,
    ⟨.humidity, mm.humidity⟩]

/-- The fields take what the message has for them. -/
def acceptReports (a : Aircraft) (mm : Message) (reports : List (Σ f : Datum, Option f.Value)) :
    Aircraft :=
  { a with
    data := reports.foldl
      (fun data report =>
        Fields.modify data report.1 (Tracked.update mm.sysTimestampMsg mm.source report.2))
      a.data }

/-- Whether baro and delta are both more recent than geometric. -/
def Derives (now : Millis) (a : Aircraft) : Prop :=
  (a.data .altitudeBaro).valid.compare now (a.data .altitudeGeom).valid > 0 ∧
    (a.data .geomDelta).valid.compare now (a.data .altitudeGeom).valid > 0

instance (now : Millis) (a : Aircraft) : Decidable (a.Derives now) :=
  inferInstanceAs (Decidable (_ ∧ _))

/-- The geometric altitude derived from baro + delta. -/
def derived (a : Aircraft) : Aircraft :=
  a.modify .altitudeGeom fun geom =>
    { value := ((a.data .altitudeBaro).value + (a.data .geomDelta).value : Int)
      valid := .combine geom.valid (a.data .altitudeBaro).valid (a.data .geomDelta).valid }

/-- The CPR message, if it was taken: `cpr_new`. -/
def cprNew (a : Aircraft) (mm : Message) : Option CprReport :=
  match mm.cpr with
  | some cpr =>
    if (a.data cpr.datum).valid.Accepts mm.sysTimestampMsg mm.source then some cpr else none
  | none => none

/-- The fields updated from a message that was not discarded. -/
def updateData (a : Aircraft) (mm : Message) : Aircraft :=
  let version := a.version mm
  let described := a.describe mm
  described.acceptReports mm (described.reports version mm)

/-- The derived data. -/
def derive (a : Aircraft) (now : Millis) : Aircraft := if a.Derives now then a.derived else a

/-- What a message does to its aircraft. -/
def update (site : Site) (a : Aircraft) (mm : Message) : Aircraft :=
  let a := a.heard mm
  if a.Distrusts mm then { a with discarded := a.discarded + 1 }
  else
    let b := (a.updateData mm).derive mm.sysTimestampMsg
    match a.cprNew mm with
    | some cpr => b.updatePosition site (a.version mm) mm cpr
    | none => b

/-- Whether a sweep removes the aircraft. The age is an unsigned difference. -/
def Stale (now : Millis) (a : Aircraft) : Prop :=
  now - a.seen > trackAircraftTTL ∨
    (a.reliable = false ∧ now - a.seen > trackAircraftUnreliableTTL)

instance (now : Millis) (a : Aircraft) : Decidable (a.Stale now) :=
  inferInstanceAs (Decidable (_ ∨ _))

/-- `EXPIRE`, for every field. -/
def expire (now : Millis) (a : Aircraft) : Aircraft :=
  { a with data := fun f => Tracked.expire now (a.data f) }

end Aircraft

/-! ### The list of aircraft -/

/-- `trackFindAircraft`. -/
def trackFindAircraft (aircrafts : List Aircraft) (addr : BitVec 32) : Option Aircraft :=
  aircrafts.find? (·.addr = addr)

/-- The first record with this address is updated in place. -/
def updateFirst (addr : BitVec 32) (f : Aircraft → Aircraft) : List Aircraft → List Aircraft
  | [] => []
  | a :: rest => if a.addr = addr then f a :: rest else a :: updateFirst addr f rest

/-- Messages that are tracked: neither Mode A/C, nor from a junk address. -/
def Message.Tracked (mm : Message) : Prop := mm.msgtype ≠ 32 ∧ mm.addr ≠ 0

instance (mm : Message) : Decidable mm.Tracked := inferInstanceAs (Decidable (_ ∧ _))

/-- `trackUpdateFromMessage`. A new record is put at the head of the list. -/
def trackUpdateFromMessage (site : Site) (aircrafts : List Aircraft) (mm : Message) : List Aircraft :=
  if mm.Tracked then
    match trackFindAircraft aircrafts mm.addr with
    | none => (trackCreateAircraft mm).update site mm :: aircrafts
    | some _ => updateFirst mm.addr (·.update site mm) aircrafts
  else aircrafts

/-- `trackRemoveStaleAircraft`. -/
def trackRemoveStaleAircraft (now : Millis) : List Aircraft → List Aircraft
  | [] => []
  | a :: rest =>
    if a.Stale now then trackRemoveStaleAircraft now rest
    else a.expire now :: trackRemoveStaleAircraft now rest

/-- The list, and the `next_update` of `trackPeriodicUpdate`. -/
structure State where
  aircrafts : List Aircraft
  nextUpdate : Millis

/-- `trackPeriodicUpdate`, once per second. -/
def trackPeriodicUpdate (s : State) (now : Millis) : State :=
  if now ≥ s.nextUpdate then
    { aircrafts := trackRemoveStaleAircraft now s.aircrafts, nextUpdate := now + 1000 }
  else s

/-- What happens to the list: a message, or a periodic update at some time. -/
inductive Event
  | message (mm : Message)
  | periodic (now : Millis)

def step (site : Site) (s : State) : Event → State
  | .message mm => { s with aircrafts := trackUpdateFromMessage site s.aircrafts mm }
  | .periodic now => trackPeriodicUpdate s now

/-- The state after some events, from the start on. -/
def run (site : Site) (events : List Event) : State := events.foldl (step site) ⟨[], 0⟩

end RbFeeder.Tracker
