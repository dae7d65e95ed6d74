import RbFeeder.Airnav.Outcome

/-! What is recorded as sent, and what is sent.

A field is recorded in `b->an` when its throttle lets it through. It is sent if the packets
are queued and the packet carries it. **Main theorem:** `recorded_is_sent_iff`. -/
namespace RbFeeder.Airnav
open ModeS (Byte)
open Tracker (Aircraft Datum NavModes)
open Throttle (Last)
open scoped Classical

namespace Field

/-- The type of a field in the packet. -/
abbrev Sent : Field → Type
  | callsign => List Byte
  | airborne | nicBaro => Byte
  | wind => BitVec 16 × BitVec 16
  | magHeading | gs | geomRate | baroRate | squawk | ias => BitVec 16
  | navModes => NavModes
  | altitudeGeom | altitudeBaro | posNic | temperature | navAltitudeFms | navAltitudeMcp => BitVec 32
  | navQnh | nacP | nacV | sil => BitVec 32

/-- A value in the type that the packet has for it. -/
def sent : (f : Field) → f.Value → f.Sent
  | callsign, value => value
  | airborne, value => value
  | altitudeGeom, value => BitVec.ofInt 32 value
  | altitudeBaro, value => BitVec.ofInt 32 value
  | posNic, value => BitVec.ofNat 32 value
  | magHeading, value => Asterix.toInt 16 value
  | temperature, value => BitVec.signExtend 32 value
  | wind, value => value
  | gs, value => Asterix.toInt 16 value
  | geomRate, value => BitVec.ofInt 16 value
  | baroRate, value => BitVec.ofInt 16 value
  | squawk, value => BitVec.ofNat 16 value
  | ias, value => BitVec.ofNat 16 value
  | navModes, value => value
  | navAltitudeFms, value => BitVec.ofNat 32 value
  | navAltitudeMcp, value => BitVec.ofNat 32 value
  | navQnh, value => Asterix.toInt 32 value
  | nicBaro, value => BitVec.ofNat 8 value
  | nacP, value => BitVec.ofNat 32 value
  | nacV, value => BitVec.ofNat 32 value
  | sil, value => BitVec.ofNat 32 value

/-- The blocks of these fields do not raise `send`. -/
def Silent : Field → Prop
  | callsign | navModes | navAltitudeFms | navAltitudeMcp | navQnh => True
  | _ => False

end Field

/-- A field in the packet, if it is marked set. The modes have a flag each. -/
def Packet.carried (p : Packet) : (f : Field) → Option f.Sent
  | .callsign => p.read .callsign
  | .airborne => p.read .airborne
  | .altitudeGeom => p.read .altitudeGeo
  | .altitudeBaro => p.read .altitude
  | .posNic => p.read .posNic
  | .magHeading => p.read .heading
  | .temperature => p.read .temperature
  | .wind => (p.read .windDir).bind fun dir => (p.read .windSpeed).map fun speed => (dir, speed)
  | .gs => p.read .gndSpeed
  | .geomRate => p.read .vertRate
  | .baroRate => p.read .vertRate
  | .squawk => p.read .squawk
  | .ias => p.read .ias
  | .navModes => some p.navModes
  | .navAltitudeFms => p.read .navAltitudeFms
  | .navAltitudeMcp => p.read .navAltitudeMcp
  | .navQnh => p.read .navQnh
  | .nicBaro => p.read .nicBaro
  | .nacP => p.read .nacP
  | .nacV => p.read .nacV
  | .sil => p.read .sil

theorem Packet.carried_cmd (p : Packet) (cmd : Int) (f : Field) :
    { p with cmd := cmd }.carried f = p.carried f := by cases f <;> rfl

namespace Turn
variable (x : Turn) (cfg : Config) (an : Emitted)

/-- What is let through of a field gets into the packet as it is. -/
def Transmits : Field → Prop
  | .magHeading => x.Valid .magHeading
  | .gs => x.Valid .gs
  | .navModes => (x.value .navModes : NavModes).autopilot
  | _ => True

variable {x cfg an} in
theorem Final.read {f : Field} {marks : List (Σ k : Entry, k.Value)} (h : x.Final cfg an f marks)
    {k : Entry} {value : k.Value} (hmark : ⟨k, value⟩ ∈ marks) (hopen : x.Opens cfg an f) :
    (x.prepareAircraft cfg an).acf.read k = some value := by
  rw [Packet.read, h.2 _ hmark, if_pos hopen]
  rfl

/-- A field that is let through is in the packet. -/
theorem carried_of_opens {f : Field} (hopen : x.Opens cfg an f) (hsent : x.Transmits f) :
    (x.prepareAircraft cfg an).acf.carried f = some (f.sent (x.tracked cfg f)) := by
  cases f
  case callsign => exact (x.final_callsign cfg an).read (List.mem_singleton_self _) hopen
  case airborne => exact (x.final_airborne cfg an).read (List.mem_singleton_self _) hopen
  case altitudeGeom => exact (x.final_altitudeGeom cfg an).read (List.mem_singleton_self _) hopen
  case altitudeBaro => exact (x.final_altitudeBaro cfg an).read (List.mem_singleton_self _) hopen
  case posNic => exact (x.final_posNic cfg an).read (List.mem_singleton_self _) hopen
  case magHeading =>
    rw [Packet.carried, Packet.read, final_heading, if_pos ⟨hopen, hsent⟩]
    rfl
  case temperature => exact (x.final_temperature cfg an).read (List.mem_singleton_self _) hopen
  case wind =>
    have hdir := (x.final_wind cfg an).read (List.mem_cons_of_mem _ (List.mem_singleton_self _)) hopen
    have hspeed := (x.final_wind cfg an).read List.mem_cons_self hopen
    rw [Packet.carried, hdir, hspeed]
    rfl
  case gs =>
    rw [Packet.carried, Packet.read, final_gndSpeed, if_pos ⟨hopen, hsent⟩]
    rfl
  case geomRate =>
    rw [Packet.carried, Packet.read, final_vertRate, if_pos hopen.1.1, if_pos hopen]
    rfl
  case baroRate =>
    rw [Packet.carried, Packet.read, final_vertRate, if_neg hopen.1.1, if_pos hopen]
    rfl
  case squawk => exact (x.final_squawk cfg an).read (List.mem_singleton_self _) hopen
  case ias => exact (x.final_ias cfg an).read (List.mem_singleton_self _) hopen
  case navModes =>
    have hauto : (x.value .navModes : NavModes).autopilot = true := hsent
    rw [Packet.carried, final_modes, if_pos hopen, ← hauto]
    rfl
  case navAltitudeFms => exact (x.final_navAltitudeFms cfg an).read (List.mem_singleton_self _) hopen
  case navAltitudeMcp => exact (x.final_navAltitudeMcp cfg an).read (List.mem_singleton_self _) hopen
  case navQnh => exact (x.final_navQnh cfg an).read (List.mem_singleton_self _) hopen
  case nicBaro => exact (x.final_nicBaro cfg an).read (List.mem_singleton_self _) hopen
  case nacP => exact (x.final_nacP cfg an).read (List.mem_singleton_self _) hopen
  case nacV => exact (x.final_nacV cfg an).read (List.mem_singleton_self _) hopen
  case sil => exact (x.final_sil cfg an).read (List.mem_cons_of_mem _ (List.mem_singleton_self _)) hopen

/-- What is not valid, and the modes without the autopilot, are not in the packet as they are. -/
theorem not_carried_of_not_transmits {f : Field} (hopen : x.Opens cfg an f) (hsent : ¬ x.Transmits f) :
    (x.prepareAircraft cfg an).acf.carried f ≠ some (f.sent (x.tracked cfg f)) := by
  cases f <;> simp only [Transmits, not_true] at hsent
  case magHeading =>
    rw [Packet.carried, Packet.read, final_heading, if_neg fun h => hsent h.2]
    exact nofun
  case gs =>
    rw [Packet.carried, Packet.read, final_gndSpeed, if_neg fun h => hsent h.2]
    exact nofun
  case navModes =>
    rw [Packet.carried, final_modes, if_pos hopen]
    intro h
    have hmodes : { (x.value .navModes : NavModes) with autopilot := true } = (x.value .navModes : NavModes) :=
      Option.some.inj h
    exact hsent (congrArg NavModes.autopilot hmodes).symm

/-- A field is let through that is not what was sent last, at this time. -/
def Changes (f : Field) : Prop := x.Opens cfg an f ∧ an f ≠ ⟨x.tracked cfg f, x.tvSec⟩

theorem modified_iff (f : Field) : (x.prepareAircraft cfg an).an f ≠ an f ↔ x.Changes cfg an f := by
  rw [prepareAircraft_an, Changes]
  by_cases hopen : x.Opens cfg an f
  · rw [if_pos hopen, and_iff_right hopen, ne_comm]
  · rw [if_neg hopen]
    exact iff_of_false (fun h => h rfl) fun h => hopen h.1

/-- A field that is not silent raises `send` when it gets into the packet. -/
theorem sends_of_opens {f : Field} (hopen : x.Opens cfg an f) (hsent : x.Transmits f) (hsilent : ¬ f.Silent) :
    x.Sends cfg an := by
  cases f <;> simp only [Field.Silent, not_true, not_false_eq_true] at hsilent
  case airborne =>
    obtain hground | hgeom | hbaro := hopen.1
    · exact .inr ⟨.airborne, hopen, hground⟩
    · exact .inr ⟨.altitudeGeom, hgeom.1, trivial⟩
    · exact .inr ⟨.altitudeBaro, hbaro.1, trivial⟩
  case posNic => exact .inl hopen.1
  all_goals exact .inr ⟨_, hopen, hsent⟩

/-- What is recorded of a field is queued in this pass. -/
def RecordedIsSent (f : Field) : Prop :=
  (x.prepareAircraft cfg an).an f ≠ an f →
    ∀ q : Queues, ∃ p, (enqueue cfg q (x.prepareAircraft cfg an)).flist = p :: q.flist ∧
      p.carried f = some (f.sent ((x.prepareAircraft cfg an).an f).value)

theorem recordedIsSent_iff (f : Field) : x.RecordedIsSent cfg an f ↔
    (x.Changes cfg an f → x.Sends cfg an ∧ x.Transmits f) := by
  rw [RecordedIsSent, modified_iff]
  refine imp_congr_right fun hchange => ?_
  have hvalue : (x.prepareAircraft cfg an).an f = ⟨x.tracked cfg f, x.tvSec⟩ := by
    rw [prepareAircraft_an, if_pos hchange.1]
  rw [hvalue]
  constructor
  · intro h
    obtain ⟨p, hqueued, hcarried⟩ := h {}
    rw [enqueue] at hqueued
    split at hqueued
    case isTrue hsend =>
      refine ⟨(x.prepareAircraft_send cfg an).mp hsend, by_contra fun hsent => ?_⟩
      rw [← (List.cons.inj hqueued).1, Packet.carried_cmd] at hcarried
      exact x.not_carried_of_not_transmits cfg an hchange.1 hsent hcarried
    case isFalse => exact absurd hqueued nofun
  · intro h q
    refine ⟨_, by rw [enqueue, if_pos ((x.prepareAircraft_send cfg an).mpr h.1)], ?_⟩
    rw [Packet.carried_cmd]
    exact x.carried_of_opens cfg an hchange.1 h.2

/-- **Main theorem.** Everything that is recorded is sent exactly if the fields that do not
raise `send` change only when something else does, the modes with the autopilot on, and
the heading and the ground speed while they are valid. -/
theorem recorded_is_sent_iff : (∀ f, x.RecordedIsSent cfg an f) ↔
    (∀ f : Field, f.Silent → x.Changes cfg an f → x.Sends cfg an) ∧
      (x.Changes cfg an .navModes → (x.value .navModes : NavModes).autopilot) ∧
      (x.Changes cfg an .magHeading → x.Valid .magHeading) ∧ (x.Changes cfg an .gs → x.Valid .gs) := by
  simp only [recordedIsSent_iff]
  constructor
  · intro h
    exact ⟨fun f _ hchange => (h f hchange).1, fun hchange => (h .navModes hchange).2,
      fun hchange => (h .magHeading hchange).2, fun hchange => (h .gs hchange).2⟩
  · intro hgiven f hchange
    obtain ⟨hsilent, hmodes, hheading, hspeed⟩ := hgiven
    have hsent : x.Transmits f := by
      cases f
      case navModes => exact hmodes hchange
      case magHeading => exact hheading hchange
      case gs => exact hspeed hchange
      all_goals trivial
    refine ⟨?_, hsent⟩
    by_cases hquiet : f.Silent
    · exact hsilent f hquiet hchange
    · exact x.sends_of_opens cfg an hchange.1 hsent hquiet

end Turn

/-! ### A callsign that is lost -/

/-- Memory that is all zero. -/
def zeroPacket : Packet :=
  { cmd := 0
    timestp := 0
    isMlat := 0
    is978 := 0
    navAltitudeSrc := .invalid
    navModes := {}
    slots := fun k => ⟨0, k.zero⟩ }

/-- An aircraft that has just been heard for the first time, with some data. -/
def justHeard (addr : BitVec 32) (entries : List (Σ d : Datum, d.Value)) : Aircraft :=
  entries.foldl
    (fun a entry => a.modify entry.1 fun t => { valid := t.valid.accept 100000 .adsb, value := entry.2 })
    { addr := addr
      addrtype := .adsbIcao
      seen := 100000
      messages := 1
      reliable := true
      reliableDF11 := 0
      reliableDF17 := 1
      discarded := 0
      category := 0
      adsbVersion := -1
      adsrVersion := -1
      tisbVersion := -1
      adsbHrd := .invalid
      adsbTah := .invalid
      data := fun d => ⟨.never 60000 70000, d.zero⟩ }

/-- Its turn, in memory that is all zero. -/
def turnOf (addr : BitVec 32) (entries : List (Σ d : Datum, d.Value)) (tvSec : Int) : Turn :=
  { aircraft := justHeard addr entries
    messageNow := 100000
    mstime := 100000
    tvSec := tvSec
    heap := zeroPacket
    heap2 := zeroPacket }

/-- Nothing was sent yet. -/
def neverSent : Emitted
  | .callsign => ⟨([] : List Byte), 0⟩
  | .airborne => ⟨(0 : Byte), 0⟩
  | .altitudeGeom | .altitudeBaro | .geomRate | .baroRate => ⟨(0 : Int), 0⟩
  | .magHeading | .gs | .navQnh => ⟨(0 : ℚ), 0⟩
  | .temperature => ⟨(0 : BitVec 16), 0⟩
  | .wind => ⟨((0, 0) : BitVec 16 × BitVec 16), 0⟩
  | .navModes => ⟨({} : NavModes), 0⟩
  | .posNic | .squawk | .ias | .navAltitudeFms | .navAltitudeMcp | .nicBaro | .nacP | .nacV | .sil => ⟨(0 : Nat), 0⟩

/-- No ASTERIX output. -/
def plainConfig : Config :=
  { useGnss := true
    asterix := none
    temperature := fun _ => 0
    wind := fun _ _ _ => (0, 0) }

/-- Only the callsign of the aircraft is known. -/
def callsignTurn : Turn := turnOf 0x4ca123 [⟨.callsign, ([0x54, 0x45, 0x53, 0x54] : List Byte)⟩] 1700000000

/-- The callsign is recorded as sent, and the packet is freed. -/
theorem callsign_recorded_not_sent : ¬ callsignTurn.RecordedIsSent plainConfig neverSent .callsign := by
  intro h
  have hsend : (callsignTurn.prepareAircraft plainConfig neverSent).send = false := by decide +kernel
  have hmodified : (callsignTurn.prepareAircraft plainConfig neverSent).an .callsign ≠ neverSent .callsign := by
    decide +kernel
  obtain ⟨p, hqueued, -⟩ := h hmodified {}
  rw [enqueue, if_neg (by rw [hsend]; exact nofun)] at hqueued
  exact List.cons_ne_nil _ _ hqueued.symm

end RbFeeder.Airnav
