import RbFeeder.Airnav.Identity

/-! What is sent of an aircraft, in any memory.

The memory of a packet comes from `malloc` and is initialised field by field. **Main
theorem:** `functionOfState_iff`. The geometric altitude is the one field that is sent and
not initialised. -/
namespace RbFeeder.Airnav
open ModeS (Byte)
open scoped Classical

/-- What was in the memory shows in the flight through the geometric altitude only. -/
theorem Packet.flight_congr (bits : ℚ → BitVec 64) {p p' : Packet}
    (hslots : ∀ k, k ≠ .altitudeGeo → k ≠ .extraFlags → k ≠ .navHeading → p.slots k = p'.slots k)
    (hmlat : p.isMlat = p'.isMlat) (his978 : p.is978 = p'.is978) :
    p.flight bits = { p'.flight bits with altitudeGeo := p.read .altitudeGeo } := by
  simp (disch := decide) only [Packet.flight, Packet.read, hslots, hmlat, his978]

/-- The geometric altitude is the last field of a flight. -/
theorem flightData_altitudeGeo (p : PData) (altitude : Option (BitVec 32)) :
    flightData { p with altitudeGeo := altitude } =
      flightData { p with altitudeGeo := none } ++ Protobuf.optional (Protobuf.int32 41) altitude := by
  have hassoc : ∀ first rest last : List Byte, first ++ (rest ++ last) = first ++ (rest ++ []) ++ last := by
    intro first rest last
    rw [List.append_nil, List.append_assoc]
  exact hassoc _ _ _

/-- With and without the geometric altitude the flight is not the same. -/
theorem flightData_ne (p : PData) (altitude : BitVec 32) :
    flightData { p with altitudeGeo := some altitude } ≠ flightData { p with altitudeGeo := none } := by
  intro h
  have hlen : 2 ≤ (Protobuf.int32 41 altitude).length := Protobuf.two_le_length_uint 41 _
  rw [flightData_altitudeGeo, List.append_right_eq_self] at h
  rw [show Protobuf.int32 41 altitude = [] from h] at hlen
  exact absurd hlen (by decide)

namespace Turn
variable (x : Turn) (cfg : Config) (an : Emitted) (bits : ℚ → BitVec 64)

/-- The turn, with other memory from `malloc`. -/
def inMemory (heap heap2 : Packet) : Turn := { x with heap := heap, heap2 := heap2 }

/-- The `FlightData` of the aircraft in this pass, if its packets are queued. -/
def sentFlight : Option (List Byte) :=
  (enqueue cfg {} (x.prepareAircraft cfg an)).flist.head?.map fun p => flightData (p.flight bits)

/-- Whatever was in the memory, the same is sent. -/
def FunctionOfState : Prop :=
  ∀ heap heap2 heap' heap2', (x.inMemory heap heap2).sentFlight cfg an bits =
    (x.inMemory heap' heap2').sentFlight cfg an bits

theorem opens_inMemory (heap heap2 : Packet) (f : Field) :
    (x.inMemory heap heap2).Opens cfg an f ↔ x.Opens cfg an f := by
  cases f <;> exact Iff.rfl

variable {x cfg an} in
/-- A value that a throttle lets through does not depend on the memory. -/
theorem Final.slots_inMemory {heap heap2 : Packet} {f : Field} {marks : List (Σ k : Entry, k.Value)}
    (hy : (x.inMemory heap heap2).Final cfg an f marks) (hx : x.Final cfg an f marks)
    {k : Entry} {value : k.Value} (hmark : ⟨k, value⟩ ∈ marks) (hgeo : k ≠ .altitudeGeo) :
    ((x.inMemory heap heap2).prepareAircraft cfg an).acf.slots k = (x.prepareAircraft cfg an).acf.slots k := by
  rw [hy.2 _ hmark, hx.2 _ hmark, netPreparePacketV2, netPreparePacketV2]
  dsimp only
  rw [if_neg hgeo, if_neg hgeo]
  exact if_congr (opens_inMemory x cfg an heap heap2 f) rfl rfl

/-- What the pass makes of a field that is initialised does not depend on the memory. -/
theorem slots_inMemory (heap heap2 : Packet) {k : Entry} (hgeo : k ≠ .altitudeGeo) (hflags : k ≠ .extraFlags)
    (hheading : k ≠ .navHeading) : ((x.inMemory heap heap2).prepareAircraft cfg an).acf.slots k =
      (x.prepareAircraft cfg an).acf.slots k := by
  let y := x.inMemory heap heap2
  cases k
  case altitudeGeo => exact absurd rfl hgeo
  case extraFlags => exact absurd rfl hflags
  case navHeading => exact absurd rfl hheading
  case modesAddr => exact congrArg Prod.fst ((y.final_modesAddr cfg an).trans (x.final_modesAddr cfg an).symm)
  case position => exact (y.final_position cfg an).trans (x.final_position cfg an).symm
  case heading => exact (y.final_heading cfg an).trans (x.final_heading cfg an).symm
  case gndSpeed => exact (y.final_gndSpeed cfg an).trans (x.final_gndSpeed cfg an).symm
  case vertRate => exact (y.final_vertRate cfg an).trans (x.final_vertRate cfg an).symm
  case callsign => exact (y.final_callsign cfg an).slots_inMemory (x.final_callsign cfg an) List.mem_cons_self hgeo
  case altitude =>
    exact (y.final_altitudeBaro cfg an).slots_inMemory (x.final_altitudeBaro cfg an) List.mem_cons_self hgeo
  case ias => exact (y.final_ias cfg an).slots_inMemory (x.final_ias cfg an) List.mem_cons_self hgeo
  case squawk => exact (y.final_squawk cfg an).slots_inMemory (x.final_squawk cfg an) List.mem_cons_self hgeo
  case airborne => exact (y.final_airborne cfg an).slots_inMemory (x.final_airborne cfg an) List.mem_cons_self hgeo
  case navAltitudeFms =>
    exact (y.final_navAltitudeFms cfg an).slots_inMemory (x.final_navAltitudeFms cfg an) List.mem_cons_self hgeo
  case navAltitudeMcp =>
    exact (y.final_navAltitudeMcp cfg an).slots_inMemory (x.final_navAltitudeMcp cfg an) List.mem_cons_self hgeo
  case navQnh => exact (y.final_navQnh cfg an).slots_inMemory (x.final_navQnh cfg an) List.mem_cons_self hgeo
  case windDir =>
    exact (y.final_wind cfg an).slots_inMemory (x.final_wind cfg an)
      (List.mem_cons_of_mem _ List.mem_cons_self) hgeo
  case windSpeed => exact (y.final_wind cfg an).slots_inMemory (x.final_wind cfg an) List.mem_cons_self hgeo
  case temperature =>
    exact (y.final_temperature cfg an).slots_inMemory (x.final_temperature cfg an) List.mem_cons_self hgeo
  case posNic => exact (y.final_posNic cfg an).slots_inMemory (x.final_posNic cfg an) List.mem_cons_self hgeo
  case nicBaro => exact (y.final_nicBaro cfg an).slots_inMemory (x.final_nicBaro cfg an) List.mem_cons_self hgeo
  case nacP => exact (y.final_nacP cfg an).slots_inMemory (x.final_nacP cfg an) List.mem_cons_self hgeo
  case nacV => exact (y.final_nacV cfg an).slots_inMemory (x.final_nacV cfg an) List.mem_cons_self hgeo
  case sil =>
    exact (y.final_sil cfg an).slots_inMemory (x.final_sil cfg an) (List.mem_cons_of_mem _ List.mem_cons_self) hgeo
  case silType => exact (y.final_sil cfg an).slots_inMemory (x.final_sil cfg an) List.mem_cons_self hgeo

/-- The geometric altitude in the flight: the tracked one if it is let through, else what the
memory held. -/
theorem read_altitudeGeo (heap heap2 : Packet) :
    ((x.inMemory heap heap2).prepareAircraft cfg an).acf.read .altitudeGeo =
      if x.Opens cfg an .altitudeGeom then some (BitVec.ofInt 32 (x.value .altitudeGeom))
      else heap.read .altitudeGeo := by
  have hslot := ((x.inMemory heap heap2).final_altitudeGeom cfg an).2 _ List.mem_cons_self
  rw [Packet.read, hslot]
  by_cases hopen : x.Opens cfg an .altitudeGeom
  · rw [if_pos ((x.opens_inMemory cfg an heap heap2 _).mpr hopen), if_pos hopen]
    rfl
  · rw [if_neg fun h => hopen ((x.opens_inMemory cfg an heap heap2 _).mp h), if_neg hopen]
    rfl

/-- What is sent from a given memory. -/
theorem sentFlight_inMemory (heap heap2 : Packet) : (x.inMemory heap heap2).sentFlight cfg an bits =
    if x.Sends cfg an then
      some (flightData { (x.prepareAircraft cfg an).acf.flight bits with
        altitudeGeo := if x.Opens cfg an .altitudeGeom then some (BitVec.ofInt 32 (x.value .altitudeGeom))
          else heap.read .altitudeGeo })
    else none := by
  have hsends : (x.inMemory heap heap2).Sends cfg an ↔ x.Sends cfg an := Iff.rfl
  have hmlat := ((x.inMemory heap heap2).final_mlat cfg an).trans (x.final_mlat cfg an).symm
  rw [sentFlight, enqueue]
  by_cases h : x.Sends cfg an
  · rw [if_pos (((x.inMemory heap heap2).prepareAircraft_send cfg an).mpr (hsends.mpr h)), if_pos h]
    have hflight := Packet.flight_congr bits (fun _ => x.slots_inMemory cfg an heap heap2)
      (Prod.mk.inj hmlat).1 (Prod.mk.inj hmlat).2
    rw [read_altitudeGeo] at hflight
    exact congrArg (some <| flightData ·) hflight
  · rw [if_neg (fun hsend => h (hsends.mp (((x.inMemory heap heap2).prepareAircraft_send cfg an).mp hsend))), if_neg h]
    rfl

/-- Without the geometric altitude the flag in the memory decides. -/
theorem not_functionOfState (hsends : x.Sends cfg an) (hopen : ¬ x.Opens cfg an .altitudeGeom) :
    ¬ x.FunctionOfState cfg an bits := by
  intro h
  have hset := h { zeroPacket with slots := fun k => ⟨1, k.zero⟩ } zeroPacket zeroPacket zeroPacket
  rw [sentFlight_inMemory, sentFlight_inMemory, if_pos hsends, if_pos hsends, if_neg hopen, if_neg hopen] at hset
  exact flightData_ne _ _ (Option.some.inj hset)

/-- **Main theorem.** What is sent is a function of the state exactly if nothing is sent
without the geometric altitude. -/
theorem functionOfState_iff : x.FunctionOfState cfg an bits ↔
    (x.Sends cfg an → x.Opens cfg an .altitudeGeom) := by
  constructor
  · intro h hsends
    by_contra hopen
    exact x.not_functionOfState cfg an bits hsends hopen h
  · intro h heap heap2 heap' heap2'
    rw [sentFlight_inMemory, sentFlight_inMemory]
    by_cases hsends : x.Sends cfg an
    · rw [if_pos hsends, if_pos hsends, if_pos (h hsends), if_pos (h hsends)]
    · rw [if_neg hsends, if_neg hsends]

end Turn

/-- Of an aircraft with its NACp just heard, an altitude is sent if the memory had one. -/
theorem altitude_from_memory : ¬ (nacTurn 0x4ca123).FunctionOfState plainConfig neverSent fun _ => 0 := by
  have hsend : ((nacTurn 0x4ca123).prepareAircraft plainConfig neverSent).send = true := by decide +kernel
  have hoffers : ¬ (nacTurn 0x4ca123).OffersGeom plainConfig := by decide +kernel
  exact (nacTurn 0x4ca123).not_functionOfState plainConfig neverSent _
    (((nacTurn 0x4ca123).prepareAircraft_send plainConfig neverSent).mp hsend) fun hopen => hoffers hopen.1

end RbFeeder.Airnav
