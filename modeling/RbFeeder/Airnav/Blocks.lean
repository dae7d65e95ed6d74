import RbFeeder.Airnav.PrepareData
import RbFeeder.Lib.Footprint

/-! What each block of the pass leaves alone. -/
namespace RbFeeder.Airnav
open ModeS (Byte)
open Tracker (Aircraft Datum NavModes)
open Throttle (Last)

/-! ### Locations -/

/-- What a block can change, apart from `send`. -/
inductive Location
  | field (f : Field)
  | entry (k : Entry)
  | modes
  | mlat
  | item (i : Asterix.ItemId)
deriving DecidableEq

/-- The type of what is found at a location. -/
abbrev Location.Value : Location → Type
  | field f => Last f.Value
  | entry k => Slot k.Value × Slot k.Value
  | modes => NavModes
  | mlat => Int × Int
  | item _ => List Asterix.Call

/-- What is found at a location. An entry is looked up in both packets. -/
def Pass.look (s : Pass) : (l : Location) → l.Value
  | .field f => s.an f
  | .entry k => (s.acf.slots k, s.acf2.slots k)
  | .modes => s.acf.navModes
  | .mlat => (s.acf.isMlat, s.acf.is978)
  | .item i => s.calls.filter fun c => c.item = i

namespace Pass
variable (s : Pass) (x : Turn)

theorem record_look {l : Location} (f : Field) (value : f.Value) (h : l ≠ .field f) :
    (s.record x f value).look l = s.look l := by
  cases l with
  | field g => exact Function.update_of_ne (fun e => h (congrArg _ e)) _ _
  | _ => rfl

theorem writeFirst_look {l : Location} (k : Entry) (value : k.Value) (h : l ≠ .entry k) :
    (s.writeFirst k value).look l = s.look l := by
  cases l with
  | entry j => exact congrArg (·, _) (Function.update_of_ne (fun e => h (congrArg _ e)) _ _)
  | _ => rfl

theorem assignSecond_look {l : Location} (k : Entry) (value : k.Value) (h : l ≠ .entry k) :
    ({ s with acf2 := s.acf2.assign k value } : Pass).look l = s.look l := by
  cases l with
  | entry j => exact congrArg (_, ·) (Function.update_of_ne (fun e => h (congrArg _ e)) _ _)
  | _ => rfl

theorem write_look {l : Location} (k : Entry) (value : k.Value) (h : l ≠ .entry k) :
    (s.write k value).look l = s.look l := by
  cases l with
  | entry j =>
    have hj : j ≠ k := fun e => h (congrArg _ e)
    exact congrArg₂ Prod.mk (Function.update_of_ne hj _ _) (Function.update_of_ne hj _ _)
  | _ => rfl

theorem write_entry (k : Entry) (value : k.Value) :
    (s.write k value).look (.entry k) = (⟨1, value⟩, ⟨1, value⟩) :=
  congrArg₂ Prod.mk (Function.update_self ..) (Function.update_self ..)

@[simp] theorem record_entry (f : Field) (value : f.Value) (k : Entry) :
    (s.record x f value).look (.entry k) = s.look (.entry k) := rfl

@[simp] theorem writeFirst_field (k : Entry) (value : k.Value) (f : Field) :
    (s.writeFirst k value).look (.field f) = s.look (.field f) := rfl

@[simp] theorem write_field (k : Entry) (value : k.Value) (f : Field) :
    (s.write k value).look (.field f) = s.look (.field f) := rfl

@[simp] theorem raise_look (l : Location) : s.raise.look l = s.look l := by cases l <;> rfl

theorem call_look {l : Location} (c : Asterix.Call) (h : l ≠ .item c.item) :
    (s.call c).look l = s.look l := by
  cases l with
  | item i =>
    have hi : c.item ≠ i := fun e => h (congrArg _ e.symm)
    simp [look, call, List.filter_append, hi]
  | _ => rfl

end Pass

theorem asterix_look (cfg : Config) {l : Location} (c : Asterix.Call) (s : Pass) (h : l ≠ .item c.item) :
    (asterix cfg c s).look l = s.look l := by
  unfold asterix
  split
  · exact s.call_look c h
  · rfl

@[simp] theorem asterix_field (cfg : Config) (c : Asterix.Call) (s : Pass) (f : Field) :
    (asterix cfg c s).look (.field f) = s.look (.field f) := asterix_look cfg c s nofun

@[simp] theorem asterix_entry (cfg : Config) (c : Asterix.Call) (s : Pass) (k : Entry) :
    (asterix cfg c s).look (.entry k) = s.look (.entry k) := asterix_look cfg c s nofun

theorem asterix_item (cfg : Config) (c : Asterix.Call) (s : Pass) : (asterix cfg c s).look (.item c.item) =
    s.look (.item c.item) ++ if cfg.asterix.isSome then [c] else [] := by
  unfold asterix
  split
  · simp [Pass.look, Pass.call, List.filter_append]
  · exact (List.append_nil _).symm

theorem asterix_send (cfg : Config) (c : Asterix.Call) (s : Pass) : (asterix cfg c s).send = s.send := by
  unfold asterix
  split <;> rfl

namespace Turn
variable (x : Turn) (cfg : Config) {l : Location} (s : Pass)

theorem throttle_look (f : Field) (value : f.Value) {emit : Pass → Pass} (hf : l ≠ .field f)
    (h : ∀ s, (emit s).look l = s.look l) : (x.throttle f value emit s).look l = s.look l := by
  unfold throttle
  split
  · rw [h, Pass.record_look s x f value hf]
  · rfl

theorem throttleOrForce_look (f : Field) (value : f.Value) {emit : Pass → Pass} (hf : l ≠ .field f)
    (h : ∀ s, (emit s).look l = s.look l) : (x.throttleOrForce f value emit s).look l = s.look l := by
  unfold throttleOrForce
  split
  · rw [h, Pass.record_look s x f value hf]
  · rfl

theorem address_look (h₁ : l ≠ .entry .modesAddr) (h₂ : l ≠ .item .i080) :
    (x.address cfg s).look l = s.look l := by
  unfold address
  split
  · rfl
  · rw [asterix_look cfg _ _ h₂, Pass.write_look s _ _ h₁]

theorem timestamp_look : (x.timestamp s).look l = s.look l := by cases l <;> rfl

theorem callsign_look (h₁ : l ≠ .field .callsign) (h₂ : l ≠ .entry .callsign) (h₃ : l ≠ .item .i170) :
    (x.callsign cfg s).look l = s.look l := by
  unfold callsign
  split
  · refine x.throttleOrForce_look s _ _ h₁ fun s => ?_
    rw [asterix_look cfg _ _ h₃, Pass.write_look s _ _ h₂]
  · rfl

theorem airborne_look (value : Byte) {emit : Pass → Pass} (h₁ : l ≠ .field .airborne)
    (h₂ : l ≠ .entry .airborne) (h : ∀ s, (emit s).look l = s.look l) :
    (x.airborne value emit s).look l = s.look l := by
  refine x.throttleOrForce_look s _ _ h₁ fun s => ?_
  rw [h, Pass.write_look s _ _ h₂]

theorem altitudeGeom_look (h₁ : l ≠ .field .altitudeGeom) (h₂ : l ≠ .field .airborne)
    (h₃ : l ≠ .entry .altitudeGeo) (h₄ : l ≠ .entry .airborne) (h₅ : l ≠ .item .i140) :
    (x.altitudeGeom cfg s).look l = s.look l := by
  unfold altitudeGeom
  split_ifs
  · dsimp only
    rw [asterix_look cfg _ _ h₅]
    refine x.throttleOrForce_look s _ _ h₁ fun s => ?_
    rw [Pass.raise_look, Pass.write_look _ _ _ h₃]
    split
    · exact x.airborne_look s _ h₂ h₄ fun _ => rfl
    · rfl
  all_goals rfl

theorem altitudeBaro_look (h₁ : l ≠ .field .altitudeBaro) (h₂ : l ≠ .field .airborne)
    (h₃ : l ≠ .entry .altitude) (h₄ : l ≠ .entry .airborne) (h₅ : l ≠ .item .i145) :
    (x.altitudeBaro cfg s).look l = s.look l := by
  unfold altitudeBaro
  split_ifs
  · dsimp only
    rw [asterix_look cfg _ _ h₅]
    refine x.throttleOrForce_look s _ _ h₁ fun s => ?_
    rw [Pass.raise_look, Pass.write_look _ _ _ h₃]
    split
    · exact x.airborne_look s _ h₂ h₄ fun _ => rfl
    · rfl
  all_goals rfl

theorem altitude_look (h₁ : l ≠ .field .altitudeGeom) (h₂ : l ≠ .field .altitudeBaro)
    (h₃ : l ≠ .field .airborne) (h₄ : l ≠ .entry .altitudeGeo) (h₅ : l ≠ .entry .altitude)
    (h₆ : l ≠ .entry .airborne) (h₇ : l ≠ .item .i140) (h₈ : l ≠ .item .i145) :
    (x.altitude cfg s).look l = s.look l := by
  unfold altitude
  split
  · exact x.airborne_look s _ h₃ h₆ fun s => s.raise_look l
  · rw [altitudeBaro_look x cfg _ h₂ h₃ h₅ h₆ h₈, altitudeGeom_look x cfg _ h₁ h₃ h₄ h₆ h₇]

theorem position_look (h₁ : l ≠ .field .posNic) (h₂ : l ≠ .entry .position) (h₃ : l ≠ .entry .posNic)
    (h₄ : l ≠ .item .i131) : (x.position cfg s).look l = s.look l := by
  unfold position
  split_ifs
  · dsimp only
    rw [asterix_look cfg _ _ h₄, Pass.raise_look, Pass.assignSecond_look _ _ _ h₂]
    rw [x.throttleOrForce_look _ _ _ h₁ fun s => Pass.writeFirst_look s _ _ h₃]
    exact Pass.writeFirst_look s _ _ h₂
  all_goals rfl

theorem heading_look (h₁ : l ≠ .field .magHeading) (h₂ : l ≠ .entry .heading) (h₃ : l ≠ .item .i152) :
    (x.heading cfg s).look l = s.look l := by
  unfold heading
  split
  · dsimp only
    rw [asterix_look cfg _ _ h₃]
    refine x.throttle_look s _ _ h₁ fun s => ?_
    split
    · rw [Pass.raise_look, Pass.write_look s _ _ h₂]
    · rfl
  · rfl

theorem trueAirSpeed_look (h : l ≠ .item .i151) : (x.trueAirSpeed cfg s).look l = s.look l := by
  unfold trueAirSpeed
  split_ifs
  · exact asterix_look cfg _ s h
  all_goals rfl

theorem weather_look (h₁ : l ≠ .field .temperature) (h₂ : l ≠ .field .wind) (h₃ : l ≠ .entry .temperature)
    (h₄ : l ≠ .entry .windDir) (h₅ : l ≠ .entry .windSpeed) : (x.weather cfg s).look l = s.look l := by
  unfold weather
  split_ifs
  · dsimp only
    rw [x.throttle_look _ _ _ h₂ fun s => ?_, x.throttle_look _ _ _ h₁ fun s => ?_]
    · rw [Pass.raise_look, Pass.writeFirst_look s _ _ h₃]
    · rw [Pass.raise_look, Pass.writeFirst_look _ _ _ h₅, Pass.writeFirst_look s _ _ h₄]
  all_goals rfl

theorem groundSpeed_look (h₁ : l ≠ .field .gs) (h₂ : l ≠ .entry .gndSpeed) :
    (x.groundSpeed s).look l = s.look l := by
  unfold groundSpeed
  split
  · refine x.throttleOrForce_look s _ _ h₁ fun s => ?_
    split
    · rw [Pass.raise_look, Pass.write_look s _ _ h₂]
    · rfl
  · rfl

theorem verticalRate_look (h₁ : l ≠ .field .geomRate) (h₂ : l ≠ .field .baroRate) (h₃ : l ≠ .entry .vertRate) :
    (x.verticalRate cfg s).look l = s.look l := by
  have hrate : ∀ rate s, (vertRate rate s).look l = s.look l := by
    intro rate s
    rw [vertRate, Pass.raise_look, Pass.write_look s _ _ h₃]
  unfold verticalRate
  split_ifs
  · exact x.throttleOrForce_look s _ _ h₁ (hrate _)
  · rfl
  · exact x.throttleOrForce_look s _ _ h₂ (hrate _)
  all_goals rfl

theorem squawk_look (h₁ : l ≠ .field .squawk) (h₂ : l ≠ .entry .squawk) : (x.squawk s).look l = s.look l := by
  unfold squawk
  dsimp only
  split_ifs
  · rw [Pass.raise_look, Pass.write_look _ _ _ h₂, Pass.record_look s x _ _ h₁]
  all_goals rfl

theorem indicatedAirSpeed_look (h₁ : l ≠ .field .ias) (h₂ : l ≠ .entry .ias) :
    (x.indicatedAirSpeed s).look l = s.look l := by
  unfold indicatedAirSpeed
  split
  · refine x.throttle_look s _ _ h₁ fun s => ?_
    rw [Pass.raise_look, Pass.write_look s _ _ h₂]
  · rfl

theorem mlat_look (h : l ≠ .mlat) : (x.mlat s).look l = s.look l := by
  unfold mlat
  split
  · cases l with
    | mlat => exact absurd rfl h
    | _ => rfl
  · rfl

theorem navModes_look (h₁ : l ≠ .field .navModes) (h₂ : l ≠ .modes) : (x.navModes s).look l = s.look l := by
  unfold navModes
  split
  · refine x.throttle_look s _ _ h₁ fun s => ?_
    cases l with
    | modes => exact absurd rfl h₂
    | _ => rfl
  · rfl

theorem navAltitudeFms_look (h₁ : l ≠ .field .navAltitudeFms) (h₂ : l ≠ .entry .navAltitudeFms) :
    (x.navAltitudeFms s).look l = s.look l := by
  unfold navAltitudeFms
  dsimp only
  split_ifs
  · exact x.throttle_look s _ _ h₁ fun s => Pass.writeFirst_look s _ _ h₂
  all_goals rfl

theorem navAltitudeMcp_look (h₁ : l ≠ .field .navAltitudeMcp) (h₂ : l ≠ .entry .navAltitudeMcp) :
    (x.navAltitudeMcp s).look l = s.look l := by
  unfold navAltitudeMcp
  dsimp only
  split_ifs
  · exact x.throttle_look s _ _ h₁ fun s => Pass.writeFirst_look s _ _ h₂
  all_goals rfl

theorem navAltitudeSrc_look (h : l ≠ .entry .extraFlags) : (x.navAltitudeSrc s).look l = s.look l := by
  have hflags : ∀ (source : Tracker.NavAltitudeSource) (flags : BitVec 32),
      ((s.amend fun p => { p with navAltitudeSrc := source }).writeFirst .extraFlags flags).look l = s.look l := by
    intro source flags
    rw [Pass.writeFirst_look _ _ _ h]
    cases l <;> rfl
  unfold navAltitudeSrc
  split
  · dsimp only
    split
    · exact hflags _ _
    · exact hflags _ _
    · exact hflags _ _
    · rfl
  · rfl

theorem navQnh_look (h₁ : l ≠ .field .navQnh) (h₂ : l ≠ .entry .navQnh) : (x.navQnh s).look l = s.look l := by
  unfold navQnh
  split
  · exact x.throttle_look s _ _ h₁ fun s => Pass.writeFirst_look s _ _ h₂
  · rfl

theorem navHeading_look (h : l ≠ .entry .navHeading) : (x.navHeading s).look l = s.look l := by
  unfold navHeading
  dsimp only
  split_ifs
  · exact Pass.writeFirst_look s _ _ h
  all_goals rfl

theorem nicBaro_look (h₁ : l ≠ .field .nicBaro) (h₂ : l ≠ .entry .nicBaro) : (x.nicBaro s).look l = s.look l := by
  unfold nicBaro
  split
  · refine x.throttleOrForce_look s _ _ h₁ fun s => ?_
    rw [Pass.raise_look, Pass.writeFirst_look s _ _ h₂]
  · rfl

theorem nacP_look (h₁ : l ≠ .field .nacP) (h₂ : l ≠ .entry .nacP) : (x.nacP s).look l = s.look l := by
  unfold nacP
  split
  · refine x.throttleOrForce_look s _ _ h₁ fun s => ?_
    rw [Pass.raise_look, Pass.writeFirst_look s _ _ h₂]
  · rfl

theorem nacV_look (h₁ : l ≠ .field .nacV) (h₂ : l ≠ .entry .nacV) : (x.nacV s).look l = s.look l := by
  unfold nacV
  split
  · refine x.throttleOrForce_look s _ _ h₁ fun s => ?_
    rw [Pass.raise_look, Pass.writeFirst_look s _ _ h₂]
  · rfl

theorem sil_look (h₁ : l ≠ .field .sil) (h₂ : l ≠ .entry .sil) (h₃ : l ≠ .entry .silType) :
    (x.sil s).look l = s.look l := by
  unfold sil
  split
  · refine x.throttleOrForce_look s _ _ h₁ fun s => ?_
    rw [Pass.raise_look, Pass.writeFirst_look _ _ _ h₃, Pass.writeFirst_look s _ _ h₂]
  · rfl

end Turn
/-! ### The blocks -/

inductive Block
  | address
  | timestamp
  | callsign
  | altitude
  | position
  | heading
  | trueAirSpeed
  | weather
  | groundSpeed
  | verticalRate
  | squawk
  | indicatedAirSpeed
  | mlat
  | navModes
  | navAltitudeFms
  | navAltitudeMcp
  | navAltitudeSrc
  | navQnh
  | navHeading
  | nicBaro
  | nacP
  | nacV
  | sil
deriving DecidableEq

namespace Block

def run (x : Turn) (cfg : Config) : Block → Pass → Pass
  | address => x.address cfg
  | timestamp => x.timestamp
  | callsign => x.callsign cfg
  | altitude => x.altitude cfg
  | position => x.position cfg
  | heading => x.heading cfg
  | trueAirSpeed => x.trueAirSpeed cfg
  | weather => x.weather cfg
  | groundSpeed => x.groundSpeed
  | verticalRate => x.verticalRate cfg
  | squawk => x.squawk
  | indicatedAirSpeed => x.indicatedAirSpeed
  | mlat => x.mlat
  | navModes => x.navModes
  | navAltitudeFms => x.navAltitudeFms
  | navAltitudeMcp => x.navAltitudeMcp
  | navAltitudeSrc => x.navAltitudeSrc
  | navQnh => x.navQnh
  | navHeading => x.navHeading
  | nicBaro => x.nicBaro
  | nacP => x.nacP
  | nacV => x.nacV
  | sil => x.sil

/-- The footprint of a block. -/
def touches : Block → List Location
  | address => [.entry .modesAddr, .item .i080]
  | timestamp => []
  | callsign => [.field .callsign, .entry .callsign, .item .i170]
  | altitude =>
    [.field .altitudeGeom, .field .altitudeBaro, .field .airborne, .entry .altitudeGeo, .entry .altitude,
      .entry .airborne, .item .i140, .item .i145]
  | position => [.field .posNic, .entry .position, .entry .posNic, .item .i131]
  | heading => [.field .magHeading, .entry .heading, .item .i152]
  | trueAirSpeed => [.item .i151]
  | weather => [.field .temperature, .field .wind, .entry .temperature, .entry .windDir, .entry .windSpeed]
  | groundSpeed => [.field .gs, .entry .gndSpeed]
  | verticalRate => [.field .geomRate, .field .baroRate, .entry .vertRate]
  | squawk => [.field .squawk, .entry .squawk]
  | indicatedAirSpeed => [.field .ias, .entry .ias]
  | mlat => [.mlat]
  | navModes => [.field .navModes, .modes]
  | navAltitudeFms => [.field .navAltitudeFms, .entry .navAltitudeFms]
  | navAltitudeMcp => [.field .navAltitudeMcp, .entry .navAltitudeMcp]
  | navAltitudeSrc => [.entry .extraFlags]
  | navQnh => [.field .navQnh, .entry .navQnh]
  | navHeading => [.entry .navHeading]
  | nicBaro => [.field .nicBaro, .entry .nicBaro]
  | nacP => [.field .nacP, .entry .nacP]
  | nacV => [.field .nacV, .entry .nacV]
  | sil => [.field .sil, .entry .sil, .entry .silType]

/-- The blocks in their order, up to the weather and from there on. -/
def early : List Block := [address, timestamp, callsign, altitude, position, heading, trueAirSpeed]

def late : List Block :=
  [groundSpeed, verticalRate, squawk, indicatedAirSpeed, mlat, navModes, navAltitudeFms, navAltitudeMcp,
    navAltitudeSrc, navQnh, navHeading, nicBaro, nacP, nacV, sil]

def all : List Block := early ++ weather :: late

theorem touches_disjoint : all.Pairwise fun b c => ∀ l ∈ b.touches, l ∉ c.touches := by decide

theorem mem_all (b : Block) : b ∈ all := by cases b <;> decide

theorem run_local (x : Turn) (cfg : Config) : Footprint.Local (run x cfg) Pass.look touches := by
  intro b s l hl
  cases b <;> simp only [touches, List.mem_cons, List.not_mem_nil, or_false, not_or] at hl
  case address => exact x.address_look cfg s hl.1 hl.2
  case timestamp => exact x.timestamp_look s
  case callsign => exact x.callsign_look cfg s hl.1 hl.2.1 hl.2.2
  case altitude =>
    obtain ⟨h₁, h₂, h₃, h₄, h₅, h₆, h₇, h₈⟩ := hl
    exact x.altitude_look cfg s h₁ h₂ h₃ h₄ h₅ h₆ h₇ h₈
  case position => exact x.position_look cfg s hl.1 hl.2.1 hl.2.2.1 hl.2.2.2
  case heading => exact x.heading_look cfg s hl.1 hl.2.1 hl.2.2
  case trueAirSpeed => exact x.trueAirSpeed_look cfg s hl
  case weather => exact x.weather_look cfg s hl.1 hl.2.1 hl.2.2.1 hl.2.2.2.1 hl.2.2.2.2
  case groundSpeed => exact x.groundSpeed_look s hl.1 hl.2
  case verticalRate => exact x.verticalRate_look cfg s hl.1 hl.2.1 hl.2.2
  case squawk => exact x.squawk_look s hl.1 hl.2
  case indicatedAirSpeed => exact x.indicatedAirSpeed_look s hl.1 hl.2
  case mlat => exact x.mlat_look s hl
  case navModes => exact x.navModes_look s hl.1 hl.2
  case navAltitudeFms => exact x.navAltitudeFms_look s hl.1 hl.2
  case navAltitudeMcp => exact x.navAltitudeMcp_look s hl.1 hl.2
  case navAltitudeSrc => exact x.navAltitudeSrc_look s hl
  case navQnh => exact x.navQnh_look s hl.1 hl.2
  case navHeading => exact x.navHeading_look s hl
  case nicBaro => exact x.nicBaro_look s hl.1 hl.2
  case nacP => exact x.nacP_look s hl.1 hl.2
  case nacV => exact x.nacV_look s hl.1 hl.2
  case sil => exact x.sil_look s hl.1 hl.2.1 hl.2.2

end Block

end RbFeeder.Airnav
