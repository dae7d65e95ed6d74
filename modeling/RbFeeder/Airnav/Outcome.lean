import RbFeeder.Airnav.Emits

/-! What the pass over one aircraft leaves behind.

The pass is a sequence of blocks whose footprints are disjoint (`touches_disjoint`), so what
it leaves at a location is what the block of this location makes of the inputs.
**Main theorems:** `prepareAircraft_an`, `prepareAircraft_slots`, `prepareAircraft_send`. -/
namespace RbFeeder.Airnav
open ModeS (Byte)
open Tracker (Aircraft Datum NavModes)
open Throttle (Last)
open scoped Classical

/-- The fields that the throttle of a field depends on. -/
def Field.needs : Field → List Field
  | airborne => [airborne, altitudeGeom, altitudeBaro]
  | temperature => [temperature, altitudeBaro, magHeading]
  | wind => [wind, altitudeBaro, magHeading]
  | f => [f]

theorem Slot.ite_set {α : Type} {c : Prop} [Decidable c] {v w : α} :
    (if c then (⟨1, v⟩ : Slot α) else ⟨0, w⟩).set = 1 ↔ c := by
  split <;> simp [*]

namespace Turn
variable (x : Turn) (cfg : Config) (an : Emitted)

/-- The pass before its first block. -/
def start : Pass :=
  { an := an
    acf := netPreparePacketV2 x.heap
    acf2 := netPreparePacketV2 x.heap2
    calls := sourceCalls cfg
    send := false }

theorem prepareAircraft_eq :
    x.prepareAircraft cfg an = Footprint.runAll (Block.run x cfg) Block.all (x.start cfg an) := rfl

/-- The pass at the turn of a block. -/
theorem turn (b : Block) : ∃ s, (∀ l ∈ b.touches, s.look l = (x.start cfg an).look l) ∧
    ∀ l ∈ b.touches, (x.prepareAircraft cfg an).look l = (b.run x cfg s).look l := by
  obtain ⟨before, after, hblocks⟩ := List.append_of_mem b.mem_all
  have hturn := fun l => Footprint.runAll_turn (l := l) (Block.run_local x cfg) Block.touches_disjoint hblocks
    (x.start cfg an)
  exact ⟨_, fun l hl => (hturn l hl).1, fun l hl => (hturn l hl).2⟩

variable {x cfg an} in
/-- Whether a field is let through depends on what was sent last of a few fields. -/
theorem opens_congr {an' : Emitted} {f : Field} (h : ∀ g ∈ f.needs, an' g = an g) :
    x.Opens cfg an' f ↔ x.Opens cfg an f := by
  cases f <;> simp only [Field.needs, List.mem_cons, List.not_mem_nil, or_false, forall_eq_or_imp, forall_eq] at h <;>
    simp only [Opens, Offers, OffersWeather, h]

/-- What is left of a field and of the values that it marks. -/
def Final (f : Field) (marks : List (Σ k : Entry, k.Value)) : Prop :=
  (x.prepareAircraft cfg an).an f = (if x.Opens cfg an f then ⟨x.tracked cfg f, x.tvSec⟩ else an f) ∧
    ∀ mark ∈ marks, (x.prepareAircraft cfg an).acf.slots mark.1 =
      if x.Opens cfg an f then ⟨1, mark.2⟩ else (netPreparePacketV2 x.heap).slots mark.1

variable {x cfg an} in
theorem Throttles.final {b : Block} {f : Field} {marks : List (Σ k : Entry, k.Value)}
    (h : Throttles x (b.run x cfg) f (x.tracked cfg f) (fun s => x.Opens cfg s.an f) marks)
    (hneeds : ∀ g ∈ f :: f.needs, .field g ∈ b.touches) (hmarks : ∀ mark ∈ marks, .entry mark.1 ∈ b.touches) :
    x.Final cfg an f marks := by
  obtain ⟨s, hbefore, hafter⟩ := x.turn cfg an b
  have hopen : x.Opens cfg s.an f ↔ x.Opens cfg an f :=
    opens_congr fun g hg => hbefore _ (hneeds g (List.mem_cons_of_mem f hg))
  have hf := hneeds f List.mem_cons_self
  refine ⟨(hafter _ hf).trans ?_, fun mark hmark => (congrArg Prod.fst (hafter _ (hmarks mark hmark))).trans ?_⟩
  · rw [h.field, hbefore _ hf]
    exact if_congr hopen rfl rfl
  · rw [h.entry s mark hmark, hbefore _ (hmarks mark hmark)]
    exact if_congr hopen rfl rfl

/-! ### Field by field -/

theorem final_callsign : x.Final cfg an .callsign [⟨.callsign, x.value .callsign⟩] :=
  (x.callsign_emits cfg).final (b := .callsign) (by decide) (by simp [Block.touches])

theorem final_airborne : x.Final cfg an .airborne [⟨.airborne, x.tracked cfg .airborne⟩] :=
  (x.altitude_throttlesAirborne cfg).final (b := .altitude) (by decide) (by simp [Block.touches])

theorem final_altitudeGeom : x.Final cfg an .altitudeGeom [⟨.altitudeGeo, BitVec.ofInt 32 (x.value .altitudeGeom)⟩] :=
  (x.altitude_throttlesGeom cfg).final (b := .altitude) (by decide) (by simp [Block.touches])

theorem final_altitudeBaro : x.Final cfg an .altitudeBaro [⟨.altitude, BitVec.ofInt 32 (x.value .altitudeBaro)⟩] :=
  (x.altitude_throttlesBaro cfg).final (b := .altitude) (by decide) (by simp [Block.touches])

theorem final_posNic : x.Final cfg an .posNic
    [⟨.posNic, BitVec.ofNat 32 (x.value .position : Tracker.Position).nic⟩] :=
  (x.position_throttles cfg).final (b := .position) (by decide) (by simp [Block.touches])

theorem final_magHeading : x.Final cfg an .magHeading
    (if x.Valid .magHeading then [⟨.heading, Asterix.toInt 16 ((x.value .magHeading : ℚ) / 10)⟩] else []) :=
  (x.heading_emits cfg).final (b := .heading) (by decide) (by split <;> simp [Block.touches])

theorem final_gs : x.Final cfg an .gs
    (if x.Valid .gs then [⟨.gndSpeed, Asterix.toInt 16 ((x.value .gs : ℚ) / 10)⟩] else []) :=
  (x.groundSpeed_emits cfg).final (b := .groundSpeed) (by decide) (by split <;> simp [Block.touches])

theorem final_geomRate : x.Final cfg an .geomRate
    (if cfg.useGnss ∧ x.Valid .geomRate
      then [⟨.vertRate, BitVec.ofInt 16 ((x.value .geomRate : Int).tdiv 10)⟩] else []) := by
  split
  case isTrue h =>
    exact (x.verticalRate_geom cfg h).final (b := .verticalRate) (by decide) (by simp [Block.touches])
  case isFalse h =>
    exact (x.verticalRate_geom_not cfg h).final (b := .verticalRate) (by decide) (by simp)

theorem final_baroRate : x.Final cfg an .baroRate
    (if cfg.useGnss ∧ x.Valid .geomRate then []
      else [⟨.vertRate, BitVec.ofInt 16 ((x.value .baroRate : Int).tdiv 10)⟩]) := by
  split
  case isTrue h =>
    exact (x.verticalRate_baro_not cfg h).final (b := .verticalRate) (by decide) (by simp)
  case isFalse h =>
    exact (x.verticalRate_baro cfg h).final (b := .verticalRate) (by decide) (by simp [Block.touches])

theorem final_squawk : x.Final cfg an .squawk [⟨.squawk, BitVec.ofNat 16 (x.value .squawk)⟩] :=
  (x.squawk_emits cfg).final (b := .squawk) (by decide) (by simp [Block.touches])

theorem final_ias : x.Final cfg an .ias [⟨.ias, BitVec.ofNat 16 ((x.value .ias : Nat) / 10)⟩] :=
  (x.indicatedAirSpeed_emits cfg).final (b := .indicatedAirSpeed) (by decide) (by simp [Block.touches])

theorem final_navModes : x.Final cfg an .navModes [] :=
  (x.navModes_emits cfg).final (b := .navModes) (by decide) (by simp)

theorem final_navAltitudeFms : x.Final cfg an .navAltitudeFms
    [⟨.navAltitudeFms, BitVec.ofNat 32 (x.value .navAltitudeFms)⟩] :=
  (x.navAltitudeFms_emits cfg).final (b := .navAltitudeFms) (by decide) (by simp [Block.touches])

theorem final_navAltitudeMcp : x.Final cfg an .navAltitudeMcp
    [⟨.navAltitudeMcp, BitVec.ofNat 32 (x.value .navAltitudeMcp)⟩] :=
  (x.navAltitudeMcp_emits cfg).final (b := .navAltitudeMcp) (by decide) (by simp [Block.touches])

theorem final_navQnh : x.Final cfg an .navQnh [⟨.navQnh, Asterix.toInt 32 (x.value .navQnh)⟩] :=
  (x.navQnh_emits cfg).final (b := .navQnh) (by decide) (by simp [Block.touches])

theorem final_nicBaro : x.Final cfg an .nicBaro [⟨.nicBaro, BitVec.ofNat 8 (x.value .nicBaro)⟩] :=
  (x.nicBaro_emits cfg).final (b := .nicBaro) (by decide) (by simp [Block.touches])

theorem final_nacP : x.Final cfg an .nacP [⟨.nacP, BitVec.ofNat 32 (x.value .nacP)⟩] :=
  (x.nacP_emits cfg).final (b := .nacP) (by decide) (by simp [Block.touches])

theorem final_nacV : x.Final cfg an .nacV [⟨.nacV, BitVec.ofNat 32 (x.value .nacV)⟩] :=
  (x.nacV_emits cfg).final (b := .nacV) (by decide) (by simp [Block.touches])

theorem final_sil : x.Final cfg an .sil
    [⟨.silType, (x.value .sil : Tracker.Sil).type⟩, ⟨.sil, BitVec.ofNat 32 (x.value .sil : Tracker.Sil).sil⟩] :=
  (x.sil_emits cfg).final (b := .sil) (by decide) (by simp [Block.touches])

theorem final_position : (x.prepareAircraft cfg an).acf.slots .position =
    if x.OffersPosition then
      ⟨1, ((x.value .position : Tracker.Position).lat, (x.value .position : Tracker.Position).lon)⟩
    else ⟨0, (0, 0)⟩ := by
  obtain ⟨s, hbefore, hafter⟩ := x.turn cfg an .position
  have hmem : .entry .position ∈ Block.touches .position := by decide
  refine (congrArg Prod.fst (hafter _ hmem)).trans ((x.position_entry cfg s).trans ?_)
  rw [hbefore _ hmem]
  rfl

/-- The heading is in the packet if it is let through and valid. -/
theorem final_heading : (x.prepareAircraft cfg an).acf.slots .heading =
    if x.Opens cfg an .magHeading ∧ x.Valid .magHeading then ⟨1, Asterix.toInt 16 ((x.value .magHeading : ℚ) / 10)⟩
    else ⟨0, 0⟩ := by
  by_cases hvalid : x.Valid .magHeading
  · have hmark := (x.final_magHeading cfg an).2
    rw [if_pos hvalid] at hmark
    rw [hmark _ (List.mem_singleton_self _)]
    simp only [hvalid, and_true]
    rfl
  · obtain ⟨s, hbefore, hafter⟩ := x.turn cfg an .heading
    have hmem : .entry .heading ∈ Block.touches .heading := by decide
    rw [if_neg fun h => hvalid h.2]
    exact congrArg Prod.fst ((hafter _ hmem).trans ((x.heading_entry cfg hvalid s).trans (hbefore _ hmem)))

theorem final_gndSpeed : (x.prepareAircraft cfg an).acf.slots .gndSpeed =
    if x.Opens cfg an .gs ∧ x.Valid .gs then ⟨1, Asterix.toInt 16 ((x.value .gs : ℚ) / 10)⟩ else ⟨0, 0⟩ := by
  by_cases hvalid : x.Valid .gs
  · have hmark := (x.final_gs cfg an).2
    rw [if_pos hvalid] at hmark
    rw [hmark _ (List.mem_singleton_self _)]
    simp only [hvalid, and_true]
    rfl
  · obtain ⟨s, hbefore, hafter⟩ := x.turn cfg an .groundSpeed
    have hmem : .entry .gndSpeed ∈ Block.touches .groundSpeed := by decide
    rw [if_neg fun h => hvalid h.2]
    exact congrArg Prod.fst ((hafter _ hmem).trans ((x.groundSpeed_entry hvalid s).trans (hbefore _ hmem)))

/-- A rate is in the packet if one is let through: the geometric one, if it is valid and used. -/
theorem final_vertRate : (x.prepareAircraft cfg an).acf.slots .vertRate =
    if cfg.useGnss ∧ x.Valid .geomRate then
      if x.Opens cfg an .geomRate then ⟨1, BitVec.ofInt 16 ((x.value .geomRate : Int).tdiv 10)⟩ else ⟨0, 0⟩
    else if x.Opens cfg an .baroRate then ⟨1, BitVec.ofInt 16 ((x.value .baroRate : Int).tdiv 10)⟩
    else ⟨0, 0⟩ := by
  by_cases hgeom : cfg.useGnss ∧ x.Valid .geomRate
  · have hmark := (x.final_geomRate cfg an).2
    rw [if_pos hgeom] at hmark
    rw [if_pos hgeom]
    exact hmark _ (List.mem_singleton_self _)
  · have hmark := (x.final_baroRate cfg an).2
    rw [if_neg hgeom] at hmark
    rw [if_neg hgeom]
    exact hmark _ (List.mem_singleton_self _)

/-! ### The weather -/

/-- The pass when the weather is calculated. -/
def atWeather : Pass := Footprint.runAll (Block.run x cfg) Block.early (x.start cfg an)

/-- Nothing is done to the altitude, the position and the heading any more. -/
theorem atWeather_slots {k : Entry} (hk : ∀ b ∈ Block.weather :: Block.late, .entry k ∉ b.touches) :
    (x.atWeather cfg an).acf.slots k = (x.prepareAircraft cfg an).acf.slots k :=
  congrArg Prod.fst (Footprint.runAll_look (Block.run_local x cfg) hk (x.atWeather cfg an)).symm

theorem atWeather_turn {l : Location} (hl : l ∈ Block.weather.touches) :
    (x.atWeather cfg an).look l = (x.start cfg an).look l ∧
      (x.prepareAircraft cfg an).look l = (x.weather cfg (x.atWeather cfg an)).look l :=
  Footprint.runAll_turn (Block.run_local x cfg) Block.touches_disjoint rfl (x.start cfg an) hl

theorem weatherIn_atWeather : x.WeatherIn (x.atWeather cfg an) ↔ x.OffersWeather cfg an := by
  have haltitude : (x.prepareAircraft cfg an).acf.slots .altitude =
      if x.Opens cfg an .altitudeBaro then ⟨1, BitVec.ofInt 32 (x.value .altitudeBaro)⟩ else ⟨0, 0⟩ :=
    (x.final_altitudeBaro cfg an).2 _ (List.mem_singleton_self _)
  unfold WeatherIn OffersWeather
  rw [x.atWeather_slots cfg an (by decide), x.atWeather_slots cfg an (by decide),
    x.atWeather_slots cfg an (by decide), haltitude, final_position, final_heading]
  simp only [Slot.ite_set]
  simp only [Opens, Offers, and_assoc]

/-- The wind belongs to the position in the packet. -/
theorem weather_atWeather (h : x.OffersWeather cfg an) : x.weather cfg (x.atWeather cfg an) =
    x.weatherWith cfg (x.tracked cfg .wind) (x.atWeather cfg an) := by
  have hin := (x.weatherIn_atWeather cfg an).mpr h
  rw [weather_eq, weatherWith, if_pos hin, if_pos hin, x.atWeather_slots cfg an (by decide), final_position,
    if_pos h.2.2.1]
  rfl

theorem weather_atWeather_not (h : ¬ x.OffersWeather cfg an) :
    x.weather cfg (x.atWeather cfg an) = x.atWeather cfg an := by
  rw [weather_eq, if_neg fun hin => h ((x.weatherIn_atWeather cfg an).mp hin)]

/-- What the weather lets through, given whether it lets it through at its turn. -/
theorem final_weather {f : Field} {marks : List (Σ k : Entry, k.Value)}
    (hthrottle : Throttles x (x.weatherWith cfg (x.tracked cfg .wind)) f (x.tracked cfg f)
      (fun s => x.WeatherIn s ∧ x.Free cfg f (s.an f)) marks)
    (hoffers : x.Offers cfg an f ↔ x.OffersWeather cfg an) (hf : .field f ∈ Block.weather.touches)
    (hmarks : ∀ mark ∈ marks, .entry mark.1 ∈ Block.weather.touches) : x.Final cfg an f marks := by
  have hturn := fun l => x.atWeather_turn (l := l) cfg an
  have hlast : (x.atWeather cfg an).an f = an f := (hturn _ hf).1
  have hopen : x.WeatherIn (x.atWeather cfg an) ∧ x.Free cfg f ((x.atWeather cfg an).an f) ↔
      x.Opens cfg an f := by
    rw [weatherIn_atWeather, hlast, ← hoffers, Opens]
  by_cases hoffered : x.OffersWeather cfg an
  · refine ⟨(hturn _ hf).2.trans ?_, fun mark hmark => (congrArg Prod.fst (hturn _ (hmarks mark hmark)).2).trans ?_⟩
    · rw [x.weather_atWeather cfg an hoffered, hthrottle.field, (hturn _ hf).1]
      simp only [hopen]
      rfl
    · rw [x.weather_atWeather cfg an hoffered, hthrottle.entry _ mark hmark, (hturn _ (hmarks mark hmark)).1]
      simp only [hopen]
      rfl
  · have hshut : ¬ x.Opens cfg an f := fun h => hoffered (hoffers.mp h.1)
    refine ⟨(hturn _ hf).2.trans ?_, fun mark hmark => (congrArg Prod.fst (hturn _ (hmarks mark hmark)).2).trans ?_⟩
    · rw [x.weather_atWeather_not cfg an hoffered, if_neg hshut]
      exact hlast
    · rw [x.weather_atWeather_not cfg an hoffered, if_neg hshut]
      exact congrArg Prod.fst (hturn _ (hmarks mark hmark)).1

theorem final_temperature : x.Final cfg an .temperature
    [⟨.temperature, (cfg.temperature x.aircraft).signExtend 32⟩] :=
  x.final_weather cfg an (x.weatherWith_temperature cfg _) Iff.rfl (by decide) (by simp [Block.touches])

theorem final_wind : x.Final cfg an .wind
    [⟨.windSpeed, (x.tracked cfg .wind).2⟩, ⟨.windDir, (x.tracked cfg .wind).1⟩] :=
  x.final_weather cfg an (x.weatherWith_wind cfg _) Iff.rfl (by decide) (by simp [Block.touches])

/-- **Main theorem.** What was sent last, after the pass. -/
theorem prepareAircraft_an (f : Field) : (x.prepareAircraft cfg an).an f =
    if x.Opens cfg an f then ⟨x.tracked cfg f, x.tvSec⟩ else an f := by
  cases f
  case callsign => exact (x.final_callsign cfg an).1
  case airborne => exact (x.final_airborne cfg an).1
  case altitudeGeom => exact (x.final_altitudeGeom cfg an).1
  case altitudeBaro => exact (x.final_altitudeBaro cfg an).1
  case posNic => exact (x.final_posNic cfg an).1
  case magHeading => exact (x.final_magHeading cfg an).1
  case temperature => exact (x.final_temperature cfg an).1
  case wind => exact (x.final_wind cfg an).1
  case gs => exact (x.final_gs cfg an).1
  case geomRate => exact (x.final_geomRate cfg an).1
  case baroRate => exact (x.final_baroRate cfg an).1
  case squawk => exact (x.final_squawk cfg an).1
  case ias => exact (x.final_ias cfg an).1
  case navModes => exact (x.final_navModes cfg an).1
  case navAltitudeFms => exact (x.final_navAltitudeFms cfg an).1
  case navAltitudeMcp => exact (x.final_navAltitudeMcp cfg an).1
  case navQnh => exact (x.final_navQnh cfg an).1
  case nicBaro => exact (x.final_nicBaro cfg an).1
  case nacP => exact (x.final_nacP cfg an).1
  case nacV => exact (x.final_nacV cfg an).1
  case sil => exact (x.final_sil cfg an).1

/-! ### `send` -/

/-- The condition under which a block raises `send`. -/
def BlockRaises : Block → Prop
  | .altitude =>
    x.Opens cfg an .airborne ∧ x.OnGround ∨ x.Opens cfg an .altitudeGeom ∨ x.Opens cfg an .altitudeBaro
  | .position => x.OffersPosition
  | .heading => x.Opens cfg an .magHeading ∧ x.Valid .magHeading
  | .weather => x.Opens cfg an .temperature ∨ x.Opens cfg an .wind
  | .groundSpeed => x.Opens cfg an .gs ∧ x.Valid .gs
  | .verticalRate => x.Opens cfg an .geomRate ∨ x.Opens cfg an .baroRate
  | .squawk => x.Opens cfg an .squawk
  | .indicatedAirSpeed => x.Opens cfg an .ias
  | .nicBaro => x.Opens cfg an .nicBaro
  | .nacP => x.Opens cfg an .nacP
  | .nacV => x.Opens cfg an .nacV
  | .sil => x.Opens cfg an .sil
  | _ => False

/-- Blocks that do nothing to `send`. -/
theorem silent_sending {b : Block} (hb : b ∈ [Block.address, .timestamp, .trueAirSpeed, .mlat, .navAltitudeSrc,
    .navHeading]) (s : Pass) : (b.run x cfg s).send = s.send := by
  simp only [List.mem_cons, List.not_mem_nil, or_false] at hb
  obtain rfl | rfl | rfl | rfl | rfl | rfl := hb
  · simp only [Block.run, address]
    split
    · rfl
    · exact asterix_send ..
  · rfl
  · simp only [Block.run, trueAirSpeed]
    split_ifs
    · exact asterix_send ..
    all_goals rfl
  · simp only [Block.run, mlat]
    split <;> rfl
  · simp only [Block.run, navAltitudeSrc]
    split
    · split <;> rfl
    · rfl
  · simp only [Block.run, navHeading]
    split_ifs <;> rfl

variable {x cfg an} in
theorem Emits.raises {b : Block} {f : Field} {value : f.Value} {Raise : Prop}
    {marks : List (Σ k : Entry, k.Value)}
    (h : Emits x (b.run x cfg) f value (fun s => x.Opens cfg s.an f) marks Raise) {s : Pass}
    (hs : ∀ l ∈ b.touches, s.look l = (x.start cfg an).look l) (hneeds : ∀ g ∈ f.needs, .field g ∈ b.touches) :
    (b.run x cfg s).send = true ↔ s.send = true ∨ x.Opens cfg an f ∧ Raise := by
  have hopen : x.Opens cfg s.an f ↔ x.Opens cfg an f := opens_congr fun g hg => hs _ (hneeds g hg)
  refine (h.send s).trans ?_
  simp only [hopen]

theorem block_sending {b : Block} (hb : b ≠ .weather) {s : Pass}
    (hs : ∀ l ∈ b.touches, s.look l = (x.start cfg an).look l) :
    (b.run x cfg s).send = true ↔ s.send = true ∨ x.BlockRaises cfg an b := by
  cases b
  case address | timestamp | trueAirSpeed | mlat | navAltitudeSrc | navHeading =>
    rw [silent_sending x cfg (by decide)]
    exact (or_false _).symm.to_iff
  case callsign => simpa only [and_false, BlockRaises] using (x.callsign_emits cfg).raises hs (by decide)
  case altitude =>
    have hopen : ∀ f, (∀ g ∈ f.needs, .field g ∈ Block.altitude.touches) →
        (x.Opens cfg s.an f ↔ x.Opens cfg an f) := fun f hf => opens_congr fun g hg => hs _ (hf g hg)
    refine (x.altitude_sending cfg s).trans ?_
    simp only [BlockRaises, hopen .airborne (by decide), hopen .altitudeGeom (by decide),
      hopen .altitudeBaro (by decide)]
  case position => exact x.position_sending cfg s
  case heading => simpa only [and_true, BlockRaises] using (x.heading_emits cfg).raises (b := .heading) hs (by decide)
  case weather => exact absurd rfl hb
  case groundSpeed => simpa only [and_true, BlockRaises] using (x.groundSpeed_emits cfg).raises (b := .groundSpeed) hs (by decide)
  case verticalRate =>
    by_cases h : cfg.useGnss ∧ x.Valid .geomRate
    · have hbaro : ¬ x.Opens cfg an .baroRate := fun hopen => hopen.1.1 h
      simpa only [and_true, BlockRaises, hbaro, or_false] using
        (x.verticalRate_geom cfg h).raises (b := .verticalRate) hs (by decide)
    · have hgeom : ¬ x.Opens cfg an .geomRate := fun hopen => h hopen.1.1
      simpa only [and_true, BlockRaises, hgeom, false_or] using
        (x.verticalRate_baro cfg h).raises (b := .verticalRate) hs (by decide)
  case squawk => simpa only [and_true, BlockRaises] using (x.squawk_emits cfg).raises (b := .squawk) hs (by decide)
  case indicatedAirSpeed =>
    simpa only [and_true, BlockRaises] using (x.indicatedAirSpeed_emits cfg).raises (b := .indicatedAirSpeed) hs (by decide)
  case navModes => simpa only [and_false, BlockRaises] using (x.navModes_emits cfg).raises (b := .navModes) hs (by decide)
  case navAltitudeFms =>
    simpa only [and_false, BlockRaises] using (x.navAltitudeFms_emits cfg).raises (b := .navAltitudeFms) hs (by decide)
  case navAltitudeMcp =>
    simpa only [and_false, BlockRaises] using (x.navAltitudeMcp_emits cfg).raises (b := .navAltitudeMcp) hs (by decide)
  case navQnh => simpa only [and_false, BlockRaises] using (x.navQnh_emits cfg).raises (b := .navQnh) hs (by decide)
  case nicBaro => simpa only [and_true, BlockRaises] using (x.nicBaro_emits cfg).raises (b := .nicBaro) hs (by decide)
  case nacP => simpa only [and_true, BlockRaises] using (x.nacP_emits cfg).raises (b := .nacP) hs (by decide)
  case nacV => simpa only [and_true, BlockRaises] using (x.nacV_emits cfg).raises (b := .nacV) hs (by decide)
  case sil => simpa only [and_true, BlockRaises] using (x.sil_emits cfg).raises (b := .sil) hs (by decide)

theorem weather_sends : (x.weather cfg (x.atWeather cfg an)).send = true ↔
    (x.atWeather cfg an).send = true ∨ x.BlockRaises cfg an .weather := by
  by_cases hoffered : x.OffersWeather cfg an
  · have htemperature : (x.atWeather cfg an).an .temperature = an .temperature :=
      (x.atWeather_turn (l := .field .temperature) cfg an (by decide)).1
    have hwind : (x.atWeather cfg an).an .wind = an .wind :=
      (x.atWeather_turn (l := .field .wind) cfg an (by decide)).1
    rw [x.weather_atWeather cfg an hoffered]
    refine (x.weatherWith_sending cfg _ _).trans ?_
    simp only [htemperature, hwind, weatherIn_atWeather, hoffered, true_and, BlockRaises, Opens, Offers]
    rfl
  · rw [x.weather_atWeather_not cfg an hoffered]
    simp only [BlockRaises, Opens, Offers, hoffered, false_and, or_self, or_false]

theorem sends_iff : x.Sends cfg an ↔ ∃ b ∈ Block.all, x.BlockRaises cfg an b := by
  constructor
  · intro h
    obtain hposition | ⟨f, hopen, hraise⟩ := h
    · exact ⟨.position, by decide, hposition⟩
    · cases f <;> simp only [Raises] at hraise
      case airborne => exact ⟨.altitude, by decide, .inl ⟨hopen, hraise⟩⟩
      case altitudeGeom => exact ⟨.altitude, by decide, .inr (.inl hopen)⟩
      case altitudeBaro => exact ⟨.altitude, by decide, .inr (.inr hopen)⟩
      case magHeading => exact ⟨.heading, by decide, hopen, hraise⟩
      case temperature => exact ⟨.weather, by decide, .inl hopen⟩
      case wind => exact ⟨.weather, by decide, .inr hopen⟩
      case gs => exact ⟨.groundSpeed, by decide, hopen, hraise⟩
      case geomRate => exact ⟨.verticalRate, by decide, .inl hopen⟩
      case baroRate => exact ⟨.verticalRate, by decide, .inr hopen⟩
      case squawk => exact ⟨.squawk, by decide, hopen⟩
      case ias => exact ⟨.indicatedAirSpeed, by decide, hopen⟩
      case nicBaro => exact ⟨.nicBaro, by decide, hopen⟩
      case nacP => exact ⟨.nacP, by decide, hopen⟩
      case nacV => exact ⟨.nacV, by decide, hopen⟩
      case sil => exact ⟨.sil, by decide, hopen⟩
  · intro h
    obtain ⟨b, -, hraise⟩ := h
    cases b <;> simp only [BlockRaises] at hraise
    case altitude =>
      obtain hair | hgeom | hbaro := hraise
      · exact .inr ⟨.airborne, hair⟩
      · exact .inr ⟨.altitudeGeom, hgeom, trivial⟩
      · exact .inr ⟨.altitudeBaro, hbaro, trivial⟩
    case position => exact .inl hraise
    case heading => exact .inr ⟨.magHeading, hraise⟩
    case weather =>
      obtain htemperature | hwind := hraise
      · exact .inr ⟨.temperature, htemperature, trivial⟩
      · exact .inr ⟨.wind, hwind, trivial⟩
    case groundSpeed => exact .inr ⟨.gs, hraise⟩
    case verticalRate =>
      obtain hgeom | hbaro := hraise
      · exact .inr ⟨.geomRate, hgeom, trivial⟩
      · exact .inr ⟨.baroRate, hbaro, trivial⟩
    case squawk => exact .inr ⟨.squawk, hraise, trivial⟩
    case indicatedAirSpeed => exact .inr ⟨.ias, hraise, trivial⟩
    case nicBaro => exact .inr ⟨.nicBaro, hraise, trivial⟩
    case nacP => exact .inr ⟨.nacP, hraise, trivial⟩
    case nacV => exact .inr ⟨.nacV, hraise, trivial⟩
    case sil => exact .inr ⟨.sil, hraise, trivial⟩

/-- **Main theorem.** When the packets are queued. -/
theorem prepareAircraft_send : (x.prepareAircraft cfg an).send = true ↔ x.Sends cfg an := by
  rw [prepareAircraft_eq, sends_iff]
  refine (Footprint.runAll_flag (fun s : Pass => s.send = true) (x.BlockRaises cfg an)
    fun before b after hblocks => ?_).trans ?_
  · by_cases hb : b = .weather
    · subst hb
      obtain rfl : before = Block.early :=
        ((List.append_cons_inj_of_notMem (by decide) (by decide)).mp (hblocks : Block.early ++ _ :: _ = _)).1.symm
      exact x.weather_sends cfg an
    · exact x.block_sending cfg an hb fun l hl =>
        (Footprint.runAll_turn (Block.run_local x cfg) Block.touches_disjoint hblocks (x.start cfg an) hl).1
  · exact or_iff_right Bool.false_ne_true

/-! ### The rest of the packet -/

/-- The modes that are on; the flag of the autopilot is always set. -/
theorem final_modes : (x.prepareAircraft cfg an).acf.navModes =
    if x.Opens cfg an .navModes then { (x.value .navModes : NavModes) with autopilot := true }
    else { autopilot := true } := by
  obtain ⟨s, hbefore, hafter⟩ := x.turn cfg an .navModes
  have hmodes : s.acf.navModes = { autopilot := true } := hbefore .modes (by decide)
  have hlast : s.an .navModes = an .navModes := hbefore (.field .navModes) (by decide)
  refine (hafter .modes (by decide)).trans ?_
  by_cases hopen : x.Opens cfg an .navModes
  · have hdue : (s.an .navModes).Due x.tvSec Field.navModes.maxTime (x.value .navModes) := hlast ▸ hopen.2
    have hrecent : x.Recent .navModes := hopen.1
    rw [if_pos hopen, Block.run, navModes, if_pos hrecent]
    dsimp only
    rw [throttle, if_pos hdue]
    simp [Pass.look, Pass.amend, Pass.record, hmodes]
  · rw [if_neg hopen, Block.run, navModes]
    split
    case isTrue hrecent =>
      have hdue : ¬ (s.an .navModes).Due x.tvSec Field.navModes.maxTime (x.value .navModes) :=
        fun hdue => hopen ⟨hrecent, hlast ▸ hdue⟩
      dsimp only
      rw [throttle, if_neg hdue]
      exact hmodes
    case isFalse => exact hmodes

theorem final_mlat : (x.prepareAircraft cfg an).look .mlat = (if x.isMlat then 1 else 0, 0) := by
  obtain ⟨s, hbefore, hafter⟩ := x.turn cfg an .mlat
  have hs : (s.acf.isMlat, s.acf.is978) = (0, 0) := hbefore .mlat (by decide)
  rw [hafter .mlat (by decide), Block.run, mlat]
  split
  · exact congrArg (1, ·) (congrArg Prod.snd hs)
  · exact hs

/-- The address is in both packets, unless it is not an ICAO address. -/
theorem final_modesAddr : (x.prepareAircraft cfg an).look (.entry .modesAddr) =
    if x.NonIcao then (⟨0, 0⟩, ⟨0, 0⟩) else (⟨1, x.aircraft.addr⟩, ⟨1, x.aircraft.addr⟩) := by
  obtain ⟨s, hbefore, hafter⟩ := x.turn cfg an .address
  rw [hafter _ (by decide), Block.run, address]
  split
  · exact hbefore _ (by decide)
  · dsimp only
    rw [asterix_entry, Pass.write_entry]

/-! ### The ASTERIX items -/

theorem start_item {i : Asterix.ItemId} (h₁ : i ≠ .i010) (h₂ : i ≠ .i015) :
    (x.start cfg an).look (.item i) = [] := by
  simp only [Pass.look, start, sourceCalls, List.filter_eq_nil_iff, decide_eq_true_eq]
  intro c hc
  split at hc
  · split_ifs at hc <;> simp only [List.mem_cons, List.not_mem_nil, or_false] at hc
    · obtain rfl | rfl := hc
      · exact Ne.symm h₁
      · exact Ne.symm h₂
    · obtain rfl := hc
      exact Ne.symm h₁
  · exact absurd hc List.not_mem_nil

/-- The address in the ASTERIX packet. -/
def addressCall : Asterix.Call :=
  .setTargetAddress ((x.aircraft.addr >>> 16).setWidth 8) ((x.aircraft.addr >>> 8).setWidth 8)
    (x.aircraft.addr.setWidth 8)

variable {x cfg an} in
/-- An item that one block sets, under a condition. -/
theorem final_item {b : Block} {c : Asterix.Call} {i : Asterix.ItemId} {p : Prop} [Decidable p] (hb : .item i ∈ b.touches)
    (h₁ : i ≠ .i010) (h₂ : i ≠ .i015)
    (h : ∀ s, (b.run x cfg s).look (.item i) = s.look (.item i) ++ if p ∧ cfg.asterix.isSome then [c] else []) :
    (x.prepareAircraft cfg an).look (.item i) = if p ∧ cfg.asterix.isSome then [c] else [] := by
  obtain ⟨s, hbefore, hafter⟩ := x.turn cfg an b
  rw [hafter _ hb, h, hbefore _ hb, x.start_item cfg an h₁ h₂, List.nil_append]

variable {x cfg} in
/-- A call behind a guard, after something that leaves the item alone. -/
theorem guard_item {p : Prop} [Decidable p] {c : Asterix.Call} {i : Asterix.ItemId} {g : Pass → Pass}
    (hi : c.item = i) (s : Pass) (h : (g s).look (.item i) = s.look (.item i)) :
    (if p then asterix cfg c (g s) else s).look (.item i) =
      s.look (.item i) ++ if p ∧ cfg.asterix.isSome then [c] else [] := by
  subst hi
  by_cases hp : p
  · rw [if_pos hp, asterix_item, h]
    simp only [hp, true_and]
  · simp only [hp, if_false, false_and, List.append_nil]

theorem final_i080 : (x.prepareAircraft cfg an).look (.item .i080) =
    if ¬ x.NonIcao ∧ cfg.asterix.isSome then [x.addressCall] else [] := by
  refine final_item (b := .address) (i := .i080) (by decide) (by decide) (by decide) fun s => ?_
  rw [Block.run, address, ← ite_not]
  exact guard_item (g := (·.write .modesAddr x.aircraft.addr)) rfl s (s.write_look _ _ nofun)

theorem item_ne_field (i : Asterix.ItemId) (f : Field) : Location.item i ≠ .field f := Location.noConfusion

theorem item_ne_entry (i : Asterix.ItemId) (k : Entry) : Location.item i ≠ .entry k := Location.noConfusion

theorem final_i131 : (x.prepareAircraft cfg an).look (.item .i131) =
    if x.OffersPosition ∧ cfg.asterix.isSome then
      [.setPosWGS84Precision (x.value .position : Tracker.Position).lat (x.value .position : Tracker.Position).lon]
    else [] := by
  refine final_item (b := .position) (i := .i131) (by decide) (by decide) (by decide) fun s => ?_
  let point : Tracker.Position := x.value .position
  rw [Block.run, position, ← ite_and]
  refine guard_item (p := x.OffersPosition) (c := .setPosWGS84Precision point.lat point.lon)
    (g := fun s => positionSecond (point.lat, point.lon) (x.throttleOrForce .posNic point.nic
      (·.writeFirst .posNic (BitVec.ofNat 32 point.nic)) (s.writeFirst .position (point.lat, point.lon)))) rfl s ?_
  have hthrottle := x.throttleOrForce_look (l := .item .i131) (s.writeFirst .position (point.lat, point.lon))
    .posNic point.nic (item_ne_field _ _)
    fun s => s.writeFirst_look .posNic (BitVec.ofNat 32 point.nic) (item_ne_entry _ _)
  exact hthrottle.trans (s.writeFirst_look _ _ (item_ne_entry _ _))

theorem final_i152 : (x.prepareAircraft cfg an).look (.item .i152) =
    if x.Recent .magHeading ∧ cfg.asterix.isSome then [.setMagneticHeading (x.value .magHeading : ℚ)] else [] := by
  refine final_item (b := .heading) (i := .i152) (by decide) (by decide) (by decide) fun s => ?_
  refine guard_item (i := .i152) rfl s (x.throttle_look s _ _ nofun fun s => ?_)
  split
  · exact (Pass.raise_look _ _).trans (s.write_look _ _ nofun)
  · rfl

theorem final_i151 : (x.prepareAircraft cfg an).look (.item .i151) =
    if (x.Recent .tas ∧ x.Valid .tas) ∧ cfg.asterix.isSome then
      [.setTrueAirSpeed 0 (BitVec.ofNat 16 (x.value .tas : Nat))] else [] := by
  refine final_item (b := .trueAirSpeed) (i := .i151) (by decide) (by decide) (by decide) fun s => ?_
  rw [Block.run, trueAirSpeed, ← ite_and]
  exact guard_item (g := id) rfl s rfl

/-- What an altitude does to the packets does nothing to the items. -/
theorem climbTo_item {f : Field} (v : f.Value) (altitude : Int) {k : Entry} (w : k.Value)
    (i : Asterix.ItemId) (s : Pass) :
    (x.throttleOrForce f v (x.climbTo altitude k w) s).look (.item i) = s.look (.item i) := by
  refine x.throttleOrForce_look s _ _ (item_ne_field _ _) fun s => ?_
  rw [climbTo, Pass.raise_look]
  have hclimb := x.climb_look altitude s (item_ne_field i _) (item_ne_entry i _)
  exact (Pass.write_look _ k w (item_ne_entry i k)).trans hclimb

/-- On the ground no altitude is set. -/
theorem altitude_item_ground (h : x.OnGround) (i : Asterix.ItemId) (s : Pass) :
    (x.altitude cfg s).look (.item i) = s.look (.item i) := by
  rw [altitude_ground x cfg h]
  exact x.airborne_look s 0 nofun nofun fun s => s.raise_look _

theorem final_i140 : (x.prepareAircraft cfg an).look (.item .i140) =
    if x.OffersGeom cfg ∧ cfg.asterix.isSome then
      [.setGeometricHeight (BitVec.ofInt 16 ((x.value .altitudeGeom : Int).tdiv 100))] else [] := by
  refine final_item (b := .altitude) (i := .i140) (by decide) (by decide) (by decide) fun s => ?_
  by_cases hground : x.OnGround
  · have hoffers : ¬ x.OffersGeom cfg := fun h => h.1 hground
    refine (x.altitude_item_ground cfg hground _ s).trans ?_
    simp only [hoffers, false_and, if_false, List.append_nil]
  · have hbaro := x.altitudeBaro_look (l := .item .i140) cfg (x.altitudeGeom cfg s) nofun nofun nofun nofun nofun
    rw [Block.run, altitude_air x cfg hground, hbaro, altitudeGeom, ← ite_and]
    refine (guard_item (i := .i140) rfl s (x.climbTo_item _ _ _ _ s)).trans ?_
    simp only [OffersGeom, hground, not_false_eq_true, true_and]

theorem final_i145 : (x.prepareAircraft cfg an).look (.item .i145) =
    if x.OffersBaro ∧ cfg.asterix.isSome then
      [.setFlightLevel (BitVec.ofInt 32 ((x.value .altitudeBaro : Int).tdiv 100))] else [] := by
  refine final_item (b := .altitude) (i := .i145) (by decide) (by decide) (by decide) fun s => ?_
  by_cases hground : x.OnGround
  · have hoffers : ¬ x.OffersBaro := fun h => h.1 hground
    refine (x.altitude_item_ground cfg hground _ s).trans ?_
    simp only [hoffers, false_and, if_false, List.append_nil]
  · have hgeom := x.altitudeGeom_look (l := .item .i145) cfg s nofun nofun nofun nofun nofun
    rw [Block.run, altitude_air x cfg hground]
    dsimp only
    rw [altitudeBaro, ← ite_and]
    refine (guard_item (i := .i145) rfl (x.altitudeGeom cfg s) (x.climbTo_item _ _ _ _ _)).trans ?_
    rw [hgeom]
    simp only [OffersBaro, hground, not_false_eq_true, true_and]

end Turn
end RbFeeder.Airnav
