import RbFeeder.Airnav.Identity
import RbFeeder.Asterix.Values

/-! What the ASTERIX packets say of an aircraft.

**Main theorem:** `values_decode_iff`. The caller passes altitudes in hundreds of feet: that
is the flight level, but not the height. -/
namespace RbFeeder.Airnav
open ModeS (Byte)
open Asterix (ItemId)

namespace Turn
variable (x : Turn) (cfg : Config) (an : Emitted) (config : AsterixConfig)

/-- An item of the packet that is sent for the aircraft in this pass, if there is one, is
right. -/
def Shows (id : ItemId) (right : List Byte → Prop) : Prop :=
  ∀ packet ∈ (enqueue cfg {} (x.prepareAircraft cfg an)).sent, ∀ data,
    packet.item config.toc id = some data → right data

variable {x cfg an config} in
theorem shows_iff (hconfig : cfg.asterix = some config) (hspec : Asterix.LoadedSpec config.toc)
    {c : Asterix.Call} {id : ItemId} {p : Prop} [Decidable p] {right : List Byte → Prop}
    (hcalls : (x.prepareAircraft cfg an).look (.item id) = if p ∧ cfg.asterix.isSome then [c] else []) :
    x.Shows cfg an config id right ↔ (x.Sends cfg an → p → c.accepted → right c.data) := by
  have hitem : (Asterix.build config.toc (x.prepareAircraft cfg an).calls).item config.toc id =
      if p ∧ c.accepted then some c.data else none := by
    rw [Asterix.item_build hspec, show List.filter _ _ = _ from hcalls, hconfig]
    by_cases hp : p
    · cases haccepted : c.accepted <;> simp [hp, haccepted]
    · simp [hp]
  by_cases hsend : x.Sends cfg an
  · have hsent : (enqueue cfg {} (x.prepareAircraft cfg an)).sent =
        [Asterix.build config.toc (x.prepareAircraft cfg an).calls] := by
      rw [enqueue, if_pos ((x.prepareAircraft_send cfg an).mpr hsend), hconfig]
      rfl
    rw [Shows, hsent]
    simp only [List.mem_singleton, forall_eq, hitem, hsend, true_imp_iff]
    by_cases hp : p ∧ c.accepted
    · simp [hp]
    · simp only [hp, if_false, reduceCtorEq, false_imp_iff, implies_true, true_iff]
      exact fun h haccepted => absurd ⟨h, haccepted⟩ hp
  · have hsent : (enqueue cfg {} (x.prepareAircraft cfg an)).sent = [] := by
      rw [enqueue, if_neg fun h => hsend ((x.prepareAircraft_send cfg an).mp h)]
    rw [Shows, hsent]
    simp [hsend]

/-- Every value in the packet decodes to what is tracked, up to the given distance. -/
structure ValuesDecode : Prop where
  geometricHeight : x.Shows cfg an config .i140 fun data =>
    |Asterix.geometricHeight data - (x.value .altitudeGeom : Int)| ≤ 100
  flightLevel : x.Shows cfg an config .i145 fun data =>
    |Asterix.flightLevel data - (x.value .altitudeBaro : Int)| ≤ 100
  position : x.Shows cfg an config .i131 fun data =>
    |(Asterix.precisePosition data).1 - (x.value .position : Tracker.Position).lat| ≤ Asterix.positionUnit ∧
      |(Asterix.precisePosition data).2 - (x.value .position : Tracker.Position).lon| ≤ Asterix.positionUnit
  magneticHeading : x.Shows cfg an config .i152 fun data =>
    |Asterix.magneticHeading data - (x.value .magHeading : ℚ)| ≤ Asterix.headingUnit
  trueAirSpeed : x.Shows cfg an config .i151 fun data => Asterix.trueAirSpeed data = (false, (x.value .tas : Nat))

/-- The values that the data types and the decoders of the tracker allow. -/
structure Tracked : Prop where
  altitude_low : -2 ^ 31 ≤ (x.value .altitudeBaro : Int)
  altitude_high : (x.value .altitudeBaro : Int) < 2 ^ 31
  lat : |(x.value .position : Tracker.Position).lat| ≤ 90
  lon : |(x.value .position : Tracker.Position).lon| ≤ 180
  heading_low : 0 ≤ (x.value .magHeading : ℚ)
  heading_high : (x.value .magHeading : ℚ) < 360

variable (hconfig : cfg.asterix = some config) (hspec : Asterix.LoadedSpec config.toc) (htracked : x.Tracked)
include hconfig hspec

theorem shows_geometricHeight : (x.Shows cfg an config .i140 fun data =>
      |Asterix.geometricHeight data - (x.value .altitudeGeom : Int)| ≤ 100) ↔
    (x.Sends cfg an → x.OffersGeom cfg → |(x.value .altitudeGeom : Int)| ≤ 100) := by
  refine (shows_iff hconfig hspec (x.final_i140 cfg an)).trans ?_
  simp only [Asterix.Call.accepted, true_imp_iff, Asterix.geometricHeight_iff]

theorem shows_trueAirSpeed : (x.Shows cfg an config .i151 fun data =>
      Asterix.trueAirSpeed data = (false, (x.value .tas : Nat))) ↔
    (x.Sends cfg an → x.Recent .tas ∧ x.Valid .tas → (x.value .tas : Nat) < 2 ^ 15) := by
  refine (shows_iff hconfig hspec (x.final_i151 cfg an)).trans ?_
  simp only [Asterix.Call.accepted, true_imp_iff, Asterix.trueAirSpeed_iff]

include htracked

/-- A flight level that is not positive is refused. -/
theorem shows_flightLevel : (x.Shows cfg an config .i145 fun data =>
      |Asterix.flightLevel data - (x.value .altitudeBaro : Int)| ≤ 100) ↔
    (x.Sends cfg an → x.OffersBaro → (x.value .altitudeBaro : Int) < 819200) := by
  refine (shows_iff hconfig hspec (x.final_i145 cfg an)).trans ?_
  refine imp_congr_right fun _ => imp_congr_right fun _ => ?_
  rw [Asterix.flightLevel_accepted_iff htracked.altitude_low htracked.altitude_high]
  have hiff := fun h => Asterix.flightLevel_iff h htracked.altitude_high
  refine ⟨fun h => ?_, fun h hlow => (hiff hlow).mpr h⟩
  by_contra hlarge
  have hlow : (100 : Int) ≤ x.value .altitudeBaro := le_trans (by decide) (not_lt.mp hlarge)
  exact hlarge ((hiff hlow).mp (h hlow))

theorem shows_position : (x.Shows cfg an config .i131 fun data =>
      |(Asterix.precisePosition data).1 - (x.value .position : Tracker.Position).lat| ≤ Asterix.positionUnit ∧
        |(Asterix.precisePosition data).2 - (x.value .position : Tracker.Position).lon| ≤ Asterix.positionUnit) ↔
    (x.Sends cfg an → x.OffersPosition → Asterix.Roundable (x.value .position : Tracker.Position).lat ∧
      Asterix.Roundable (x.value .position : Tracker.Position).lon) := by
  refine (shows_iff hconfig hspec (x.final_i131 cfg an)).trans ?_
  simp only [Asterix.Call.accepted, true_imp_iff, Asterix.precisePosition_data]
  rw [Asterix.coordinate_iff (htracked.lat.trans (by norm_num)), Asterix.coordinate_iff htracked.lon]

theorem shows_magneticHeading : x.Shows cfg an config .i152 fun data =>
    |Asterix.magneticHeading data - (x.value .magHeading : ℚ)| ≤ Asterix.headingUnit :=
  (shows_iff hconfig hspec (x.final_i152 cfg an)).mpr fun _ _ _ =>
    Asterix.magneticHeading_near htracked.heading_low htracked.heading_high

/-- **Main theorem.** When the values decode. -/
theorem values_decode_iff : x.ValuesDecode cfg an config ↔ (x.Sends cfg an →
      (x.OffersGeom cfg → |(x.value .altitudeGeom : Int)| ≤ 100) ∧
      (x.OffersBaro → (x.value .altitudeBaro : Int) < 819200) ∧
      (x.OffersPosition → Asterix.Roundable (x.value .position : Tracker.Position).lat ∧
        Asterix.Roundable (x.value .position : Tracker.Position).lon) ∧
      (x.Recent .tas ∧ x.Valid .tas → (x.value .tas : Nat) < 2 ^ 15)) := by
  constructor
  · intro h hsends
    exact ⟨(shows_geometricHeight x cfg an config hconfig hspec).mp h.geometricHeight hsends,
      (shows_flightLevel x cfg an config hconfig hspec htracked).mp h.flightLevel hsends,
      (shows_position x cfg an config hconfig hspec htracked).mp h.position hsends,
      (shows_trueAirSpeed x cfg an config hconfig hspec).mp h.trueAirSpeed hsends⟩
  · intro h
    exact
      { geometricHeight := (shows_geometricHeight x cfg an config hconfig hspec).mpr fun hsends => (h hsends).1
        flightLevel := (shows_flightLevel x cfg an config hconfig hspec htracked).mpr fun hsends => (h hsends).2.1
        position := (shows_position x cfg an config hconfig hspec htracked).mpr fun hsends => (h hsends).2.2.1
        magneticHeading := shows_magneticHeading x cfg an config hconfig hspec htracked
        trueAirSpeed := (shows_trueAirSpeed x cfg an config hconfig hspec).mpr fun hsends => (h hsends).2.2.2 }

end Turn

/-- An aircraft with its geometric altitude and its heading just heard. -/
def heightTurn (altitude : Int) : Turn :=
  turnOf 0x4ca123 [⟨.altitudeGeom, altitude⟩, ⟨.magHeading, (90 : ℚ)⟩] 1700000000

theorem values_decode_low : (heightTurn 50).ValuesDecode asterixConfig neverSent
    { toc := Asterix.cat21Spec, sac := 1, sic := 1, sid := 0, sidEnabled := false } := by
  refine ((heightTurn 50).values_decode_iff asterixConfig neverSent _ rfl Asterix.cat21Spec_loaded ?_).mpr fun _ => ?_
  · constructor <;> decide +kernel
  · refine ⟨fun _ => by decide +kernel, fun h => absurd h (by decide +kernel), fun h => absurd h (by decide +kernel),
      fun h => absurd h (by decide +kernel)⟩

/-- At 35000 ft the height in the packet is 350 ft. -/
theorem height_in_hundreds : ¬ (heightTurn 35000).ValuesDecode asterixConfig neverSent
    { toc := Asterix.cat21Spec, sac := 1, sic := 1, sid := 0, sidEnabled := false } := by
  intro h
  have hsend : ((heightTurn 35000).prepareAircraft asterixConfig neverSent).send = true := by decide +kernel
  have hoffers : (heightTurn 35000).OffersGeom asterixConfig := by decide +kernel
  have hheight := ((heightTurn 35000).shows_geometricHeight asterixConfig neverSent _ rfl
    Asterix.cat21Spec_loaded).mp h.geometricHeight (((heightTurn 35000).prepareAircraft_send _ _).mp hsend) hoffers
  exact absurd hheight (by decide +kernel)

end RbFeeder.Airnav
