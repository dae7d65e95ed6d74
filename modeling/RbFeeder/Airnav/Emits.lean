import RbFeeder.Airnav.Blocks

/-! What the pass over one aircraft does, as tables.

`Opens` says on the inputs when a throttled field is let through, `tracked` what is
recorded of it then. From them follow what is sent last of every field, what the packet
holds, which calls fill the ASTERIX packet and whether the packets are queued. A block is
described once (`Throttles`); the other blocks leave its locations alone. -/
namespace RbFeeder.Airnav
open ModeS (Byte)
open Tracker (Aircraft Datum NavModes)
open Throttle (Last)
open scoped Classical

namespace Turn

/-! ### The tables -/

section Tables
variable (x : Turn) (cfg : Config) (an : Emitted)

/-- What is recorded of a field. -/
noncomputable def tracked : (f : Field) → f.Value
  | .callsign => x.value .callsign
  | .airborne => if x.OnGround then 0 else 1
  | .altitudeGeom => x.value .altitudeGeom
  | .altitudeBaro => x.value .altitudeBaro
  | .posNic => (x.value .position : Tracker.Position).nic
  | .magHeading => (x.value .magHeading : ℚ) / 10
  | .temperature => cfg.temperature x.aircraft
  | .wind =>
    let point : Tracker.Position := x.value .position
    cfg.wind x.aircraft (point.lat, point.lon) x.tvSec
  | .gs => (x.value .gs : ℚ) / 10
  | .geomRate => (x.value .geomRate : Int).tdiv 10
  | .baroRate => (x.value .baroRate : Int).tdiv 10
  | .squawk => x.value .squawk
  | .ias => (x.value .ias : Nat) / 10
  | .navModes => x.value .navModes
  | .navAltitudeFms => x.value .navAltitudeFms
  | .navAltitudeMcp => x.value .navAltitudeMcp
  | .navQnh => x.value .navQnh
  | .nicBaro => x.value .nicBaro
  | .nacP => x.value .nacP
  | .nacV => x.value .nacV
  | .sil => (x.value .sil : Tracker.Sil).sil

/-- The test of a throttle, given what was sent last. -/
def Free (f : Field) (last : Last f.Value) : Prop :=
  match f with
  | .squawk => x.tvSec - (last.value : Nat) ≥ Field.squawk.maxTime ∨ last.value ≠ x.tracked cfg .squawk
  | .magHeading => last.Due x.tvSec Field.magHeading.maxTime (x.tracked cfg .magHeading)
  | .temperature => last.Due x.tvSec Field.temperature.maxTime (x.tracked cfg .temperature)
  | .wind => last.Due x.tvSec Field.wind.maxTime (x.tracked cfg .wind)
  | .ias => last.Due x.tvSec Field.ias.maxTime (x.tracked cfg .ias)
  | .navModes => last.Due x.tvSec Field.navModes.maxTime (x.tracked cfg .navModes)
  | .navAltitudeFms => last.Due x.tvSec Field.navAltitudeFms.maxTime (x.tracked cfg .navAltitudeFms)
  | .navAltitudeMcp => last.Due x.tvSec Field.navAltitudeMcp.maxTime (x.tracked cfg .navAltitudeMcp)
  | .navQnh => last.Due x.tvSec Field.navQnh.maxTime (x.tracked cfg .navQnh)
  | f => last.Due x.tvSec f.maxTime (x.tracked cfg f) ∨ x.Force

/-- A geometric altitude is at hand and used. -/
def OffersGeom : Prop :=
  ¬ x.OnGround ∧ (cfg.useGnss ∧ x.Valid .altitudeGeom) ∧ x.Recent .altitudeGeom

/-- A barometric altitude is at hand and used. -/
def OffersBaro : Prop := ¬ x.OnGround ∧ x.Valid .altitudeBaro ∧ x.Recent .altitudeBaro

/-- A position is at hand. -/
def OffersPosition : Prop := x.Recent .position ∧ x.Valid .position

instance : Decidable (x.OffersGeom cfg) := inferInstanceAs (Decidable (_ ∧ _))
instance : Decidable x.OffersBaro := inferInstanceAs (Decidable (_ ∧ _))
instance : Decidable x.OffersPosition := inferInstanceAs (Decidable (_ ∧ _))

/-- Temperature and wind can be calculated, and what they belong to is in the packet. -/
def OffersWeather : Prop :=
  (x.Valid .mach ∧ x.Valid .ias ∧ x.Valid .altitudeBaro ∧ x.Valid .tas) ∧
    (x.OffersBaro ∧ x.Free cfg .altitudeBaro (an .altitudeBaro)) ∧ x.OffersPosition ∧
    x.Recent .magHeading ∧ x.Free cfg .magHeading (an .magHeading) ∧ x.Valid .magHeading

/-- The pass gets to the throttle of a field. -/
def Offers : Field → Prop
  | .callsign => x.Recent .callsign
  | .airborne =>
    x.OnGround ∨
      (x.OffersGeom cfg ∧ x.Free cfg .altitudeGeom (an .altitudeGeom)) ∧ (x.value .altitudeGeom : Int) > 0 ∨
      (x.OffersBaro ∧ x.Free cfg .altitudeBaro (an .altitudeBaro)) ∧ (x.value .altitudeBaro : Int) > 0
  | .altitudeGeom => x.OffersGeom cfg
  | .altitudeBaro => x.OffersBaro
  | .posNic => x.OffersPosition
  | .magHeading => x.Recent .magHeading
  | .temperature | .wind => x.OffersWeather cfg an
  | .gs => x.Recent .gs
  | .geomRate => (cfg.useGnss ∧ x.Valid .geomRate) ∧ x.Recent .geomRate
  | .baroRate => ¬ (cfg.useGnss ∧ x.Valid .geomRate) ∧ x.Valid .baroRate ∧ x.Recent .baroRate
  | .squawk => x.Recent .squawk ∧ x.Valid .squawk
  | .ias => x.Recent .ias
  | .navModes => x.Recent .navModes
  | .navAltitudeFms => x.Recent .navAltitudeFms ∧ (x.value .navAltitudeFms : Nat) ≥ 1000
  | .navAltitudeMcp => x.Recent .navAltitudeMcp ∧ (x.value .navAltitudeMcp : Nat) ≥ 1000
  | .navQnh => x.Recent .navQnh
  | .nicBaro => x.Valid .nicBaro
  | .nacP => x.Valid .nacP
  | .nacV => x.Valid .nacV
  | .sil => x.Valid .sil

/-- The throttle of a field lets it through. -/
def Opens (f : Field) : Prop := x.Offers cfg an f ∧ x.Free cfg f (an f)

/-- A field that is let through raises `send`. -/
def Raises : Field → Prop
  | .airborne => x.OnGround
  | .magHeading => x.Valid .magHeading
  | .gs => x.Valid .gs
  | .callsign | .posNic | .navModes | .navAltitudeFms | .navAltitudeMcp | .navQnh => False
  | _ => True

/-- The packets are queued. -/
def Sends : Prop := x.OffersPosition ∨ ∃ f, x.Opens cfg an f ∧ x.Raises f

end Tables

/-! ### Blocks that throttle a field -/

/-- What is done for a field that is let through: it marks values of the packet, and raises
`send` if `Raise`. -/
structure Marks (emit : Pass → Pass) (f : Field) (marks : List (Σ k : Entry, k.Value)) (Raise : Prop) :
    Prop where
  field : ∀ s, (emit s).look (.field f) = s.look (.field f)
  entry : ∀ s, ∀ mark ∈ marks, ((emit s).look (.entry mark.1)).1 = ⟨1, mark.2⟩
  send : ∀ s, (emit s).send = true ↔ s.send = true ∨ Raise

/-- The block lets a field through if `Open`: it records the field and marks values of the
packet. Otherwise it does nothing to them. -/
structure Throttles (x : Turn) (block : Pass → Pass) (f : Field) (value : f.Value) (Open : Pass → Prop)
    (marks : List (Σ k : Entry, k.Value)) : Prop where
  field : ∀ s, (block s).look (.field f) = if Open s then ⟨value, x.tvSec⟩ else s.look (.field f)
  entry : ∀ s, ∀ mark ∈ marks, ((block s).look (.entry mark.1)).1 =
    if Open s then ⟨1, mark.2⟩ else (s.look (.entry mark.1)).1

/-- The block raises `send` if `Raise`, and never lowers it. -/
def Sending (block : Pass → Pass) (Raise : Pass → Prop) : Prop :=
  ∀ s, (block s).send = true ↔ s.send = true ∨ Raise s

/-- A block that throttles one field. -/
structure Emits (x : Turn) (block : Pass → Pass) (f : Field) (value : f.Value) (Open : Pass → Prop)
    (marks : List (Σ k : Entry, k.Value)) (Raise : Prop) : Prop extends Throttles x block f value Open marks where
  send : Sending block fun s => Open s ∧ Raise

section Rules
variable {x : Turn} {cfg : Config} {f : Field} {marks : List (Σ k : Entry, k.Value)} {Raise : Prop}
  {value : f.Value} {block emit : Pass → Pass} {Open : Pass → Prop}

theorem Emits.of_eq (h : Marks emit f marks Raise) (hopen : ∀ s, Open s → block s = emit (s.record x f value))
    (hshut : ∀ s, ¬ Open s → block s = s) : Emits x block f value Open marks Raise where
  field s := by
    by_cases hs : Open s
    · rw [hopen s hs, if_pos hs, h.field]
      exact Function.update_self ..
    · rw [hshut s hs, if_neg hs]
  entry s mark hmark := by
    by_cases hs : Open s
    · rw [hopen s hs, if_pos hs, h.entry _ mark hmark]
    · rw [hshut s hs, if_neg hs]
  send s := by
    by_cases hs : Open s
    · simp only [hopen s hs, h.send, hs, true_and]
      rfl
    · rw [hshut s hs, or_iff_left fun hraise => hs hraise.1]

theorem throttle_emits (h : Marks emit f marks Raise) : Emits x (x.throttle f value emit) f value
    (fun s => (s.an f).Due x.tvSec f.maxTime value) marks Raise :=
  .of_eq h (fun _ hs => if_pos hs) fun _ hs => if_neg hs

theorem throttleOrForce_emits (h : Marks emit f marks Raise) : Emits x (x.throttleOrForce f value emit) f value
    (fun s => (s.an f).Due x.tvSec f.maxTime value ∨ x.Force) marks Raise :=
  .of_eq h (fun _ hs => if_pos hs) fun _ hs => if_neg hs

/-- A block behind a guard. -/
theorem Throttles.guard (h : Throttles x block f value Open marks) (c : Prop) [Decidable c] :
    Throttles x (fun s => if c then block s else s) f value (fun s => c ∧ Open s) marks := by
  by_cases hc : c
  · simpa only [hc, if_true, true_and] using h
  · constructor <;> intros <;> simp only [hc, if_false, false_and]

theorem Throttles.congr {Open' : Pass → Prop} (h : Throttles x block f value Open marks)
    (hopen : ∀ s, Open' s ↔ Open s) : Throttles x block f value Open' marks := by
  obtain rfl : Open' = Open := funext fun s => propext (hopen s)
  exact h

/-- A block that never lets the field through. -/
theorem Throttles.never (hfield : ∀ s, (block s).look (.field f) = s.look (.field f))
    (hentry : ∀ s, ∀ mark ∈ marks, (block s).look (.entry mark.1) = s.look (.entry mark.1))
    (hnever : ∀ s, ¬ Open s) : Throttles x block f value Open marks where
  field s := by rw [hfield, if_neg (hnever s)]
  entry s mark hmark := by rw [hentry s mark hmark, if_neg (hnever s)]

/-- Another block before it, where that leaves its locations alone. -/
theorem Throttles.before {first : Pass → Pass} (h : Throttles x block f value Open marks)
    (hfield : ∀ s, (first s).look (.field f) = s.look (.field f))
    (hentry : ∀ s, ∀ mark ∈ marks, (first s).look (.entry mark.1) = s.look (.entry mark.1))
    (hopen : ∀ s, Open (first s) ↔ Open s) :
    Throttles x (fun s => block (first s)) f value Open marks where
  field s := by rw [h.field, hfield, if_congr (hopen s) rfl rfl]
  entry s mark hmark := by rw [h.entry _ mark hmark, hentry s mark hmark, if_congr (hopen s) rfl rfl]

/-- Another block after it, where that leaves its locations alone. -/
theorem Throttles.after {last : Pass → Pass} (h : Throttles x block f value Open marks)
    (hfield : ∀ s, (last s).look (.field f) = s.look (.field f))
    (hentry : ∀ s, ∀ mark ∈ marks, (last s).look (.entry mark.1) = s.look (.entry mark.1)) :
    Throttles x (fun s => last (block s)) f value Open marks where
  field s := by rw [hfield, h.field]
  entry s mark hmark := by rw [hentry _ mark hmark, h.entry s mark hmark]

/-- A block behind a test of the state. -/
theorem Throttles.guardOn (h : Throttles x block f value Open marks) (c : Pass → Prop) [DecidablePred c] :
    Throttles x (fun s => if c s then block s else s) f value (fun s => c s ∧ Open s) marks where
  field s := by
    by_cases hc : c s
    · simp only [hc, if_true, true_and, h.field]
    · simp only [hc, if_false, false_and]
  entry s mark hmark := by
    by_cases hc : c s
    · simp only [hc, if_true, true_and, h.entry s mark hmark]
    · simp only [hc, if_false, false_and]

theorem Sending.guard {R : Pass → Prop} (h : Sending block R) (c : Prop) [Decidable c] :
    Sending (fun s => if c then block s else s) fun s => c ∧ R s := by
  by_cases hc : c
  · simpa only [hc, if_true, true_and] using h
  · intro s
    simp only [hc, if_false, false_and, or_false]

theorem Sending.asterix {R : Pass → Prop} (h : Sending block R) (c : Asterix.Call) :
    Sending (fun s => Airnav.asterix cfg c (block s)) R := by
  intro s
  rw [asterix_send, h s]

theorem Throttles.asterix (h : Throttles x block f value Open marks) (c : Asterix.Call) :
    Throttles x (fun s => Airnav.asterix cfg c (block s)) f value Open marks where
  field s := by rw [asterix_field, h.field]
  entry s mark hmark := by rw [asterix_entry, h.entry s mark hmark]

theorem Emits.guard (h : Emits x block f value Open marks Raise) (c : Prop) [Decidable c] :
    Emits x (fun s => if c then block s else s) f value (fun s => c ∧ Open s) marks Raise where
  toThrottles := h.toThrottles.guard c
  send s := (h.send.guard c s).trans (by simp only [and_assoc])

theorem Emits.congr {Open' : Pass → Prop} (h : Emits x block f value Open marks Raise)
    (hopen : ∀ s, Open' s ↔ Open s) : Emits x block f value Open' marks Raise := by
  obtain rfl : Open' = Open := funext fun s => propext (hopen s)
  exact h

theorem Emits.asterix (h : Emits x block f value Open marks Raise) (c : Asterix.Call) :
    Emits x (fun s => Airnav.asterix cfg c (block s)) f value Open marks Raise where
  toThrottles := h.toThrottles.asterix c
  send := h.send.asterix c

namespace Marks

theorem writeFirst (f : Field) (k : Entry) (v : k.Value) : Marks (·.writeFirst k v) f [⟨k, v⟩] False where
  field s := s.writeFirst_look k v nofun
  entry s mark hmark := by
    rw [List.mem_singleton.mp hmark]
    exact Function.update_self ..
  send s := (or_false _).symm.to_iff

theorem write (f : Field) (k : Entry) (v : k.Value) : Marks (·.write k v) f [⟨k, v⟩] False where
  field s := s.write_look k v nofun
  entry s mark hmark := by
    rw [List.mem_singleton.mp hmark]
    exact Function.update_self ..
  send s := (or_false _).symm.to_iff

theorem amend (f : Field) (change : Packet → Packet) : Marks (·.amend change) f [] False where
  field _ := rfl
  entry _ _ hmark := absurd hmark List.not_mem_nil
  send _ := (or_false _).symm.to_iff

theorem raise (h : Marks emit f marks Raise) : Marks (fun s => (emit s).raise) f marks True where
  field s := by rw [Pass.raise_look, h.field]
  entry s mark hmark := by rw [Pass.raise_look, h.entry s mark hmark]
  send s := iff_of_true rfl (.inr trivial)

theorem asterix (h : Marks emit f marks Raise) (c : Asterix.Call) :
    Marks (fun s => Airnav.asterix cfg c (emit s)) f marks Raise where
  field s := by rw [asterix_field, h.field]
  entry s mark hmark := by rw [asterix_entry, h.entry s mark hmark]
  send s := by rw [asterix_send, h.send]

/-- Something that is done under a condition marks its values under this condition. -/
theorem ite (h : Marks emit f marks Raise) (c : Prop) [Decidable c] :
    Marks (fun s => if c then emit s else s) f (if c then marks else []) (c ∧ Raise) := by
  by_cases hc : c
  · simpa only [hc, if_true, true_and] using h
  · constructor <;> intros <;> simp_all

/-- One more value. -/
theorem andWriteFirst (h : Marks emit f marks Raise) {k : Entry} (v : k.Value) (hk : ∀ mark ∈ marks, mark.1 ≠ k) :
    Marks (fun s => (emit s).writeFirst k v) f (⟨k, v⟩ :: marks) Raise where
  field s := (Pass.writeFirst_field _ k v f).trans (h.field s)
  entry s mark hmark := by
    obtain rfl | hmark := List.mem_cons.mp hmark
    · exact Function.update_self ..
    · rw [Pass.writeFirst_look _ k v fun e => hk mark hmark (Location.entry.inj e), h.entry s mark hmark]
  send s := h.send s

/-- Another block before it, where that leaves the field alone. -/
theorem comp {before : Pass → Pass} (h : Marks emit f marks Raise)
    (hfield : ∀ s, (before s).look (.field f) = s.look (.field f)) (hsend : ∀ s, (before s).send = s.send) :
    Marks (fun s => emit (before s)) f marks Raise where
  field s := (h.field _).trans (hfield s)
  entry s := h.entry (before s)
  send s := by rw [h.send, hsend]

end Marks

end Rules

variable (x : Turn) (cfg : Config)

/-! ### Blocks of one field -/

theorem callsign_emits : Emits x (x.callsign cfg) .callsign (x.tracked cfg .callsign)
    (fun s => x.Opens cfg s.an .callsign)
    [⟨.callsign, x.value .callsign⟩] False :=
  (throttleOrForce_emits ((Marks.write ..).asterix _)).guard _

theorem heading_emits : Emits x (x.heading cfg) .magHeading (x.tracked cfg .magHeading)
    (fun s => x.Opens cfg s.an .magHeading)
    (if x.Valid .magHeading then [⟨.heading, Asterix.toInt 16 ((x.value .magHeading : ℚ) / 10)⟩] else [])
    (x.Valid .magHeading ∧ True) :=
  ((throttle_emits ((Marks.write ..).raise.ite _)).asterix _).guard _

theorem groundSpeed_emits : Emits x x.groundSpeed .gs (x.tracked cfg .gs)
    (fun s => x.Opens cfg s.an .gs)
    (if x.Valid .gs then [⟨.gndSpeed, Asterix.toInt 16 ((x.value .gs : ℚ) / 10)⟩] else [])
    (x.Valid .gs ∧ True) :=
  (throttleOrForce_emits ((Marks.write ..).raise.ite _)).guard _

/-- What is not valid is recorded, but it is not in the packet. -/
theorem heading_entry (h : ¬ x.Valid .magHeading) (s : Pass) :
    (x.heading cfg s).look (.entry .heading) = s.look (.entry .heading) := by
  rw [heading]
  by_cases hrecent : x.Recent .magHeading
  · rw [if_pos hrecent, asterix_entry]
    exact x.throttle_look s _ _ nofun fun s => by rw [if_neg h]
  · rw [if_neg hrecent]

theorem groundSpeed_entry (h : ¬ x.Valid .gs) (s : Pass) :
    (x.groundSpeed s).look (.entry .gndSpeed) = s.look (.entry .gndSpeed) := by
  rw [groundSpeed]
  by_cases hrecent : x.Recent .gs
  · rw [if_pos hrecent]
    exact x.throttleOrForce_look s _ _ nofun fun s => by rw [if_neg h]
  · rw [if_neg hrecent]

theorem squawk_emits : Emits x x.squawk .squawk (x.tracked cfg .squawk)
    (fun s => x.Opens cfg s.an .squawk) [⟨.squawk, BitVec.ofNat 16 (x.value .squawk)⟩] True := by
  refine (Emits.guard (Emits.guard ?_ _) _).congr fun s => and_assoc
  exact .of_eq (Marks.write ..).raise (fun _ hs => if_pos hs) fun _ hs => if_neg hs

theorem indicatedAirSpeed_emits : Emits x x.indicatedAirSpeed .ias (x.tracked cfg .ias)
    (fun s => x.Opens cfg s.an .ias)
    [⟨.ias, BitVec.ofNat 16 ((x.value .ias : Nat) / 10)⟩] True :=
  (throttle_emits (Marks.write ..).raise).guard _

theorem navModes_emits : Emits x x.navModes .navModes (x.tracked cfg .navModes)
    (fun s => x.Opens cfg s.an .navModes) [] False :=
  (throttle_emits (.amend ..)).guard _

theorem navAltitudeFms_emits : Emits x x.navAltitudeFms .navAltitudeFms (x.tracked cfg .navAltitudeFms)
    (fun s => x.Opens cfg s.an .navAltitudeFms)
    [⟨.navAltitudeFms, BitVec.ofNat 32 (x.value .navAltitudeFms)⟩] False := by
  refine (((throttle_emits ?_).guard _).guard _).congr fun s => and_assoc
  exact Marks.writeFirst ..

theorem navAltitudeMcp_emits : Emits x x.navAltitudeMcp .navAltitudeMcp (x.tracked cfg .navAltitudeMcp)
    (fun s => x.Opens cfg s.an .navAltitudeMcp)
    [⟨.navAltitudeMcp, BitVec.ofNat 32 (x.value .navAltitudeMcp)⟩] False := by
  refine (((throttle_emits ?_).guard _).guard _).congr fun s => and_assoc
  exact Marks.writeFirst ..

theorem navQnh_emits : Emits x x.navQnh .navQnh (x.tracked cfg .navQnh)
    (fun s => x.Opens cfg s.an .navQnh)
    [⟨.navQnh, Asterix.toInt 32 (x.value .navQnh)⟩] False :=
  (throttle_emits (Marks.writeFirst ..)).guard _

theorem nicBaro_emits : Emits x x.nicBaro .nicBaro (x.tracked cfg .nicBaro)
    (fun s => x.Opens cfg s.an .nicBaro)
    [⟨.nicBaro, BitVec.ofNat 8 (x.value .nicBaro)⟩] True :=
  (throttleOrForce_emits (Marks.writeFirst ..).raise).guard _

theorem nacP_emits : Emits x x.nacP .nacP (x.tracked cfg .nacP)
    (fun s => x.Opens cfg s.an .nacP)
    [⟨.nacP, BitVec.ofNat 32 (x.value .nacP)⟩] True :=
  (throttleOrForce_emits (Marks.writeFirst ..).raise).guard _

theorem nacV_emits : Emits x x.nacV .nacV (x.tracked cfg .nacV)
    (fun s => x.Opens cfg s.an .nacV)
    [⟨.nacV, BitVec.ofNat 32 (x.value .nacV)⟩] True :=
  (throttleOrForce_emits (Marks.writeFirst ..).raise).guard _

theorem sil_emits : Emits x x.sil .sil (x.tracked cfg .sil)
    (fun s => x.Opens cfg s.an .sil)
    [⟨.silType, (x.value .sil : Tracker.Sil).type⟩, ⟨.sil, BitVec.ofNat 32 (x.value .sil : Tracker.Sil).sil⟩]
    True :=
  (throttleOrForce_emits ((Marks.writeFirst ..).andWriteFirst _ (by simp)).raise).guard _

/-! ### The altitude -/

/-- Above ground the aircraft is airborne. -/
def climb (altitude : Int) (s : Pass) : Pass := if altitude > 0 then x.airborne 1 id s else s

/-- An altitude that is let through. -/
def climbTo (altitude : Int) (k : Entry) (value : k.Value) (s : Pass) : Pass :=
  ((x.climb altitude s).write k value).raise

theorem climb_emits (altitude : Int) : Emits x (x.climb altitude) .airborne 1
    (fun s => altitude > 0 ∧ ((s.an .airborne).Due x.tvSec Field.airborne.maxTime 1 ∨ x.Force))
    [⟨.airborne, 1⟩] False :=
  (throttleOrForce_emits (Marks.write ..)).guard _

theorem climb_look {l : Location} (altitude : Int) (s : Pass) (h₁ : l ≠ .field .airborne)
    (h₂ : l ≠ .entry .airborne) : (x.climb altitude s).look l = s.look l := by
  unfold climb
  split
  · exact x.airborne_look s _ h₁ h₂ fun _ => rfl
  · rfl

theorem climb_send (altitude : Int) (s : Pass) : (x.climb altitude s).send = s.send :=
  Bool.eq_iff_iff.mpr (((x.climb_emits altitude).send s).trans (by simp only [and_false, or_false]))

variable {x} in
/-- What an altitude does to its own field. -/
theorem climbTo_marks {f : Field} (hf : .airborne ≠ f) (altitude : Int) (k : Entry) (value : k.Value) :
    Marks (x.climbTo altitude k value) f [⟨k, value⟩] True :=
  (Marks.write ..).raise.comp
    (fun s => x.climb_look altitude s (fun h => hf (Location.field.inj h).symm) nofun) (x.climb_send altitude)

variable {x cfg} in
/-- What an altitude does to the field that it shares with the other. -/
theorem climbTo_throttles {f : Field} {v : f.Value} {k : Entry} {w : k.Value} {altitude : Int}
    (hf : .airborne ≠ f) (hk : .airborne ≠ k) :
    Throttles x (x.throttleOrForce f v (x.climbTo altitude k w)) .airborne 1
      (fun s => ((s.an f).Due x.tvSec f.maxTime v ∨ x.Force) ∧ altitude > 0 ∧
        ((s.an .airborne).Due x.tvSec Field.airborne.maxTime 1 ∨ x.Force))
      [⟨.airborne, 1⟩] where
  field s := by
    have hrecord : (s.record x f v).an .airborne = s.an .airborne :=
      s.record_look x f v fun h => hf (Location.field.inj h)
    rw [throttleOrForce]
    by_cases hopen : (s.an f).Due x.tvSec f.maxTime v ∨ x.Force
    · rw [if_pos hopen, climbTo, Pass.raise_look, Pass.write_field, (x.climb_emits altitude).field, hrecord]
      simp only [hopen, true_and]
      split_ifs
      · rfl
      · exact hrecord
    · simp only [hopen, false_and, if_false]
  entry s mark hmark := by
    have hrecord : (s.record x f v).an .airborne = s.an .airborne :=
      s.record_look x f v fun h => hf (Location.field.inj h)
    obtain rfl := List.mem_singleton.mp hmark
    rw [throttleOrForce]
    by_cases hopen : (s.an f).Due x.tvSec f.maxTime v ∨ x.Force
    · rw [if_pos hopen, climbTo, Pass.raise_look, Pass.write_look _ _ _ fun h => hk (Location.entry.inj h),
        (x.climb_emits altitude).entry _ _ hmark, hrecord]
      simp only [hopen, true_and]
      rfl
    · simp only [hopen, false_and, if_false]

theorem altitudeGeom_emits : Emits x (x.altitudeGeom cfg) .altitudeGeom (x.tracked cfg .altitudeGeom)
    (fun s => (cfg.useGnss ∧ x.Valid .altitudeGeom) ∧ x.Recent .altitudeGeom ∧
      x.Free cfg .altitudeGeom (s.an .altitudeGeom))
    [⟨.altitudeGeo, BitVec.ofInt 32 (x.value .altitudeGeom)⟩] True := by
  refine (((throttleOrForce_emits ?_).asterix _).guard _).guard _
  exact climbTo_marks (by decide) _ _ _

theorem altitudeBaro_emits : Emits x (x.altitudeBaro cfg) .altitudeBaro (x.tracked cfg .altitudeBaro)
    (fun s => x.Valid .altitudeBaro ∧ x.Recent .altitudeBaro ∧ x.Free cfg .altitudeBaro (s.an .altitudeBaro))
    [⟨.altitude, BitVec.ofInt 32 (x.value .altitudeBaro)⟩] True := by
  refine (((throttleOrForce_emits ?_).asterix _).guard _).guard _
  exact climbTo_marks (by decide) _ _ _

theorem altitudeGeom_climbs : Throttles x (x.altitudeGeom cfg) .airborne 1
    (fun s => (cfg.useGnss ∧ x.Valid .altitudeGeom) ∧ x.Recent .altitudeGeom ∧
      x.Free cfg .altitudeGeom (s.an .altitudeGeom) ∧ (x.value .altitudeGeom : Int) > 0 ∧
      ((s.an .airborne).Due x.tvSec Field.airborne.maxTime 1 ∨ x.Force))
    [⟨.airborne, 1⟩] := by
  refine Throttles.guard (Throttles.guard (Throttles.asterix ?_ _) _) _
  exact climbTo_throttles (by decide) (by decide)

theorem altitudeBaro_climbs : Throttles x (x.altitudeBaro cfg) .airborne 1
    (fun s => x.Valid .altitudeBaro ∧ x.Recent .altitudeBaro ∧
      x.Free cfg .altitudeBaro (s.an .altitudeBaro) ∧ (x.value .altitudeBaro : Int) > 0 ∧
      ((s.an .airborne).Due x.tvSec Field.airborne.maxTime 1 ∨ x.Force))
    [⟨.airborne, 1⟩] := by
  refine Throttles.guard (Throttles.guard (Throttles.asterix ?_ _) _) _
  exact climbTo_throttles (by decide) (by decide)

theorem altitude_ground (h : x.OnGround) : x.altitude cfg = x.airborne 0 Pass.raise :=
  funext fun _ => if_pos h

theorem altitude_air (h : ¬ x.OnGround) : x.altitude cfg = fun s => x.altitudeBaro cfg (x.altitudeGeom cfg s) :=
  funext fun _ => if_neg h

theorem altitude_throttlesGeom : Throttles x (x.altitude cfg) .altitudeGeom (x.tracked cfg .altitudeGeom)
    (fun s => x.Opens cfg s.an .altitudeGeom) [⟨.altitudeGeo, BitVec.ofInt 32 (x.value .altitudeGeom)⟩] := by
  by_cases hground : x.OnGround
  · rw [altitude_ground x cfg hground]
    refine .never (fun s => x.airborne_look s 0 nofun nofun fun s => s.raise_look _) (fun s mark hmark => ?_)
      fun _ hopen => hopen.1.1 hground
    obtain rfl := List.mem_singleton.mp hmark
    exact x.airborne_look s 0 nofun nofun fun s => s.raise_look _
  · rw [altitude_air x cfg hground]
    refine ((x.altitudeGeom_emits cfg).congr fun s => ?_).after
      (fun s => x.altitudeBaro_look cfg s nofun nofun nofun nofun nofun) (fun s mark hmark => ?_)
    · simp only [Opens, Offers, OffersGeom, hground, not_false_eq_true, true_and, and_assoc]
    · obtain rfl := List.mem_singleton.mp hmark
      exact x.altitudeBaro_look cfg s nofun nofun nofun nofun nofun

theorem altitude_throttlesBaro : Throttles x (x.altitude cfg) .altitudeBaro (x.tracked cfg .altitudeBaro)
    (fun s => x.Opens cfg s.an .altitudeBaro) [⟨.altitude, BitVec.ofInt 32 (x.value .altitudeBaro)⟩] := by
  by_cases hground : x.OnGround
  · rw [altitude_ground x cfg hground]
    refine .never (fun s => x.airborne_look s 0 nofun nofun fun s => s.raise_look _) (fun s mark hmark => ?_)
      fun _ hopen => hopen.1.1 hground
    obtain rfl := List.mem_singleton.mp hmark
    exact x.airborne_look s 0 nofun nofun fun s => s.raise_look _
  · have hkeep : ∀ s, (x.altitudeGeom cfg s).an .altitudeBaro = s.an .altitudeBaro :=
      fun s => x.altitudeGeom_look (l := .field .altitudeBaro) cfg s nofun nofun nofun nofun nofun
    rw [altitude_air x cfg hground]
    refine ((x.altitudeBaro_emits cfg).toThrottles.congr fun s => ?_).before hkeep (fun s mark hmark => ?_)
      fun s => ?_
    · simp only [Opens, Offers, OffersBaro, hground, not_false_eq_true, true_and, and_assoc]
    · obtain rfl := List.mem_singleton.mp hmark
      exact x.altitudeGeom_look cfg s nofun nofun nofun nofun nofun
    · simp only [Opens, Offers, hkeep]

/-- The second altitude records the same again, or not at all. -/
theorem Throttles.again {x : Turn} {f : Field} {value : f.Value} {marks : List (Σ k : Entry, k.Value)}
    {block block' : Pass → Pass} {C C' : Pass → Prop} {Free : Last f.Value → Prop}
    (h : Throttles x block f value (fun s => C s ∧ Free (s.an f)) marks)
    (h' : Throttles x block' f value (fun s => C' s ∧ Free (s.an f)) marks)
    (hkeep : ∀ s, C' (block s) ↔ C' s) :
    Throttles x (fun s => block' (block s)) f value (fun s => (C s ∨ C' s) ∧ Free (s.an f)) marks where
  field s := by
    by_cases hs : C s ∧ Free (s.an f)
    · rw [h'.field, h.field, if_pos hs, ite_self, if_pos ⟨.inl hs.1, hs.2⟩]
    · have hfirst : (block s).an f = s.an f := (h.field s).trans (if_neg hs)
      rw [h'.field, h.field, if_neg hs, hfirst]
      simp only [hkeep, or_and_right, hs, false_or]
  entry s mark hmark := by
    by_cases hs : C s ∧ Free (s.an f)
    · rw [h'.entry _ mark hmark, h.entry s mark hmark, if_pos hs, ite_self, if_pos ⟨.inl hs.1, hs.2⟩]
    · have hfirst : (block s).an f = s.an f := (h.field s).trans (if_neg hs)
      rw [h'.entry _ mark hmark, h.entry s mark hmark, if_neg hs, hfirst]
      simp only [hkeep, or_and_right, hs, false_or]

theorem altitude_throttlesAirborne : Throttles x (x.altitude cfg) .airborne (x.tracked cfg .airborne)
    (fun s => x.Opens cfg s.an .airborne) [⟨.airborne, x.tracked cfg .airborne⟩] := by
  by_cases hground : x.OnGround
  · have htracked : x.tracked cfg .airborne = 0 := if_pos hground
    rw [altitude_ground x cfg hground, htracked]
    refine (throttleOrForce_emits (Marks.write ..).raise).toThrottles.congr fun s => ?_
    simp only [Opens, Offers, hground, true_or, true_and, Free, htracked]
  · have htracked : x.tracked cfg .airborne = 1 := if_neg hground
    rw [altitude_air x cfg hground, htracked]
    have hgeom : Throttles x (x.altitudeGeom cfg) .airborne 1
        (fun s => ((x.OffersGeom cfg ∧ x.Free cfg .altitudeGeom (s.an .altitudeGeom)) ∧
          (x.value .altitudeGeom : Int) > 0) ∧ x.Free cfg .airborne (s.an .airborne)) [⟨.airborne, 1⟩] := by
      refine (x.altitudeGeom_climbs cfg).congr fun s => ?_
      simp only [OffersGeom, Free, htracked, hground, not_false_eq_true, true_and, and_assoc]
    have hbaro : Throttles x (x.altitudeBaro cfg) .airborne 1
        (fun s => ((x.OffersBaro ∧ x.Free cfg .altitudeBaro (s.an .altitudeBaro)) ∧
          (x.value .altitudeBaro : Int) > 0) ∧ x.Free cfg .airborne (s.an .airborne)) [⟨.airborne, 1⟩] := by
      refine (x.altitudeBaro_climbs cfg).congr fun s => ?_
      simp only [OffersBaro, Free, htracked, hground, not_false_eq_true, true_and, and_assoc]
    have hkeep : ∀ s, (x.altitudeGeom cfg s).an .altitudeBaro = s.an .altitudeBaro :=
      fun s => x.altitudeGeom_look (l := .field .altitudeBaro) cfg s nofun nofun nofun nofun nofun
    refine (hgeom.again hbaro fun s => by simp only [hkeep]).congr fun s => ?_
    simp only [Opens, Offers, hground, false_or]

theorem altitude_sending : Sending (x.altitude cfg) fun s =>
    x.Opens cfg s.an .airborne ∧ x.OnGround ∨ x.Opens cfg s.an .altitudeGeom ∨ x.Opens cfg s.an .altitudeBaro := by
  by_cases hground : x.OnGround
  · have htracked : x.tracked cfg .airborne = 0 := if_pos hground
    intro s
    rw [altitude_ground x cfg hground]
    refine ((throttleOrForce_emits (Marks.write ..).raise).send s).trans ?_
    simp only [Opens, Offers, OffersGeom, OffersBaro, hground, not_true, false_and, true_and, and_true,
      or_false, Free, htracked]
  · have hkeep : ∀ s, (x.altitudeGeom cfg s).an .altitudeBaro = s.an .altitudeBaro :=
      fun s => x.altitudeGeom_look (l := .field .altitudeBaro) cfg s nofun nofun nofun nofun nofun
    intro s
    rw [altitude_air x cfg hground]
    refine ((x.altitudeBaro_emits cfg).send _).trans ?_
    rw [(x.altitudeGeom_emits cfg).send]
    simp only [hkeep, Opens, Offers, OffersGeom, OffersBaro, hground, not_false_eq_true, true_and, and_true,
      and_false, false_or, and_assoc, or_assoc]

/-! ### Position, weather and vertical rate -/

/-- The position, in the second packet. -/
def positionSecond (value : ℚ × ℚ) (s : Pass) : Pass :=
  { s with acf2 := s.acf2.assign .position value }.raise

theorem positionSecond_field (value : ℚ × ℚ) (f : Field) (s : Pass) :
    (positionSecond value s).look (.field f) = s.look (.field f) := rfl

theorem positionSecond_entry (value : ℚ × ℚ) (s : Pass) {k : Entry} (h : k ≠ .position) :
    (positionSecond value s).look (.entry k) = s.look (.entry k) := by
  rw [positionSecond, Pass.raise_look]
  exact Pass.assignSecond_look s _ _ fun e => h (Location.entry.inj e)

theorem position_throttles : Throttles x (x.position cfg) .posNic (x.tracked cfg .posNic)
    (fun s => x.Opens cfg s.an .posNic) [⟨.posNic, BitVec.ofNat 32 (x.value .position : Tracker.Position).nic⟩] := by
  let point : Tracker.Position := x.value .position
  have hthrottle : Throttles x
      (x.throttleOrForce .posNic point.nic (·.writeFirst .posNic (BitVec.ofNat 32 point.nic)))
      .posNic point.nic (fun s => x.Free cfg .posNic (s.an .posNic)) [⟨.posNic, BitVec.ofNat 32 point.nic⟩] :=
    (throttleOrForce_emits (Marks.writeFirst ..)).toThrottles
  have hfirst := hthrottle.before (fun s => s.writeFirst_field .position (point.lat, point.lon) _)
    (fun s mark hmark => s.writeFirst_look _ _ fun e => by
      rw [List.mem_singleton.mp hmark] at e
      cases e) fun s => Iff.rfl
  have hlast := hfirst.after (fun s => positionSecond_field (point.lat, point.lon) _ s)
    fun s mark hmark => positionSecond_entry _ s fun e => by
      rw [List.mem_singleton.mp hmark] at e
      cases e
  refine Throttles.congr (((hlast.asterix _).guard _).guard _) fun s => ?_
  simp only [Opens, Offers, OffersPosition, and_assoc]

theorem position_entry (s : Pass) : ((x.position cfg s).look (.entry .position)).1 =
    if x.OffersPosition then
      ⟨1, ((x.value .position : Tracker.Position).lat, (x.value .position : Tracker.Position).lon)⟩
    else (s.look (.entry .position)).1 := by
  rw [position, ← ite_and]
  by_cases hoffers : x.OffersPosition
  · have hkeep := x.throttleOrForce_look (l := .entry .position)
      (s.writeFirst .position ((x.value .position : Tracker.Position).lat, (x.value .position : Tracker.Position).lon))
      .posNic (x.value .position : Tracker.Position).nic nofun
      fun s => s.writeFirst_look .posNic (BitVec.ofNat 32 (x.value .position : Tracker.Position).nic) nofun
    rw [if_pos hoffers, if_pos (show _ ∧ _ from hoffers), asterix_entry, Pass.raise_look]
    exact (congrArg Prod.fst hkeep).trans
      ((Marks.writeFirst .posNic .position _).entry s _ (List.mem_singleton_self _))
  · rw [if_neg hoffers, if_neg (show ¬ (_ ∧ _) from hoffers)]

theorem position_sending : Sending (x.position cfg) fun _ => x.OffersPosition := by
  intro s
  unfold position OffersPosition
  split_ifs with hrecent hvalid
  · simp [asterix_send, hrecent, hvalid, Pass.raise]
  · simp [hvalid]
  · simp [hrecent]

theorem vertRate_emits {f : Field} (v : f.Value) (rate : Int) (valid recent : Prop) [Decidable valid]
    [Decidable recent] :
    Emits x (fun s => if valid then if recent then x.throttleOrForce f v (vertRate rate) s else s else s) f v
      (fun s => valid ∧ recent ∧ ((s.an f).Due x.tvSec f.maxTime v ∨ x.Force))
      [⟨.vertRate, BitVec.ofInt 16 rate⟩] True :=
  ((throttleOrForce_emits (Marks.write ..).raise).guard _).guard _

theorem vertRate_look {l : Location} {f : Field} (v : f.Value) (rate : Int) (valid recent : Prop) [Decidable valid]
    [Decidable recent] (s : Pass) (hf : l ≠ .field f) (hk : l ≠ .entry .vertRate) :
    (if valid then if recent then x.throttleOrForce f v (vertRate rate) s else s else s).look l = s.look l := by
  split_ifs
  · refine x.throttleOrForce_look s _ _ hf fun s => ?_
    rw [vertRate, Pass.raise_look, Pass.write_look s _ _ hk]
  all_goals rfl

theorem verticalRate_geom (h : cfg.useGnss ∧ x.Valid .geomRate) :
    Emits x (x.verticalRate cfg) .geomRate (x.tracked cfg .geomRate) (fun s => x.Opens cfg s.an .geomRate)
      [⟨.vertRate, BitVec.ofInt 16 ((x.value .geomRate : Int).tdiv 10)⟩] True := by
  have hblock : x.verticalRate cfg = fun s => if True then if x.Recent .geomRate then
      x.throttleOrForce .geomRate ((x.value .geomRate : Int).tdiv 10)
        (vertRate ((x.value .geomRate : Int).tdiv 10)) s else s else s := funext fun s => if_pos h
  rw [hblock]
  refine (x.vertRate_emits _ _ _ _).congr fun s => ?_
  simp only [Opens, Offers, h, and_self, true_and]
  exact Iff.rfl

theorem verticalRate_baro (h : ¬ (cfg.useGnss ∧ x.Valid .geomRate)) :
    Emits x (x.verticalRate cfg) .baroRate (x.tracked cfg .baroRate) (fun s => x.Opens cfg s.an .baroRate)
      [⟨.vertRate, BitVec.ofInt 16 ((x.value .baroRate : Int).tdiv 10)⟩] True := by
  have hblock : x.verticalRate cfg = fun s => if x.Valid .baroRate then if x.Recent .baroRate then
      x.throttleOrForce .baroRate ((x.value .baroRate : Int).tdiv 10)
        (vertRate ((x.value .baroRate : Int).tdiv 10)) s else s else s := funext fun s => if_neg h
  rw [hblock]
  refine (x.vertRate_emits _ _ _ _).congr fun s => ?_
  simp only [Opens, Offers, h, not_false_eq_true, true_and, and_assoc]
  exact Iff.rfl

/-- The rate that is not looked at is not let through. -/
theorem verticalRate_geom_not (h : ¬ (cfg.useGnss ∧ x.Valid .geomRate)) :
    Throttles x (x.verticalRate cfg) .geomRate (x.tracked cfg .geomRate) (fun s => x.Opens cfg s.an .geomRate) [] := by
  refine .never (fun s => ?_) (fun _ _ hmark => absurd hmark List.not_mem_nil) fun s hopen => h hopen.1.1
  rw [verticalRate, if_neg h]
  exact x.vertRate_look _ _ _ _ s nofun nofun

theorem verticalRate_baro_not (h : cfg.useGnss ∧ x.Valid .geomRate) :
    Throttles x (x.verticalRate cfg) .baroRate (x.tracked cfg .baroRate) (fun s => x.Opens cfg s.an .baroRate) [] := by
  refine .never (fun s => ?_) (fun _ _ hmark => absurd hmark List.not_mem_nil) fun s hopen => hopen.1.1 h
  rw [verticalRate, if_pos h]
  exact x.vertRate_look (l := .field .baroRate) _ _ True _ s nofun nofun

/-- What the weather is calculated from is in the packet. -/
def WeatherIn (s : Pass) : Prop :=
  (x.Valid .mach ∧ x.Valid .ias ∧ x.Valid .altitudeBaro ∧ x.Valid .tas) ∧
    (s.acf.slots .altitude).set = 1 ∧ (s.acf.slots .position).set = 1 ∧ (s.acf.slots .heading).set = 1

instance (s : Pass) : Decidable (x.WeatherIn s) := inferInstanceAs (Decidable (_ ∧ _))

/-- The temperature. -/
def temperature (s : Pass) : Pass :=
  x.throttle .temperature (cfg.temperature x.aircraft) (fun s =>
    (s.writeFirst .temperature ((cfg.temperature x.aircraft).signExtend 32)).raise) s

/-- A wind. -/
def wind (value : BitVec 16 × BitVec 16) (s : Pass) : Pass :=
  x.throttle .wind value (fun s => ((s.writeFirst .windDir value.1).writeFirst .windSpeed value.2).raise) s

theorem temperature_look {l : Location} (s : Pass) (h₁ : l ≠ .field .temperature) (h₂ : l ≠ .entry .temperature) :
    (x.temperature cfg s).look l = s.look l := by
  refine x.throttle_look s _ _ h₁ fun s => ?_
  rw [Pass.raise_look, Pass.writeFirst_look s _ _ h₂]

theorem wind_look {l : Location} (value : BitVec 16 × BitVec 16) (s : Pass) (h₁ : l ≠ .field .wind)
    (h₂ : l ≠ .entry .windDir) (h₃ : l ≠ .entry .windSpeed) : (x.wind value s).look l = s.look l := by
  refine x.throttle_look s _ _ h₁ fun s => ?_
  rw [Pass.raise_look, Pass.writeFirst_look _ _ _ h₃, Pass.writeFirst_look s _ _ h₂]

theorem weather_eq (s : Pass) : x.weather cfg s =
    if x.WeatherIn s then
      x.wind (cfg.wind x.aircraft (s.acf.slots .position).value x.tvSec) (x.temperature cfg s)
    else s := by
  have hkeep : (x.temperature cfg s).acf.slots .position = s.acf.slots .position :=
    congrArg Prod.fst (x.temperature_look (l := .entry .position) cfg s nofun nofun)
  have hblock : x.weather cfg s =
      if x.Valid .mach ∧ x.Valid .ias ∧ x.Valid .altitudeBaro ∧ x.Valid .tas then
        if (s.acf.slots .altitude).set = 1 ∧ (s.acf.slots .position).set = 1 ∧ (s.acf.slots .heading).set = 1 then
          x.wind (cfg.wind x.aircraft ((x.temperature cfg s).acf.slots .position).value x.tvSec) (x.temperature cfg s)
        else s
      else s := rfl
  rw [hblock, hkeep, ← ite_and]
  rfl

theorem temperature_emits : Emits x (x.temperature cfg) .temperature (x.tracked cfg .temperature)
    (fun s => x.Free cfg .temperature (s.an .temperature))
    [⟨.temperature, (cfg.temperature x.aircraft).signExtend 32⟩] True :=
  throttle_emits (Marks.writeFirst ..).raise

theorem wind_emits (value : BitVec 16 × BitVec 16) : Emits x (x.wind value) .wind value
    (fun s => (s.an .wind).Due x.tvSec Field.wind.maxTime value)
    [⟨.windSpeed, value.2⟩, ⟨.windDir, value.1⟩] True :=
  throttle_emits ((Marks.writeFirst ..).andWriteFirst _ (by simp)).raise

/-- The weather, where the wind is known. -/
def weatherWith (wind : BitVec 16 × BitVec 16) (s : Pass) : Pass :=
  if x.WeatherIn s then x.wind wind (x.temperature cfg s) else s

theorem weatherWith_temperature (wind : BitVec 16 × BitVec 16) :
    Throttles x (x.weatherWith cfg wind) .temperature (x.tracked cfg .temperature)
      (fun s => x.WeatherIn s ∧ x.Free cfg .temperature (s.an .temperature))
      [⟨.temperature, (cfg.temperature x.aircraft).signExtend 32⟩] := by
  refine Throttles.guardOn (Throttles.after (x.temperature_emits cfg).toThrottles ?_ ?_) x.WeatherIn
  · exact fun s => x.wind_look wind s nofun nofun nofun
  · intro s mark hmark
    obtain rfl := List.mem_singleton.mp hmark
    exact x.wind_look wind s nofun nofun nofun

theorem weatherWith_wind (wind : BitVec 16 × BitVec 16) :
    Throttles x (x.weatherWith cfg wind) .wind wind
      (fun s => x.WeatherIn s ∧ (s.an .wind).Due x.tvSec Field.wind.maxTime wind)
      [⟨.windSpeed, wind.2⟩, ⟨.windDir, wind.1⟩] := by
  have hfield : ∀ s, (x.temperature cfg s).look (.field .wind) = s.look (.field .wind) :=
    fun s => x.temperature_look cfg s nofun nofun
  refine Throttles.guardOn (Throttles.before (x.wind_emits wind).toThrottles hfield ?_ ?_) x.WeatherIn
  · intro s mark hmark
    simp only [List.mem_cons, List.not_mem_nil, or_false] at hmark
    obtain rfl | rfl := hmark
    · exact x.temperature_look cfg s nofun nofun
    · exact x.temperature_look cfg s nofun nofun
  · exact fun s => iff_of_eq (congrArg (fun last : Last (BitVec 16 × BitVec 16) => last.Due _ _ _) (hfield s))

theorem weatherWith_sending (wind : BitVec 16 × BitVec 16) : Sending (x.weatherWith cfg wind) fun s =>
    x.WeatherIn s ∧ (x.Free cfg .temperature (s.an .temperature) ∨
      (s.an .wind).Due x.tvSec Field.wind.maxTime wind) := by
  have hfield : ∀ s, (x.temperature cfg s).an .wind = s.an .wind :=
    fun s => x.temperature_look (l := .field .wind) cfg s nofun nofun
  intro s
  unfold weatherWith
  by_cases hs : x.WeatherIn s
  · rw [if_pos hs, (x.wind_emits wind).send, (x.temperature_emits cfg).send]
    simp only [hfield, hs, true_and, and_true, or_assoc]
  · simp only [hs, if_false, false_and, or_false]

end Turn
end RbFeeder.Airnav
