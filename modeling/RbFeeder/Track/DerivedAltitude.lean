import RbFeeder.Track.Aircraft

/-! The derived geometric altitude.

A message that leaves barometric altitude and delta both more recent than geometric
altitude overwrites the latter with their sum. "More recent" looks at sources and
times of update, not at whether the data is still there: a delta whose source a sweep
has taken away may be more recent than a geometric altitude that was never set, and
then the validity is copied from the barometric altitude alone.
`derived_altitude_backed_iff` says of any run when this does not happen. -/
namespace RbFeeder.Track
open DataValidity

/-- The record a message is for, before the message. -/
def recordFor (aircrafts : List Aircraft) (mm : Message) : Aircraft :=
  (trackFindAircraft aircrafts mm.addr).getD (trackCreateAircraft mm)

/-- The record a message derives an altitude in, as it is just before. -/
def derivation (aircrafts : List Aircraft) (mm : Message) : Option Aircraft :=
  let a := (recordFor aircrafts mm).heard mm
  if mm.Tracked ∧ ¬ a.Distrusts mm ∧ (a.acceptFields mm).Derives mm.sysTimestampMsg then
    some (a.acceptFields mm)
  else none

theorem update_of_derivation {aircrafts : List Aircraft} {mm : Message} {a : Aircraft}
    (h : derivation aircrafts mm = some a) :
    mm.Tracked ∧ (recordFor aircrafts mm).update mm = a.derived := by
  simp only [derivation] at h
  split at h
  · next hall =>
    obtain ⟨htracked, htrust, hderives⟩ := hall
    refine ⟨htracked, ?_⟩
    rw [← Option.some.inj h]
    simp only [Aircraft.update, if_neg htrust, if_pos hderives]
  · exact absurd h (by simp)

/-- What is found is updated in place. -/
theorem mem_updateFirst {addr : BitVec 32} {f : Aircraft → Aircraft} {aircrafts : List Aircraft}
    {a : Aircraft} (h : trackFindAircraft aircrafts addr = some a) :
    f a ∈ updateFirst addr f aircrafts := by
  induction aircrafts with
  | nil => exact absurd h (by simp [trackFindAircraft])
  | cons b rest ih =>
    by_cases haddr : b.addr = addr
    · have hb : b = a := by simpa [trackFindAircraft, haddr] using h
      rw [updateFirst, if_pos haddr, hb]
      exact List.mem_cons_self ..
    · have hrest : trackFindAircraft rest addr = some a := by
        simpa [trackFindAircraft, haddr] using h
      rw [updateFirst, if_neg haddr]
      exact List.mem_cons_of_mem b (ih hrest)

/-- The record with the derived altitude is in the list afterwards. -/
theorem derived_mem {aircrafts : List Aircraft} {mm : Message} {a : Aircraft}
    (h : derivation aircrafts mm = some a) :
    a.derived ∈ trackUpdateFromMessage aircrafts mm := by
  obtain ⟨htracked, hupdate⟩ := update_of_derivation h
  rw [← hupdate, trackUpdateFromMessage, if_pos htracked, recordFor]
  cases hfind : trackFindAircraft aircrafts mm.addr with
  | none => exact List.mem_cons_self ..
  | some b => exact mem_updateFirst hfind

/-- An altitude derived at time `now`: if it is valid, both its sources are, it expires
with the first of them and is as good as the worse, and keeps its own intervals. -/
def Aircraft.DerivedBacked (now : Millis) (a : Aircraft) : Prop :=
  a.derived.altitudeGeom.valid.Valid now →
    Backed now a.altitudeGeom.valid a.altitudeBaro.valid a.geomDelta.valid
      a.derived.altitudeGeom.valid

/-- `P` holds of every derivation of a run. -/
def EveryDerivation (events : List Event) (P : Millis → Aircraft → Prop) : Prop :=
  ∀ before mm, before ++ [.message mm] <+: events →
    ∀ a, derivation (track before) mm = some a → P mm.sysTimestampMsg a

theorem EveryDerivation.congr {events : List Event} {P Q : Millis → Aircraft → Prop}
    (h : ∀ now a, P now a ↔ Q now a) : EveryDerivation events P ↔ EveryDerivation events Q := by
  constructor
  · intro hall before mm hrun a ha
    exact (h _ a).mp (hall before mm hrun a ha)
  · intro hall before mm hrun a ha
    exact (h _ a).mpr (hall before mm hrun a ha)

/-- **In any run the derived altitudes are backed exactly if none is derived while one
of its sources is gone and the other is valid.** -/
theorem derived_altitude_backed_iff (events : List Event) :
    EveryDerivation events (fun now a => a.DerivedBacked now) ↔
      EveryDerivation events fun now a =>
        ¬ OneGone now a.altitudeBaro.valid a.geomDelta.valid := by
  apply EveryDerivation.congr
  intro now a
  exact combine_backed_iff now a.altitudeGeom.valid a.altitudeBaro.valid a.geomDelta.valid

/-! ### A delta that outlives its sweep -/

/-- An extended squitter without any altitude. -/
def squitterAt (t : Millis) : Message :=
  { msgtype := 17, addr := 0x4b1901, sysTimestampMsg := t, reliable := true, source := .adsb }

/-- A velocity with a delta, an identification, a sweep after the delta has expired, and
then a position with a barometric altitude. -/
theorem swept_delta_backs_altitude :
    ∃ a, derivation (track [.message { squitterAt 1000 with geomDelta := some 500 },
          .message (squitterAt 50000), .sweep 71000])
        { squitterAt 72000 with altitudeBaro := some (30000, .feet) } = some a ∧
      a.derived.altitudeGeom.valid.Valid 72000 ∧ ¬ a.geomDelta.valid.Valid 72000 ∧
      a.derived.altitudeGeom.valid.staleInterval ≠ a.altitudeGeom.valid.staleInterval :=
  ⟨_, rfl, by decide, by decide, by decide⟩

end RbFeeder.Track
