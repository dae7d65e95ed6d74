import RbFeeder.Tracker.Data
import RbFeeder.Track.DerivedAltitude

/-! The lifetime and the altitudes of an aircraft by themselves.

What `Track.Aircraft` keeps of an aircraft is updated without the other fields: messages
and sweeps of the whole record are messages and sweeps of it, and runs are runs
(`altitudes_run`). -/
namespace RbFeeder.Tracker
open Track (Millis)

/-- A field of integers. -/
def Tracked.field (t : Tracked Int) : Track.Field := ⟨t.valid, t.value⟩

/-- The part of a message that the altitudes depend on. -/
def Message.altitudes (mm : Message) : Track.Message :=
  { msgtype := mm.msgtype
    addr := mm.addr
    sysTimestampMsg := mm.sysTimestampMsg
    reliable := mm.reliable
    source := mm.source
    altitudeBaro := mm.altitudeBaro
    altitudeGeom := mm.altitudeGeom
    geomDelta := mm.geomDelta }

namespace Aircraft

/-- The lifetime and the altitudes. -/
def altitudes (a : Aircraft) : Track.Aircraft :=
  { addr := a.addr
    seen := a.seen
    messages := a.messages
    reliable := a.reliable
    reliableDF11 := a.reliableDF11
    reliableDF17 := a.reliableDF17
    discarded := a.discarded
    altitudeBaro := Tracked.field (a.data .altitudeBaro)
    altitudeGeom := Tracked.field (a.data .altitudeGeom)
    geomDelta := Tracked.field (a.data .geomDelta) }

variable (site : Site) (a : Aircraft) (mm : Message)

theorem field_update (t : Tracked Int) (report : Option Int) :
    (t.update mm.sysTimestampMsg mm.source report).field =
      t.field.update mm.sysTimestampMsg mm.source report := by
  cases report with
  | none => rfl
  | some value =>
    by_cases h : t.valid.Accepts mm.sysTimestampMsg mm.source
    · rw [Tracked.update_of_accepts h]
      exact (if_pos h).symm
    · rw [Tracked.update_of_not_accepts h]
      exact (if_neg h).symm

theorem altitudes_updateData : (a.updateData mm).altitudes = a.altitudes.acceptFields mm.altitudes := by
  have hbaro := field_update mm (a.data .altitudeBaro)
    (mm.altitudeBaro.map fun alt => Track.altitudeToFeet alt.1 alt.2)
  have hgeom := field_update mm (a.data .altitudeGeom)
    (mm.altitudeGeom.map fun alt => Track.altitudeToFeet alt.1 alt.2)
  have hdelta := field_update mm (a.data .geomDelta) mm.geomDelta
  have hdescribe : ∀ data, ({ a.describe mm with data := data } : Aircraft).altitudes =
      ({ a with data := data } : Aircraft).altitudes := by
    intro data
    simp only [describe, setVersionFor]
    cases mm.source <;> rfl
  have hshape : (a.updateData mm).altitudes =
      ({ a with data := (a.updateData mm).data } : Aircraft).altitudes := hdescribe _
  rw [hshape]
  simp only [altitudes, updateData_data, Track.Aircraft.acceptFields, Track.Aircraft.mk.injEq, true_and]
  exact ⟨hbaro, hgeom, hdelta⟩

theorem altitudes_derive (now : Millis) :
    (a.derive now).altitudes = if a.altitudes.Derives now then a.altitudes.derived else a.altitudes := by
  have hiff : a.altitudes.Derives now ↔ a.Derives now := Iff.rfl
  by_cases h : a.Derives now
  · rw [derive, if_pos h, if_pos (hiff.mpr h)]
    rfl
  · rw [derive, if_neg h, if_neg (hiff.not.mpr h)]

theorem altitudes_updatePosition (version : Int) (cpr : CprReport) :
    (a.updatePosition site version mm cpr).altitudes = a.altitudes := by
  obtain ⟨-, h⟩ | ⟨-, h⟩ := a.updatePosition_cases site version mm cpr
  · rw [h]
    rfl
  · rw [h]
    rfl

/-- A message. -/
theorem altitudes_update : (a.update site mm).altitudes = a.altitudes.update mm.altitudes := by
  by_cases htrust : (a.heard mm).Distrusts mm
  · have htrust' : (a.altitudes.heard mm.altitudes).Distrusts mm.altitudes := htrust
    rw [update, if_pos htrust, Track.Aircraft.update, if_pos htrust']
    rfl
  · have htrust' : ¬ (a.altitudes.heard mm.altitudes).Distrusts mm.altitudes := htrust
    have hbefore : (a.beforePosition mm).altitudes = a.altitudes.update mm.altitudes := by
      rw [beforePosition, altitudes_derive, altitudes_updateData]
      exact (if_neg htrust').symm
    rw [a.update_of_trusts site mm htrust]
    cases (a.heard mm).cprNew mm with
    | none => exact hbefore
    | some cpr => exact (altitudes_updatePosition site _ mm _ cpr).trans hbefore

end Aircraft

theorem updateFirst_altitudes (site : Site) (mm : Message) (aircrafts : List Aircraft) :
    (updateFirst mm.addr (·.update site mm) aircrafts).map Aircraft.altitudes =
      Track.updateFirst mm.addr (·.update mm.altitudes) (aircrafts.map Aircraft.altitudes) := by
  induction aircrafts with
  | nil => rfl
  | cons a rest ih =>
    rw [List.map_cons, updateFirst, Track.updateFirst]
    by_cases h : a.addr = mm.addr
    · have h' : a.altitudes.addr = mm.addr := h
      rw [if_pos h, if_pos h', List.map_cons, Aircraft.altitudes_update]
    · have h' : ¬ a.altitudes.addr = mm.addr := h
      rw [if_neg h, if_neg h', List.map_cons, ih]

/-- **A message to the list.** -/
theorem altitudes_message (site : Site) (aircrafts : List Aircraft) (mm : Message) :
    (trackUpdateFromMessage site aircrafts mm).map Aircraft.altitudes =
      Track.trackUpdateFromMessage (aircrafts.map Aircraft.altitudes) mm.altitudes := by
  have hfind : Track.trackFindAircraft (aircrafts.map Aircraft.altitudes) mm.addr =
      (trackFindAircraft aircrafts mm.addr).map Aircraft.altitudes := by
    rw [Track.trackFindAircraft, trackFindAircraft, List.find?_map]
    rfl
  by_cases htracked : mm.Tracked
  · have htracked' : mm.altitudes.Tracked := htracked
    rw [trackUpdateFromMessage, if_pos htracked, Track.trackUpdateFromMessage, if_pos htracked']
    have haddr : mm.altitudes.addr = mm.addr := rfl
    rw [haddr, hfind]
    cases trackFindAircraft aircrafts mm.addr with
    | none =>
      rw [List.map_cons, Aircraft.altitudes_update]
      rfl
    | some a => exact updateFirst_altitudes site mm aircrafts
  · have htracked' : ¬ mm.altitudes.Tracked := htracked
    rw [trackUpdateFromMessage, if_neg htracked, Track.trackUpdateFromMessage, if_neg htracked']

/-- **A sweep of the list.** -/
theorem altitudes_sweep (now : Millis) (aircrafts : List Aircraft) :
    (trackRemoveStaleAircraft now aircrafts).map Aircraft.altitudes =
      Track.trackRemoveStaleAircraft now (aircrafts.map Aircraft.altitudes) := by
  induction aircrafts with
  | nil => rfl
  | cons a rest ih =>
    rw [trackRemoveStaleAircraft, List.map_cons, Track.trackRemoveStaleAircraft]
    by_cases h : a.Stale now
    · have h' : a.altitudes.Stale now := h
      rw [if_pos h, if_pos h', ih]
    · have h' : ¬ a.altitudes.Stale now := h
      rw [if_neg h, if_neg h', List.map_cons, ih]
      rfl

/-! ### Runs -/

/-- What the altitudes see of a run: its messages, and the sweeps that are due. -/
def sweptEvents : Millis → List Event → List Track.Event
  | _, [] => []
  | nextUpdate, .message mm :: events => .message mm.altitudes :: sweptEvents nextUpdate events
  | nextUpdate, .periodic now :: events =>
    if now ≥ nextUpdate then .sweep now :: sweptEvents (now + 1000) events else sweptEvents nextUpdate events

theorem altitudes_steps (site : Site) (events : List Event) (s : State) :
    (events.foldl (step site) s).aircrafts.map Aircraft.altitudes =
      (sweptEvents s.nextUpdate events).foldl Track.step (s.aircrafts.map Aircraft.altitudes) := by
  induction events generalizing s with
  | nil => rfl
  | cons e events ih =>
    rw [List.foldl_cons, ih]
    cases e with
    | message mm =>
      rw [sweptEvents, List.foldl_cons]
      simp only [step, Track.step]
      rw [altitudes_message]
    | periodic now =>
      rw [sweptEvents]
      by_cases hdue : now ≥ s.nextUpdate
      · rw [if_pos hdue, List.foldl_cons]
        simp only [step, Track.step, trackPeriodicUpdate, if_pos hdue]
        rw [altitudes_sweep]
      · rw [if_neg hdue]
        simp only [step, trackPeriodicUpdate, if_neg hdue]

/-- **A run.** The altitudes of the aircraft after it are those that the altitudes by themselves have. -/
theorem altitudes_run (site : Site) (events : List Event) :
    (run site events).aircrafts.map Aircraft.altitudes = Track.track (sweptEvents 0 events) :=
  altitudes_steps site events ⟨[], 0⟩

/-- What a message derives after a run is in the list that the run has with the message. -/
theorem derived_run (site : Site) (events : List Event) (mm : Message) {a : Track.Aircraft}
    (h : Track.derivation (Track.track (sweptEvents 0 events)) mm.altitudes = some a) :
    a.derived ∈ (run site (events ++ [.message mm])).aircrafts.map Aircraft.altitudes := by
  rw [run, List.foldl_append]
  have hmessage := altitudes_message site (run site events).aircrafts mm
  rw [altitudes_run] at hmessage
  exact hmessage ▸ Track.derived_mem h

end RbFeeder.Tracker
