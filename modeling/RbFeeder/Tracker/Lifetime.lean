import RbFeeder.Tracker.Data

/-! The list of aircraft over a run.

No address is in the list twice. A sweep is exact if it removes the aircraft that were
silent for too long, by whole numbers, and expires data of the others. The code compares
an unsigned difference, and message times can be ahead of the sweep's clock; a record
that was heard after the sweep time then seems to be silent for almost `2 ^ 64`
milliseconds. **Main theorem:** `sweep_exact_iff`. -/
namespace RbFeeder.Tracker
open Track (Millis Source trackAircraftTTL trackAircraftUnreliableTTL)

namespace Aircraft
variable (site : Site) (a : Aircraft) (mm : Message)

/-! ### Addresses -/

theorem describe_addr : (a.describe mm).addr = a.addr := by
  simp only [describe, setVersionFor]
  cases mm.source <;> rfl

theorem discardCpr_addr : a.discardCpr.addr = a.addr := rfl

theorem takePosition_addr (position : Option Position) : (a.takePosition mm position).addr = a.addr := rfl

theorem beforePosition_addr : (a.beforePosition mm).addr = a.addr := by
  have hdata : ((a.heard mm).updateData mm).addr = a.addr := (a.heard mm).describe_addr mm
  rw [beforePosition, derive]
  split
  · exact hdata
  · exact hdata

theorem updatePosition_addr (version : Int) (cpr : CprReport) :
    (a.updatePosition site version mm cpr).addr = a.addr := by
  obtain ⟨-, h⟩ | ⟨-, h⟩ := a.updatePosition_cases site version mm cpr
  · rw [h, discardCpr_addr]
  · rw [h, takePosition_addr]

/-- A message leaves the address. -/
theorem update_addr : (a.update site mm).addr = a.addr := by
  by_cases htrust : (a.heard mm).Distrusts mm
  · rw [update, if_pos htrust]
    rfl
  · rw [a.update_of_trusts site mm htrust]
    cases (a.heard mm).cprNew mm with
    | none => exact a.beforePosition_addr mm
    | some cpr =>
      simp only
      rw [updatePosition_addr, beforePosition_addr]

end Aircraft

theorem updateFirst_addr {addr : BitVec 32} {f : Aircraft → Aircraft} (hf : ∀ a, (f a).addr = a.addr)
    (aircrafts : List Aircraft) :
    (updateFirst addr f aircrafts).map Aircraft.addr = aircrafts.map Aircraft.addr := by
  induction aircrafts with
  | nil => rfl
  | cons a rest ih =>
    rw [updateFirst]
    split
    · rw [List.map_cons, List.map_cons, hf]
    · rw [List.map_cons, List.map_cons, ih]

/-- What a sweep leaves. -/
theorem trackRemoveStaleAircraft_eq (now : Millis) (aircrafts : List Aircraft) :
    trackRemoveStaleAircraft now aircrafts =
      (aircrafts.filter fun a => ¬ a.Stale now).map (Aircraft.expire now) := by
  induction aircrafts with
  | nil => rfl
  | cons a rest ih =>
    rw [trackRemoveStaleAircraft, List.filter_cons]
    by_cases h : a.Stale now
    · rw [if_pos h, if_neg (by simpa using h), ih]
    · rw [if_neg h, if_pos (by simpa using h), List.map_cons, ih]

/-- No address is in the list twice. -/
def DistinctAddresses (aircrafts : List Aircraft) : Prop := (aircrafts.map Aircraft.addr).Nodup

theorem distinct_message (site : Site) {aircrafts : List Aircraft} (h : DistinctAddresses aircrafts)
    (mm : Message) : DistinctAddresses (trackUpdateFromMessage site aircrafts mm) := by
  unfold DistinctAddresses trackUpdateFromMessage
  split
  · split
    · next hfind =>
      rw [List.map_cons, Aircraft.update_addr]
      refine List.nodup_cons.mpr ⟨fun hmem => ?_, h⟩
      obtain ⟨a, ha, haddr⟩ := List.mem_map.mp hmem
      have hnone := List.find?_eq_none.mp hfind a ha
      exact hnone (decide_eq_true haddr)
    · rw [updateFirst_addr fun a => a.update_addr site mm]
      exact h
  · exact h

theorem distinct_sweep {aircrafts : List Aircraft} (h : DistinctAddresses aircrafts) (now : Millis) :
    DistinctAddresses (trackRemoveStaleAircraft now aircrafts) := by
  have haddr : ((aircrafts.filter fun a => ¬ a.Stale now).map (Aircraft.expire now)).map Aircraft.addr =
      (aircrafts.filter fun a => ¬ a.Stale now).map Aircraft.addr := by
    rw [List.map_map]
    rfl
  rw [DistinctAddresses, trackRemoveStaleAircraft_eq, haddr]
  exact h.sublist (List.filter_sublist.map Aircraft.addr)

theorem distinct_step (site : Site) {s : State} (h : DistinctAddresses s.aircrafts) (e : Event) :
    DistinctAddresses (step site s e).aircrafts := by
  cases e with
  | message mm => exact distinct_message site h mm
  | periodic now =>
    rw [step, trackPeriodicUpdate]
    split
    · exact distinct_sweep h now
    · exact h

/-- No run puts an address in the list twice. -/
theorem distinct_run (site : Site) (events : List Event) :
    DistinctAddresses (run site events).aircrafts := by
  have hfold : ∀ s : State, DistinctAddresses s.aircrafts →
      DistinctAddresses (events.foldl (step site) s).aircrafts := by
    induction events with
    | nil => exact fun s h => h
    | cons e rest ih => exact fun s h => ih _ (distinct_step site h e)
  exact hfold ⟨[], 0⟩ List.nodup_nil

/-! ### The sweep -/

namespace Aircraft

/-- How long an aircraft may be silent, in milliseconds. -/
def ttl (a : Aircraft) : Nat :=
  if a.reliable then trackAircraftTTL.toNat else trackAircraftUnreliableTTL.toNat

/-- The last message is more than the time to live before `now`. -/
def Silent (now : Millis) (a : Aircraft) : Prop := a.seen.toNat + a.ttl < now.toNat

instance (now : Millis) (a : Aircraft) : Decidable (a.Silent now) := inferInstanceAs (Decidable (_ < _))

/-- `a'` is `a` with the sources of expired fields taken away. -/
structure Swept (now : Millis) (a a' : Aircraft) : Prop where
  same : a' = { a with data := a'.data }
  value : ∀ f, (a'.data f).value = (a.data f).value
  valid : ∀ f, (a'.data f).valid =
    if (a.data f).valid.source ≠ .invalid ∧ (a.data f).valid.expires ≤ now then
      { (a.data f).valid with source := .invalid }
    else (a.data f).valid

theorem swept_expire (now : Millis) (a : Aircraft) : Swept now a (a.expire now) :=
  ⟨rfl, fun _ => rfl, fun _ => rfl⟩

/-- The last message is after `now`, by less than the age wraps around to. -/
def Ahead (now : Millis) (a : Aircraft) : Prop :=
  now.toNat < a.seen.toNat ∧ a.seen.toNat + a.ttl < now.toNat + 2 ^ 64

theorem stale_iff_age (now : Millis) (a : Aircraft) : a.Stale now ↔ a.ttl < (now - a.seen).toNat := by
  have hlong : now - a.seen > trackAircraftTTL ↔ 300000 < (now - a.seen).toNat := Iff.rfl
  have hshort : now - a.seen > trackAircraftUnreliableTTL ↔ 60000 < (now - a.seen).toNat := Iff.rfl
  rw [Stale, ttl, hlong, hshort]
  cases a.reliable with
  | true => exact ⟨fun h => h.resolve_right (fun h => nomatch h.1), Or.inl⟩
  | false =>
    have hifs : (if false = true then trackAircraftTTL.toNat else trackAircraftUnreliableTTL.toNat) = 60000 :=
      rfl
    rw [hifs]
    exact ⟨fun h => h.elim (by omega) (·.2), fun h => Or.inr ⟨rfl, h⟩⟩

/-- What the sweep removes: the silent aircraft, and those that are ahead of it. -/
theorem stale_iff (now : Millis) (a : Aircraft) : a.Stale now ↔ a.Silent now ∨ a.Ahead now := by
  have hnow : now.toNat < 2 ^ 64 := now.isLt
  have hseen : a.seen.toNat < 2 ^ 64 := a.seen.isLt
  rw [stale_iff_age, BitVec.toNat_sub]
  unfold Silent Ahead
  omega

theorem not_silent_of_ahead {now : Millis} {a : Aircraft} (h : a.Ahead now) : ¬ a.Silent now := by
  have hlt := h.1
  unfold Silent
  omega

end Aircraft

/-- A sweep as it should be: exactly the silent aircraft are gone, and the others are
kept in order, with the data expired. -/
def SweepExact (now : Millis) (aircrafts swept : List Aircraft) : Prop :=
  List.Forall₂ (Aircraft.Swept now) (aircrafts.filter fun a => ¬ a.Silent now) swept

/-- When one sweep is exact. -/
theorem sweepExact_iff (now : Millis) (aircrafts : List Aircraft) :
    SweepExact now aircrafts (trackRemoveStaleAircraft now aircrafts) ↔
      ∀ a ∈ aircrafts, ¬ a.Ahead now := by
  rw [SweepExact, trackRemoveStaleAircraft_eq]
  have hnested : (aircrafts.filter fun a => ¬ a.Stale now) =
      (aircrafts.filter fun a => ¬ a.Silent now).filter fun a => ¬ a.Stale now := by
    rw [List.filter_filter]
    refine List.filter_congr fun a _ => ?_
    by_cases hstale : a.Stale now
    · rw [decide_eq_false (not_not.mpr hstale), Bool.false_and]
    · have hsilent : ¬ a.Silent now := fun h => hstale ((a.stale_iff now).mpr (Or.inl h))
      rw [decide_eq_true hstale, decide_eq_true hsilent, Bool.and_self]
  constructor
  · intro h a ha hahead
    have hlength := h.length_eq
    rw [List.length_map, hnested] at hlength
    have hkept := List.length_filter_eq_length_iff.mp hlength.symm a
      (List.mem_filter.mpr ⟨ha, decide_eq_true (Aircraft.not_silent_of_ahead hahead)⟩)
    exact (of_decide_eq_true hkept) ((a.stale_iff now).mpr (Or.inr hahead))
  · intro h
    have hsame : (aircrafts.filter fun a => ¬ a.Stale now) =
        aircrafts.filter fun a => ¬ a.Silent now := by
      refine List.filter_congr fun a ha => ?_
      simp only [a.stale_iff now, h a ha, or_false]
    rw [hsame, List.forall₂_map_right_iff]
    exact List.forall₂_same.mpr fun a _ => Aircraft.swept_expire now a

/-- **Main theorem.** The list holds no address twice, after any run; a sweep of it is
exact if and only if no aircraft in it was heard after the sweep time. -/
theorem sweep_exact_iff (site : Site) (events : List Event) :
    DistinctAddresses (run site events).aircrafts ∧
      ∀ now, SweepExact now (run site events).aircrafts
          (trackRemoveStaleAircraft now (run site events).aircrafts) ↔
        ∀ a ∈ (run site events).aircrafts, ¬ a.Ahead now :=
  ⟨distinct_run site events, fun now => sweepExact_iff now _⟩

/-- A reliable squitter received at `t`. -/
def squitterAt (t : Millis) : Message :=
  { msgtype := 17
    addr := 0x4840d6
    sysTimestampMsg := t
    reliable := true
    source := .adsb
    source_ne := adsb_ne_invalid }

/-- A message one millisecond ahead of the sweep: its aircraft is removed. -/
theorem sweep_removes_present :
    ¬ SweepExact 5000 (run { libm := sampleLibm } [.message (squitterAt 5001)]).aircrafts
      (trackRemoveStaleAircraft 5000
        (run { libm := sampleLibm } [.message (squitterAt 5001)]).aircrafts) := by
  intro h
  have hlength := h.length_eq
  revert hlength
  decide

end RbFeeder.Tracker
