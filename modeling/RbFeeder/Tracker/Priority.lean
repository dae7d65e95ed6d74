import RbFeeder.Tracker.Data

/-! Which source a field listens to.

Over any run of messages and sweeps of one aircraft, a field is updated at later and
later times, from the message at hand, and fresh data does not give way to a source of
lower rank. Only global CPR bends this: when it fails, it takes the source of the two CPR
messages and of the position away. It cannot do so to a fresh position of a better source
as long as messages come in the order of their times: then the CPR message that the
position was made of is as fresh, and no lower source can have replaced it.
**Main theorem:** `source_priority`. -/
namespace RbFeeder.Tracker
open Track (Millis Source DataValidity)

/-- What happens to one aircraft: a message from it, or a sweep that it survives. -/
inductive Contact
  | message (mm : Message)
  | sweep (now : Millis)

namespace Aircraft

/-- One message or sweep. -/
def contact (site : Site) (a : Aircraft) : Contact → Aircraft
  | .message mm => a.update site mm
  | .sweep now => a.expire now

/-- The aircraft that `first` creates, after some messages and sweeps. -/
def history (site : Site) (first : Message) (contacts : List Contact) : Aircraft :=
  contacts.foldl (contact site) ((trackCreateAircraft first).update site first)

end Aircraft

/-! ### One step -/

namespace Tracked
variable {α : Type} {mm : Message}

/-- A field is updated at later and later times. -/
theorem updated_le (t : Tracked α) (report : Option α) :
    t.valid.updated ≤ (t.update mm.sysTimestampMsg mm.source report).valid.updated := by
  obtain h | ⟨value, rfl, haccepts, h⟩ := t.update_cases _ _ report
  · rw [h]
    exact BitVec.le_refl _
  · rw [h]
    exact BitVec.not_lt.mp haccepts.1

/-- A value that changes is the one reported, and so is the source. -/
theorem reported_of_ne {t : Tracked α} {report : Option α}
    (h : (t.update mm.sysTimestampMsg mm.source report).value ≠ t.value) :
    report = some (t.update mm.sysTimestampMsg mm.source report).value ∧
      (t.update mm.sysTimestampMsg mm.source report).valid.source = mm.source := by
  obtain hkept | ⟨value, rfl, -, htaken⟩ := t.update_cases _ _ report
  · exact absurd (by rw [hkept]) h
  · rw [htaken]
    exact ⟨rfl, rfl⟩

/-- Fresh data does not give way to a source of lower rank. -/
theorem update_of_lower {t : Tracked α} (hfresh : mm.sysTimestampMsg < t.valid.stale)
    (hrank : mm.source.rank < t.valid.source.rank) (report : Option α) :
    t.update mm.sysTimestampMsg mm.source report = t :=
  update_of_not_accepts (fun h => h.2 ⟨hrank, hfresh⟩) report

/-- A message takes no source away. -/
theorem source_update_ne {t : Tracked α} (h : t.valid.source ≠ .invalid) (report : Option α) :
    (t.update mm.sysTimestampMsg mm.source report).valid.source ≠ .invalid := by
  obtain hkept | ⟨value, rfl, -, htaken⟩ := t.update_cases _ _ report
  · rw [hkept]
    exact h
  · rw [htaken]
    exact mm.source_ne

end Tracked

namespace Aircraft
variable {site : Site} {a : Aircraft} {mm : Message} {cpr : CprReport}

theorem cprOf_odd (now : Millis) (b : Aircraft) (hcpr : mm.cpr = some cpr) :
    b.cprOf now mm cpr.odd = some (b.cprData now mm cpr) := by
  rw [cprOf, hcpr]
  exact if_pos rfl

/-- A CPR message is reported where it is kept. -/
theorem reported_datum (b : Aircraft) (version : Int) (hcpr : mm.cpr = some cpr) :
    ∃ value, b.reported mm version cpr.datum = some value := by
  have hcprOf := cprOf_odd mm.sysTimestampMsg b hcpr
  unfold CprReport.datum
  cases hodd : cpr.odd with
  | true =>
    rw [hodd] at hcprOf
    exact ⟨_, hcprOf⟩
  | false =>
    rw [hodd] at hcprOf
    exact ⟨_, hcprOf⟩

theorem datum_cases (cpr : CprReport) : cpr.datum = .cprOdd ∨ cpr.datum = .cprEven := by
  unfold CprReport.datum
  cases cpr.odd with
  | true => exact Or.inl rfl
  | false => exact Or.inr rfl

/-- The CPR message that `updatePosition` is called for has just been taken. -/
theorem taken_of_cprNew (h : (a.heard mm).cprNew mm = some cpr) :
    (a.data cpr.datum).valid.Accepts mm.sysTimestampMsg mm.source ∧
      ∃ value, ((a.heard mm).describe mm).reported mm ((a.heard mm).version mm) cpr.datum = some value := by
  unfold cprNew at h
  split at h
  · next cpr' hcpr =>
    split at h
    · next haccepts =>
      obtain rfl := Option.some.inj h
      exact ⟨haccepts, reported_datum _ _ hcpr⟩
    · cases h
  · cases h

/-- Global CPR fails on two messages of the source of the last one. -/
theorem sources_of_cprFails (h : a.CprFails site mm) :
    ((a.beforePosition mm).data .cprOdd).valid.source = mm.source ∧
      ((a.beforePosition mm).data .cprEven).valid.source = mm.source := by
  obtain ⟨htrust, cpr, hnew, hfails⟩ := h
  obtain ⟨haccepts, value, hreport⟩ := taken_of_cprNew hnew
  have hdatum : cpr.datum ≠ .altitudeGeom := by
    obtain h | h := datum_cases cpr <;> rw [h] <;> decide
  have htaken : ((a.beforePosition mm).data cpr.datum).valid.source = mm.source := by
    rw [a.beforePosition_data mm htrust (fun h => absurd h hdatum), hreport,
      Tracked.update_of_accepts haccepts]
    rfl
  have hpaired : (a.beforePosition mm).Paired ((a.heard mm).version mm) mm cpr := by
    by_contra hunpaired
    rw [GlobalFails, globalResult, if_neg hunpaired] at hfails
    exact absurd (Except.error.inj hfails) (by decide)
  have hsame := hpaired.2.2.1
  obtain hdatum | hdatum := datum_cases cpr
  · rw [hdatum] at htaken
    exact ⟨htaken, hsame ▸ htaken⟩
  · rw [hdatum] at htaken
    exact ⟨hsame.trans htaken, htaken⟩

/-- A fresh CPR message of a better source keeps global CPR from failing. -/
theorem not_cprFails_of_fresh {f : Datum} (hf : f = .cprOdd ∨ f = .cprEven)
    (hfresh : mm.sysTimestampMsg < (a.data f).valid.stale)
    (hrank : mm.source.rank < (a.data f).valid.source.rank) : ¬ a.CprFails site mm := by
  intro hfails
  have hgeom : f ≠ .altitudeGeom := by
    obtain rfl | rfl := hf <;> decide
  have hkept : (a.beforePosition mm).data f = a.data f := by
    rw [a.beforePosition_data mm hfails.1 (fun h => absurd h hgeom),
      Tracked.update_of_lower hfresh hrank]
  have hsource : ((a.beforePosition mm).data f).valid.source = mm.source := by
    obtain rfl | rfl := hf
    · exact (sources_of_cprFails hfails).1
    · exact (sources_of_cprFails hfails).2
  rw [hkept] at hsource
  rw [hsource] at hrank
  exact lt_irrefl _ hrank

end Aircraft

/-- What a message may do to a field. -/
structure Respects (site : Site) (a : Aircraft) (mm : Message) (f : Datum) : Prop where
  updated : (a.data f).valid.updated ≤ ((a.update site mm).data f).valid.updated
  value : ((a.update site mm).data f).value ≠ (a.data f).value →
    a.carried site mm f = some ((a.update site mm).data f).value ∧
      (((a.update site mm).data f).valid.source = mm.source ∨
        (a.CprFails site mm ∧ f.OfCpr ∧ ((a.update site mm).data f).valid.source = .invalid))
  priority : mm.sysTimestampMsg < (a.data f).valid.stale →
    mm.source.rank < (a.data f).valid.source.rank →
      (a.update site mm).data f = a.data f ∨
        (a.CprFails site mm ∧ f = .position ∧ (a.update site mm).data f = (a.data f).invalidate)
  source : (a.data f).valid.source ≠ .invalid → ((a.update site mm).data f).valid.source = .invalid →
    a.CprFails site mm ∧ f.OfCpr

/-- What a sweep may do to a field. -/
structure Expires (now : Millis) {α : Type} (t t' : Tracked α) : Prop where
  value : t'.value = t.value
  valid : t'.valid = t.valid ∨
    (t.valid.source ≠ .invalid ∧ t.valid.expires ≤ now ∧ t'.valid = { t.valid with source := .invalid })

namespace Aircraft
variable (site : Site) (a : Aircraft)

/-- A message respects the fields. -/
theorem update_respects (mm : Message) {f : Datum} (hgeom : f = .altitudeGeom → ¬ a.Overwrites mm) :
    Respects site a mm f := by
  obtain ⟨hfails, hcpr, h⟩ | ⟨-, h⟩ := a.update_data site mm hgeom
  · refine ⟨?_, fun hne => ?_, fun hfresh hrank => ?_, fun _ _ => ⟨hfails, hcpr⟩⟩
    · rw [h]
      exact Tracked.updated_le _ _
    · rw [h] at hne ⊢
      exact ⟨(Tracked.reported_of_ne hne).1, Or.inr ⟨hfails, hcpr, rfl⟩⟩
    · have hposition : f = .position := by
        obtain hf | hf | hf := hcpr
        · exact absurd hfails (not_cprFails_of_fresh (Or.inl hf) hfresh hrank)
        · exact absurd hfails (not_cprFails_of_fresh (Or.inr hf) hfresh hrank)
        · exact hf
      refine Or.inr ⟨hfails, hposition, ?_⟩
      rw [h, Tracked.update_of_lower hfresh hrank]
  · refine ⟨?_, fun hne => ?_, fun hfresh hrank => Or.inl ?_, fun hne heq => ?_⟩
    · rw [h]
      exact Tracked.updated_le _ _
    · rw [h] at hne ⊢
      exact ⟨(Tracked.reported_of_ne hne).1, Or.inl (Tracked.reported_of_ne hne).2⟩
    · rw [h, Tracked.update_of_lower hfresh hrank]
    · rw [h] at heq
      exact absurd heq (Tracked.source_update_ne hne _)

/-- A sweep expires the fields. -/
theorem expire_expires (now : Millis) (f : Datum) :
    Expires now (a.data f) ((a.expire now).data f) := by
  refine ⟨rfl, ?_⟩
  by_cases h : (a.data f).valid.source ≠ .invalid ∧ now ≥ (a.data f).valid.expires
  · exact Or.inr ⟨h.1, h.2, if_pos h⟩
  · exact Or.inl (if_neg h)

end Aircraft
/-! ### Messages in order -/

/-- The times of the messages. -/
def messageTimes : List Contact → List Millis
  | [] => []
  | .message mm :: rest => mm.sysTimestampMsg :: messageTimes rest
  | .sweep _ :: rest => messageTimes rest

/-- Times in order, none of them so late that it wraps around when the intervals of
validity are added. -/
def InOrder (times : List Millis) : Prop :=
  times.Pairwise (· ≤ ·) ∧ ∀ t ∈ times, t.toNat + 70000 < 2 ^ 64

/-- A CPR message is as good as the position, and stays so for as long. -/
structure Guards (g position : DataValidity) : Prop where
  rank : position.source.rank ≤ g.source.rank
  stale : position.stale ≤ g.stale
  expires : position.expires ≤ g.expires

/-- The last message was at `last`: a position that is still fresh has a CPR message as
good as it is. -/
structure Aircraft.Guarded (last : Millis) (a : Aircraft) : Prop where
  intervals : ∀ f : Datum, f.OfCpr →
    (a.data f).valid.staleInterval = 60000 ∧ (a.data f).valid.expireInterval = 70000
  stale_le : (a.data .position).valid.stale.toNat ≤ last.toNat + 60000
  expires_le : (a.data .position).valid.expires.toNat ≤ last.toNat + 70000
  guard : (a.data .position).valid.source ≠ .invalid → last < (a.data .position).valid.stale →
    ∃ f : Datum, (f = .cprOdd ∨ f = .cprEven) ∧ Guards (a.data f).valid (a.data .position).valid

namespace Tracked
variable {α : Type} {now : Millis} (source : Source)

/-- A value with the intervals of CPR data, accepted at `now`. -/
theorem accept_times {d : DataValidity} (h : d.staleInterval = 60000 ∧ d.expireInterval = 70000)
    (hnow : now.toNat + 70000 < 2 ^ 64) :
    (d.accept now source).stale.toNat = now.toNat + 60000 ∧
      (d.accept now source).expires.toNat = now.toNat + 70000 := by
  have hstale : (d.accept now source).stale = now + 60000 := by
    rw [DataValidity.accept, h.1]
    rfl
  have hexpires : (d.accept now source).expires = now + 70000 := by
    rw [DataValidity.accept, h.2]
    rfl
  have hsixty : (60000 : Millis).toNat = 60000 := rfl
  have hseventy : (70000 : Millis).toNat = 70000 := rfl
  rw [hstale, hexpires, BitVec.toNat_add, BitVec.toNat_add, hsixty, hseventy]
  exact ⟨Nat.mod_eq_of_lt (by omega), Nat.mod_eq_of_lt hnow⟩

theorem update_intervals (now : Millis) (t : Tracked α) (report : Option α) :
    (t.update now source report).valid.staleInterval = t.valid.staleInterval ∧
      (t.update now source report).valid.expireInterval = t.valid.expireInterval := by
  obtain h | ⟨value, -, -, h⟩ := t.update_cases _ _ report
  · rw [h]
    exact ⟨rfl, rfl⟩
  · rw [h]
    exact ⟨rfl, rfl⟩

end Tracked

namespace Aircraft
variable {site : Site} {a : Aircraft} {mm : Message} {last : Millis}

theorem guarded_create (mm : Message) : (trackCreateAircraft mm).Guarded 0 where
  intervals f hf := by
    obtain rfl | rfl | rfl := hf <;> exact ⟨rfl, rfl⟩
  stale_le := Nat.zero_le _
  expires_le := Nat.zero_le _
  guard h := absurd rfl h

/-- The intervals of CPR data stay. -/
theorem intervals_update (h : a.Guarded last) (site : Site) (mm : Message) (f : Datum) (hf : f.OfCpr) :
    ((a.update site mm).data f).valid.staleInterval = 60000 ∧
      ((a.update site mm).data f).valid.expireInterval = 70000 := by
  have hgeom : f = .altitudeGeom → ¬ a.Overwrites mm := by
    obtain rfl | rfl | rfl := hf <;> exact fun h => nomatch h
  have hkept := Tracked.update_intervals mm.source mm.sysTimestampMsg (a.data f)
    (a.carried site mm f)
  rw [(h.intervals f hf).1, (h.intervals f hf).2] at hkept
  obtain ⟨-, -, hdata⟩ | ⟨-, hdata⟩ := a.update_data site mm hgeom
  · rw [hdata]
    exact hkept
  · rw [hdata]
    exact hkept

/-- A position taken from a message is guarded by the CPR message in it. -/
theorem guards_taken (h : a.Guarded last) (htrust : ¬ (a.heard mm).Distrusts mm)
    (hnow : mm.sysTimestampMsg.toNat + 70000 < 2 ^ 64) (hfails : ¬ a.CprFails site mm) {position : Position}
    (hcarried : a.carried site mm .position = some position)
    (hposition : (a.update site mm).data .position =
      ⟨(a.data .position).valid.accept mm.sysTimestampMsg mm.source, position⟩) :
    ∃ f : Datum, (f = .cprOdd ∨ f = .cprEven) ∧
      Guards ((a.update site mm).data f).valid ((a.update site mm).data .position).valid := by
  rw [a.carried_position site mm htrust, positionOf] at hcarried
  cases hnew : (a.heard mm).cprNew mm with
  | none =>
    rw [hnew] at hcarried
    cases hcarried
  | some cpr =>
    obtain ⟨haccepts, value, hreport⟩ := taken_of_cprNew hnew
    have hcpr : cpr.datum = .cprOdd ∨ cpr.datum = .cprEven := datum_cases cpr
    have hof : cpr.datum.OfCpr := hcpr.elim Or.inl fun h => Or.inr (Or.inl h)
    have hne : cpr.datum ≠ .position := by
      obtain h | h := hcpr <;> rw [h] <;> decide
    have hgeom : cpr.datum ≠ .altitudeGeom := by
      obtain h | h := hcpr <;> rw [h] <;> decide
    have htaken : (a.update site mm).data cpr.datum =
        ⟨(a.data cpr.datum).valid.accept mm.sysTimestampMsg mm.source, value⟩ := by
      obtain ⟨hbad, -⟩ | ⟨-, hdata⟩ := a.update_data site mm (fun h => absurd h hgeom)
      · exact absurd hbad hfails
      · rw [hdata, a.carried_of_ne site mm htrust hne, hreport, Tracked.update_of_accepts haccepts]
    have htimes := Tracked.accept_times mm.source (h.intervals cpr.datum hof) hnow
    have htimes' := Tracked.accept_times mm.source
      (h.intervals .position (Or.inr (Or.inr rfl))) hnow
    refine ⟨cpr.datum, hcpr, ?_⟩
    rw [htaken, hposition]
    exact ⟨le_refl _, (htimes'.1.trans htimes.1.symm).le, (htimes'.2.trans htimes.2.symm).le⟩

/-- A CPR message that is as good as a fresh position guards it after the next message. -/
theorem guards_kept {f : Datum} (h : a.Guarded last) (hlast : last ≤ mm.sysTimestampMsg)
    (hnow : mm.sysTimestampMsg.toNat + 70000 < 2 ^ 64) (hf : f = .cprOdd ∨ f = .cprEven)
    (hfails : ¬ a.CprFails site mm) (hfresh : mm.sysTimestampMsg < (a.data .position).valid.stale)
    (hguards : Guards (a.data f).valid (a.data .position).valid) :
    Guards ((a.update site mm).data f).valid (a.data .position).valid := by
  have hof : f.OfCpr := hf.elim Or.inl fun h => Or.inr (Or.inl h)
  have hgeom : f ≠ .altitudeGeom := by
    obtain rfl | rfl := hf <;> decide
  obtain ⟨hbad, -⟩ | ⟨-, hdata⟩ := a.update_data site mm (fun h => absurd h hgeom)
  · exact absurd hbad hfails
  rw [hdata]
  obtain hkept | ⟨value, -, haccepts, htaken⟩ :=
    (a.data f).update_cases mm.sysTimestampMsg mm.source (a.carried site mm f)
  · rw [hkept]
    exact hguards
  · rw [htaken]
    have htimes := Tracked.accept_times mm.source (h.intervals f hof) hnow
    have hle : last.toNat ≤ mm.sysTimestampMsg.toNat := hlast
    have hstale := h.stale_le
    have hexpires := h.expires_le
    have hrank : ¬ mm.source.rank < (a.data f).valid.source.rank := fun hlower =>
      haccepts.2 ⟨hlower, Nat.lt_of_lt_of_le hfresh hguards.stale⟩
    refine ⟨hguards.rank.trans (not_lt.mp hrank), ?_, ?_⟩
    · show (a.data .position).valid.stale.toNat ≤ (DataValidity.accept _ _ _).stale.toNat
      rw [htimes.1]
      omega
    · show (a.data .position).valid.expires.toNat ≤ (DataValidity.accept _ _ _).expires.toNat
      rw [htimes.2]
      omega

/-- A position goes stale and expires at most as long after the message as CPR data do. -/
theorem bounds_update (h : a.Guarded last) (site : Site) (hlast : last ≤ mm.sysTimestampMsg)
    (hnow : mm.sysTimestampMsg.toNat + 70000 < 2 ^ 64) :
    ((a.update site mm).data .position).valid.stale.toNat ≤ mm.sysTimestampMsg.toNat + 60000 ∧
      ((a.update site mm).data .position).valid.expires.toNat ≤ mm.sysTimestampMsg.toNat + 70000 := by
  have hle : last.toNat ≤ mm.sysTimestampMsg.toNat := hlast
  have hkept : (a.data .position).valid.stale.toNat ≤ mm.sysTimestampMsg.toNat + 60000 ∧
      (a.data .position).valid.expires.toNat ≤ mm.sysTimestampMsg.toNat + 70000 :=
    ⟨h.stale_le.trans (by omega), h.expires_le.trans (by omega)⟩
  have hupdate : ((a.data .position).update mm.sysTimestampMsg mm.source
        (a.carried site mm .position)).valid.stale.toNat ≤ mm.sysTimestampMsg.toNat + 60000 ∧
      ((a.data .position).update mm.sysTimestampMsg mm.source
        (a.carried site mm .position)).valid.expires.toNat ≤ mm.sysTimestampMsg.toNat + 70000 := by
    obtain hsame | ⟨position, -, -, htaken⟩ := (a.data .position).update_cases mm.sysTimestampMsg mm.source
      (a.carried site mm .position)
    · rw [hsame]
      exact hkept
    · have htimes := Tracked.accept_times mm.source (h.intervals .position (Or.inr (Or.inr rfl))) hnow
      rw [htaken]
      exact ⟨htimes.1.le, htimes.2.le⟩
  by_cases htrust : (a.heard mm).Distrusts mm
  · rw [a.update_of_distrusts site mm htrust]
    exact hkept
  obtain ⟨-, -, hdata⟩ | ⟨-, hdata⟩ := a.update_data site mm (f := .position) (fun h => nomatch h)
  · rw [hdata]
    exact hupdate
  · rw [hdata]
    exact hupdate

/-- A message keeps the position guarded. -/
theorem Guarded.message (h : a.Guarded last) (site : Site) (hlast : last ≤ mm.sysTimestampMsg)
    (hnow : mm.sysTimestampMsg.toNat + 70000 < 2 ^ 64) :
    (a.update site mm).Guarded mm.sysTimestampMsg := by
  obtain ⟨hstale, hexpires⟩ := bounds_update h site hlast hnow
  refine ⟨intervals_update h site mm, hstale, hexpires, fun hsource hfresh => ?_⟩
  by_cases htrust : (a.heard mm).Distrusts mm
  · rw [a.update_of_distrusts site mm htrust] at hsource hfresh ⊢
    exact h.guard hsource (Nat.lt_of_le_of_lt hlast hfresh)
  obtain ⟨hfails, -, hdata⟩ | ⟨hnone, hdata⟩ :=
    a.update_data site mm (f := .position) (fun h => nomatch h)
  · refine absurd ?_ hsource
    rw [hdata]
    rfl
  · have hfails : ¬ a.CprFails site mm := fun hfails => hnone ⟨hfails, Or.inr (Or.inr rfl)⟩
    obtain hkept | ⟨position, hcarried, -, htaken⟩ := (a.data .position).update_cases
      mm.sysTimestampMsg mm.source (a.carried site mm .position)
    · rw [hkept] at hdata
      rw [hdata] at hsource hfresh ⊢
      obtain ⟨f, hf, hguards⟩ := h.guard hsource (Nat.lt_of_le_of_lt hlast hfresh)
      exact ⟨f, hf, guards_kept h hlast hnow hf hfails hfresh hguards⟩
    · rw [htaken] at hdata
      exact guards_taken h htrust hnow hfails hcarried hdata

/-- A sweep keeps the position guarded. -/
theorem Guarded.sweep (h : a.Guarded last) (now : Millis) : (a.expire now).Guarded last := by
  have hsame : ∀ f, (((a.expire now).data f).valid = (a.data f).valid) ∨
      ((a.expire now).data f).valid = { (a.data f).valid with source := .invalid } := by
    intro f
    exact (a.expire_expires now f).valid.imp id fun h => h.2.2
  refine ⟨fun f hf => ?_, ?_, ?_, fun hsource hfresh => ?_⟩
  · obtain hf' | hf' := hsame f <;> rw [hf'] <;> exact h.intervals f hf
  · obtain hf' | hf' := hsame .position <;> rw [hf'] <;> exact h.stale_le
  · obtain hf' | hf' := hsame .position <;> rw [hf'] <;> exact h.expires_le
  obtain hposition | ⟨-, -, hposition⟩ := (a.expire_expires now .position).valid
  · rw [hposition] at hsource hfresh
    obtain ⟨f, hf, hguards⟩ := h.guard hsource hfresh
    refine ⟨f, hf, ?_⟩
    obtain hkept | ⟨-, hexpired, -⟩ := (a.expire_expires now f).valid
    · rw [hposition, hkept]
      exact hguards
    · have hgone : ((a.expire now).data .position).valid.source = .invalid := by
        have hlate : now ≥ (a.data .position).valid.expires := BitVec.le_trans hguards.expires hexpired
        rw [expire_data, Tracked.expire, DataValidity.expire, if_pos ⟨hsource, hlate⟩]
      rw [hposition] at hgone
      exact absurd hgone hsource
  · rw [hposition] at hsource
    exact absurd rfl hsource

/-- Along a run in order, the position is guarded when a message comes at `t`. -/
theorem guarded_run (site : Site) (contacts : List Contact) {a : Aircraft} {last t : Millis}
    (h : a.Guarded last) (horder : InOrder (last :: (messageTimes contacts ++ [t]))) :
    ∃ last', last' ≤ t ∧ (contacts.foldl (contact site) a).Guarded last' := by
  induction contacts generalizing a last with
  | nil => exact ⟨last, List.rel_of_pairwise_cons horder.1 List.mem_cons_self, h⟩
  | cons c rest ih =>
    cases c with
    | message mm =>
      have hlast : last ≤ mm.sysTimestampMsg := List.rel_of_pairwise_cons horder.1 List.mem_cons_self
      have htail : InOrder (mm.sysTimestampMsg :: (messageTimes rest ++ [t])) :=
        ⟨(List.pairwise_cons.mp horder.1).2, fun t' ht' => horder.2 t' (List.mem_cons_of_mem last ht')⟩
      exact ih (h.message site hlast (htail.2 _ List.mem_cons_self)) htail
    | sweep now => exact ih (h.sweep now) horder

/-- A fresh position of a better source withstands a message in order. -/
theorem position_withstands (h : a.Guarded last) (hlast : last ≤ mm.sysTimestampMsg)
    (hfresh : mm.sysTimestampMsg < (a.data .position).valid.stale)
    (hrank : mm.source.rank < (a.data .position).valid.source.rank) : ¬ a.CprFails site mm := by
  have hsource : (a.data .position).valid.source ≠ .invalid := by
    intro hnone
    rw [hnone] at hrank
    exact Nat.not_lt_zero _ hrank
  obtain ⟨f, hf, hguards⟩ := h.guard hsource (Nat.lt_of_le_of_lt hlast hfresh)
  exact not_cprFails_of_fresh hf (Nat.lt_of_lt_of_le hfresh hguards.stale)
    (Nat.lt_of_lt_of_le hrank hguards.rank)

end Aircraft

/-- **Main theorem.** After any run of messages and sweeps, a message respects every
field, but for an overwritten geometric altitude, and a sweep expires it. If the
messages come in order, even a failure of global CPR leaves fresh data to the better
source. -/
theorem source_priority (site : Site) (first : Message) (contacts : List Contact) (f : Datum) :
    (∀ mm, (f = .altitudeGeom → ¬ (Aircraft.history site first contacts).Overwrites mm) →
      Respects site (Aircraft.history site first contacts) mm f ∧
        (InOrder (first.sysTimestampMsg :: (messageTimes contacts ++ [mm.sysTimestampMsg])) →
          mm.sysTimestampMsg < ((Aircraft.history site first contacts).data f).valid.stale →
          mm.source.rank < ((Aircraft.history site first contacts).data f).valid.source.rank →
            ((Aircraft.history site first contacts).update site mm).data f =
              (Aircraft.history site first contacts).data f)) ∧
      ∀ now, Expires now ((Aircraft.history site first contacts).data f)
        (((Aircraft.history site first contacts).expire now).data f) := by
  refine ⟨fun mm hgeom => ?_, fun now => Aircraft.expire_expires _ now f⟩
  have hrespects := (Aircraft.history site first contacts).update_respects site mm hgeom
  refine ⟨hrespects, fun horder hfresh hrank => ?_⟩
  obtain hkept | ⟨hfails, rfl, -⟩ := hrespects.priority hfresh hrank
  · exact hkept
  · have hfirst := (Aircraft.guarded_create first).message site (Nat.zero_le _)
      (horder.2 _ List.mem_cons_self)
    obtain ⟨last, hlast, hguarded⟩ := Aircraft.guarded_run site contacts hfirst horder
    exact absurd hfails (Aircraft.position_withstands hguarded hlast hfresh hrank)

/-- An aircraft with a position from two ADS-B messages. -/
def poleAircraft : Aircraft :=
  Aircraft.history { libm := sampleLibm } (positionAt 1000 .adsb adsb_ne_invalid false 98304)
    [.message (positionAt 2000 .adsb adsb_ne_invalid true 66082)]

/-- The position withstands a TIS-B message a second later. -/
theorem source_priority_position :
    (poleAircraft.data .position).valid.source = .adsb ∧
      (poleAircraft.update { libm := sampleLibm } (positionAt 3000 .tisb tisb_ne_invalid false 21845)).data .position =
        poleAircraft.data .position := by
  have horder : InOrder [1000, 2000, 3000] := ⟨by decide, by simp⟩
  refine ⟨by decide +kernel, ?_⟩
  rw [poleAircraft]
  refine ((source_priority { libm := sampleLibm } (positionAt 1000 .adsb adsb_ne_invalid false 98304)
    [.message (positionAt 2000 .adsb adsb_ne_invalid true 66082)] .position).1
      (positionAt 3000 .tisb tisb_ne_invalid false 21845) nofun).2 horder ?_ ?_
  · decide +kernel
  · decide +kernel

/-- A position from two ADS-B messages near the pole. Sixty seconds later a TIS-B message
replaces the odd one; another, with an earlier time, makes a pair with it that decodes to
no latitude. The position is still fresh, and loses its source; so does the new message. -/
theorem lower_source_discards_position :
    let site : Site := { libm := sampleLibm }
    let a := Aircraft.history site (positionAt 1000 .adsb adsb_ne_invalid false 98304)
      [.message (positionAt 2000 .adsb adsb_ne_invalid true 66082),
        .message (positionAt 62500 .tisb tisb_ne_invalid true 119785)]
    let mm := positionAt 61900 .tisb tisb_ne_invalid false 21845
    let b := a.update site mm
    ((a.data .position).valid.source = .adsb ∧ mm.sysTimestampMsg < (a.data .position).valid.stale ∧
      mm.source.rank < (a.data .position).valid.source.rank ∧
      (b.data .position).valid ≠ (a.data .position).valid) ∧
    (b.data .cprEven).value ≠ (a.data .cprEven).value ∧ (b.data .cprEven).valid.source ≠ mm.source := by
  decide +kernel

end RbFeeder.Tracker
