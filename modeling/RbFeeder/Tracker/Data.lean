import RbFeeder.Tracker.Update

/-! What a message and a sweep do to one field.

`update_data` is the specification of `Aircraft.update`, field by field: a field takes
what the message says of it, if the source is accepted, and loses its source if the
field is one of those that a failure of global CPR discards. Only the geometric
altitude may be overwritten by the derived one. -/
namespace RbFeeder.Tracker
open Track (Millis Source DataValidity)

/-! ### Tracked values -/

namespace Tracked
variable {α : Type} {now : Millis} {source : Source}

@[simp] theorem update_none (t : Tracked α) : t.update now source none = t := rfl

theorem update_of_accepts {t : Tracked α} {value : α} (h : t.valid.Accepts now source) :
    t.update now source (some value) = ⟨t.valid.accept now source, value⟩ := if_pos h

theorem update_of_not_accepts {t : Tracked α} (h : ¬ t.valid.Accepts now source) (report : Option α) :
    t.update now source report = t := by
  cases report with
  | none => rfl
  | some value => exact if_neg h

variable (now source) in
/-- A field takes a value, or stays as it was. -/
theorem update_cases (t : Tracked α) (report : Option α) :
    t.update now source report = t ∨
      ∃ value, report = some value ∧ t.valid.Accepts now source ∧
        t.update now source report = ⟨t.valid.accept now source, value⟩ := by
  by_cases haccepts : t.valid.Accepts now source
  · cases report with
    | none => exact Or.inl rfl
    | some value => exact Or.inr ⟨value, rfl, haccepts, update_of_accepts haccepts⟩
  · exact Or.inl (update_of_not_accepts haccepts report)

/-- What was accepted would be accepted again. -/
theorem accepts_accept (d : DataValidity) : (d.accept now source).Accepts now source :=
  ⟨BitVec.lt_irrefl now, fun h => lt_irrefl _ h.1⟩

/-- Taking a value twice is taking it once. -/
theorem update_update (t : Tracked α) (report : Option α) :
    (t.update now source report).update now source report = t.update now source report := by
  obtain h | ⟨value, rfl, -, h⟩ := t.update_cases now source report
  · rw [h, h]
  · rw [h, update_of_accepts (accepts_accept t.valid)]
    rfl

end Tracked

namespace Aircraft
variable (site : Site) (a : Aircraft) (mm : Message)

/-! ### The fields of an aircraft -/

@[simp] theorem heard_data : (a.heard mm).data = a.data := rfl

@[simp] theorem describe_data : (a.describe mm).data = a.data := by
  simp only [describe, setVersionFor]
  cases mm.source <;> rfl

theorem modify_data (f : Datum) (change : Tracked f.Value → Tracked f.Value) :
    (a.modify f change).data f = change (a.data f) := Fields.modify_same ..

theorem modify_data_of_ne {f g : Datum} (change : Tracked f.Value → Tracked f.Value) (h : g ≠ f) :
    (a.modify f change).data g = a.data g := Fields.modify_of_ne _ _ h

@[simp] theorem expire_data (now : Millis) (f : Datum) :
    (a.expire now).data f = (a.data f).expire now := rfl

/-- What the message has for a field. -/
def reported (version : Int) (f : Datum) : Option f.Value :=
  (Fields.entriesOf f (a.reports version mm)).head?.join

/-- There is one report for a field, none for the position and two equal ones for `sda`. -/
theorem entriesOf_reports (version : Int) (f : Datum) :
    let entries := Fields.entriesOf f (a.reports version mm)
    entries = [] ∨ entries = [a.reported mm version f] ∨
      entries = [a.reported mm version f, a.reported mm version f] := by
  cases f with
  | position => exact Or.inl rfl
  | sda => exact Or.inr (Or.inr rfl)
  | _ => exact Or.inr (Or.inl rfl)

/-- A field after the reports. -/
theorem acceptReports_data (b : Aircraft) (version : Int) (f : Datum) :
    (b.acceptReports mm (a.reports version mm)).data f =
      (b.data f).update mm.sysTimestampMsg mm.source (a.reported mm version f) := by
  have hfold := Fields.foldl_modify
    (fun f (report : Option f.Value) => Tracked.update mm.sysTimestampMsg mm.source report)
    (a.reports version mm) b.data f
  refine hfold.trans ?_
  obtain h | h | h := a.entriesOf_reports mm version f
  · rw [h, reported, h]
    rfl
  · rw [h]
    rfl
  · rw [h]
    exact Tracked.update_update _ _

theorem updateData_data (f : Datum) :
    (a.updateData mm).data f =
      (a.data f).update mm.sysTimestampMsg mm.source ((a.describe mm).reported mm (a.version mm) f) := by
  rw [updateData, acceptReports_data, describe_data]

theorem derive_data {now : Millis} {f : Datum} (h : f = .altitudeGeom → ¬ a.Derives now) :
    (a.derive now).data f = a.data f := by
  unfold derive
  split
  · next hderives => exact a.modify_data_of_ne _ fun hf => h hf hderives
  · rfl

end Aircraft

/-! ### What a message carries -/

/-- The fields that a failure of global CPR discards. -/
def Datum.OfCpr (f : Datum) : Prop := f = .cprOdd ∨ f = .cprEven ∨ f = .position

instance (f : Datum) : Decidable f.OfCpr := inferInstanceAs (Decidable (_ ∨ _))

namespace Aircraft
variable (site : Site) (a : Aircraft) (mm : Message)

/-- The aircraft as `updatePosition` finds it. -/
def beforePosition : Aircraft := ((a.heard mm).updateData mm).derive mm.sysTimestampMsg

/-- The altitude_geom of this message is overwritten by the derived one. -/
def Overwrites : Prop :=
  ¬ (a.heard mm).Distrusts mm ∧ ((a.heard mm).updateData mm).Derives mm.sysTimestampMsg

instance : Decidable (a.Overwrites mm) := inferInstanceAs (Decidable (_ ∧ _))

/-- Global CPR fails with -2 for this message. -/
def CprFails : Prop :=
  ¬ (a.heard mm).Distrusts mm ∧ ∃ cpr, (a.heard mm).cprNew mm = some cpr ∧
    (a.beforePosition mm).GlobalFails site ((a.heard mm).version mm) mm cpr

/-- The position decoded from this message. -/
def positionOf : Option Position :=
  match (a.heard mm).cprNew mm with
  | some cpr => (a.beforePosition mm).located site ((a.heard mm).version mm) mm cpr
  | none => none

/-- The value that a message carries for a field. -/
def carried (f : Datum) : Option f.Value :=
  if (a.heard mm).Distrusts mm then none
  else Function.update (((a.heard mm).describe mm).reported mm ((a.heard mm).version mm))
    .position (a.positionOf site mm) f

theorem carried_of_distrusts {f : Datum} (h : (a.heard mm).Distrusts mm) : a.carried site mm f = none :=
  if_pos h

theorem carried_position (h : ¬ (a.heard mm).Distrusts mm) :
    a.carried site mm .position = a.positionOf site mm := by
  rw [carried, if_neg h, Function.update_self]

theorem carried_of_ne {f : Datum} (h : ¬ (a.heard mm).Distrusts mm) (hf : f ≠ .position) :
    a.carried site mm f = ((a.heard mm).describe mm).reported mm ((a.heard mm).version mm) f := by
  rw [carried, if_neg h, Function.update_of_ne hf]

/-- A field as `updatePosition` finds it. -/
theorem beforePosition_data {f : Datum} (htrust : ¬ (a.heard mm).Distrusts mm)
    (hgeom : f = .altitudeGeom → ¬ a.Overwrites mm) :
    (a.beforePosition mm).data f = (a.data f).update mm.sysTimestampMsg mm.source
      (((a.heard mm).describe mm).reported mm ((a.heard mm).version mm) f) := by
  rw [beforePosition, derive_data _ fun hf hderives => hgeom hf ⟨htrust, hderives⟩, updateData_data,
    heard_data]

theorem beforePosition_position (htrust : ¬ (a.heard mm).Distrusts mm) :
    (a.beforePosition mm).data .position = a.data .position :=
  a.beforePosition_data mm htrust (fun h => by cases h)

/-- A field after bad CPR data. -/
theorem discardCpr_data (f : Datum) :
    a.discardCpr.data f = if f.OfCpr then (a.data f).invalidate else a.data f := by
  by_cases hposition : f = .position
  · subst hposition
    rw [if_pos (by decide : Datum.position.OfCpr), discardCpr, modify_data, modify_data_of_ne, modify_data_of_ne]
    all_goals decide
  · rw [discardCpr, modify_data_of_ne _ _ hposition]
    by_cases heven : f = .cprEven
    · subst heven
      rw [if_pos (by decide : Datum.cprEven.OfCpr), modify_data, modify_data_of_ne]
      decide
    · rw [modify_data_of_ne _ _ heven]
      by_cases hodd : f = .cprOdd
      · subst hodd
        rw [if_pos (by decide : Datum.cprOdd.OfCpr), modify_data]
      · rw [modify_data_of_ne _ _ hodd, if_neg (by simp [Datum.OfCpr, hposition, heven, hodd])]

theorem takePosition_data (position : Option Position) (f : Datum) :
    (a.takePosition mm position).data f =
      if h : f = .position then
        (a.data f).update mm.sysTimestampMsg mm.source (h ▸ position) else a.data f := by
  by_cases h : f = .position
  · subst h
    rw [dif_pos rfl, takePosition, modify_data]
  · rw [dif_neg h, takePosition, modify_data_of_ne _ _ h]

theorem update_of_distrusts (h : (a.heard mm).Distrusts mm) :
    (a.update site mm).data = a.data := by
  rw [update, if_pos h]
  rfl

/-- An update that gets as far as the position. -/
theorem update_of_trusts (h : ¬ (a.heard mm).Distrusts mm) :
    a.update site mm =
      match (a.heard mm).cprNew mm with
      | some cpr => (a.beforePosition mm).updatePosition site ((a.heard mm).version mm) mm cpr
      | none => a.beforePosition mm := if_neg h

/-- A position that is bad data is not taken. -/
theorem located_of_globalFails {b : Aircraft} {version : Int} {cpr : CprReport}
    (h : b.GlobalFails site version mm cpr) : b.located site version mm cpr = none := by
  unfold located
  rw [h]
  exact if_pos rfl

/-- **A field after a message.** -/
theorem update_data {f : Datum} (hgeom : f = .altitudeGeom → ¬ a.Overwrites mm) :
    (a.CprFails site mm ∧ f.OfCpr ∧ (a.update site mm).data f =
        ((a.data f).update mm.sysTimestampMsg mm.source (a.carried site mm f)).invalidate) ∨
      (¬ (a.CprFails site mm ∧ f.OfCpr) ∧ (a.update site mm).data f =
        (a.data f).update mm.sysTimestampMsg mm.source (a.carried site mm f)) := by
  by_cases htrust : (a.heard mm).Distrusts mm
  · refine Or.inr ⟨fun h => h.1.1 htrust, ?_⟩
    rw [a.update_of_distrusts site mm htrust, a.carried_of_distrusts site mm htrust, Tracked.update_none]
  have hbefore := a.beforePosition_data mm htrust hgeom
  have hkept : f ≠ .position → (a.beforePosition mm).data f =
      (a.data f).update mm.sysTimestampMsg mm.source (a.carried site mm f) := fun hf => by
    rw [hbefore, a.carried_of_ne site mm htrust hf]
  rw [a.update_of_trusts site mm htrust]
  cases hnew : (a.heard mm).cprNew mm with
  | none =>
    refine Or.inr ⟨fun h => ?_, ?_⟩
    · obtain ⟨⟨-, cpr, hcpr, -⟩, -⟩ := h
      exact absurd (hnew.symm.trans hcpr) (by simp)
    · by_cases hf : f = .position
      · subst hf
        rw [a.carried_position site mm htrust, positionOf, hnew]
        exact a.beforePosition_position mm htrust
      · exact hkept hf
  | some cpr =>
    have hposition : a.carried site mm .position =
        (a.beforePosition mm).located site ((a.heard mm).version mm) mm cpr := by
      rw [a.carried_position site mm htrust, positionOf, hnew]
    obtain ⟨hfails, hresult⟩ | ⟨hfails, hresult⟩ :=
      (a.beforePosition mm).updatePosition_cases site ((a.heard mm).version mm) mm cpr
    · have hcpr : a.CprFails site mm := ⟨htrust, cpr, hnew, hfails⟩
      have hdata := (a.beforePosition mm).discardCpr_data f
      simp only [hresult]
      by_cases hf : f.OfCpr
      · refine Or.inl ⟨hcpr, hf, ?_⟩
        rw [hdata, if_pos hf]
        by_cases hpos : f = .position
        · subst hpos
          rw [a.beforePosition_position mm htrust, hposition, located_of_globalFails site mm hfails,
            Tracked.update_none]
        · rw [hkept hpos]
      · refine Or.inr ⟨fun h => hf h.2, ?_⟩
        rw [hdata, if_neg hf]
        exact hkept fun h => hf (Or.inr (Or.inr h))
    · refine Or.inr ⟨fun h => ?_, ?_⟩
      · obtain ⟨⟨-, cpr', hcpr', hfails'⟩, -⟩ := h
        obtain rfl := Option.some.inj (hnew.symm.trans hcpr')
        exact hfails hfails'
      · simp only [hresult]
        rw [takePosition_data]
        by_cases hf : f = .position
        · subst hf
          rw [dif_pos rfl, a.beforePosition_position mm htrust, hposition]
        · rw [dif_neg hf]
          exact hkept hf

end Aircraft
end RbFeeder.Tracker
