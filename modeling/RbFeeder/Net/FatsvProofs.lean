import RbFeeder.Net.Fatsv
import RbFeeder.Net.Output

/-! What the FATSV output records as emitted.

The values of the fields that go out on change are recorded at the end of the loop,
whether or not the line went out and whether or not it had the field. What was recorded
was sent exactly if, in a pass that gets there with a new value, the line fits and the
value's `_valid` record passes the tests of `appendFATSVMeta` (`recorded_sent_iff`). -/
namespace RbFeeder.Net.Fatsv
open Track (Millis Source DataValidity)
open Tracker

/-! ### Fields -/

section Fields
variable (a : Aircraft) (e : Emitted) (now : Millis)

/-- The tests of `appendFATSVMeta`. -/
structure Forwarded (f : Datum) : Prop where
  source : sourcetype (a.data f).valid.source ≠ none
  valid : trackDataValid a f
  past : ¬ (a.data f).valid.updated > a.seen
  fresh : ¬ (a.data f).valid.updated < e.last_emitted
  recent : ¬ ageSeconds a f > 255

/-- A value that passes the tests is appended with its age and source. -/
theorem appendFATSVMeta_of_forwarded {f : Datum} (h : Forwarded a e f) (field : String) (value : Text) :
    ∃ rest, appendFATSVMeta a e field f value = some ⟨field, value ++ text " " ++ rest⟩ := by
  obtain ⟨source, hsource⟩ := Option.ne_none_iff_exists'.mp h.source
  refine ⟨unsigned (ageSeconds a f) ++ text " " ++ source, ?_⟩
  simp only [appendFATSVMeta, hsource]
  rw [if_neg (not_not_intro h.valid), if_neg h.past, if_neg h.fresh, if_neg h.recent]
  simp only [List.append_assoc]

/-- What is appended has passed the tests. -/
theorem forwarded_of_appendFATSVMeta {f : Datum} {field : String} {value : Text} {out : Field}
    (h : appendFATSVMeta a e field f value = some out) : Forwarded a e f ∧ out.name = field := by
  unfold appendFATSVMeta at h
  cases hsource : sourcetype (a.data f).valid.source with
  | none =>
    rw [hsource] at h
    cases h
  | some source =>
    rw [hsource] at h
    dsimp only at h
    split_ifs at h with hvalid hpast hfresh hrecent
    obtain rfl := Option.some.inj h
    exact ⟨⟨by rw [hsource]; exact Option.some_ne_none _, hvalid, hpast, hfresh, hrecent⟩, rfl⟩

/-- What has to hold for the value of `X` to be appended. -/
def Sendable (x : OnChange) : Prop := ∀ f ∈ x.datum, Forwarded a e f

/-- The field shows the value. -/
def OnChange.ShownBy (x : OnChange) (v : x.Value) (field : Field) : Prop :=
  field.name = x.name ∧ (field.value = x.format v ∨ x.format v ++ text " " <+: field.value)

/-- A line with a field that shows the value. -/
def OnChange.ShownIn (x : OnChange) (v : x.Value) (fields : List Field) : Prop :=
  ∃ field ∈ fields, x.ShownBy v field

variable {a e} in
/-- A new value that is sendable has its field. -/
theorem onChangeField_of_sendable {x : OnChange} (hnew : x.current a ≠ x.emitted e)
    (h : Sendable a e x) : ∃ field, onChangeField a e now x = some field ∧ x.ShownBy (x.current a) field := by
  have hcond : (forceEmit e now || decide (x.current a ≠ x.emitted e)) = true := by
    rw [decide_eq_true hnew, Bool.or_true]
  unfold onChangeField
  rw [if_pos hcond]
  cases hdatum : x.datum with
  | none => exact ⟨_, rfl, rfl, Or.inl rfl⟩
  | some f =>
    have hf := h f hdatum
    obtain ⟨rest, hrest⟩ := appendFATSVMeta_of_forwarded a e hf x.name (x.format (x.current a))
    dsimp only
    rw [if_pos hf.valid, hrest]
    exact ⟨_, rfl, rfl, Or.inr (List.prefix_append _ _)⟩

variable {a e now} in
/-- A field for `X` is sendable. -/
theorem sendable_of_onChangeField {x : OnChange} {field : Field}
    (h : onChangeField a e now x = some field) : Sendable a e x ∧ field.name = x.name := by
  unfold onChangeField at h
  split at h
  · cases hdatum : x.datum with
    | none =>
      rw [hdatum] at h
      obtain rfl := Option.some.inj h
      refine ⟨fun f hf => ?_, rfl⟩
      rw [hdatum] at hf
      cases hf
    | some f =>
      rw [hdatum] at h
      dsimp only at h
      split at h
      · obtain ⟨hforwarded, hname⟩ := forwarded_of_appendFATSVMeta a e h
        refine ⟨fun g hg => ?_, hname⟩
        rw [hdatum] at hg
        obtain rfl := Option.some.inj hg
        exact hforwarded
      · cases h
  · cases h

/-! ### Names -/

theorem header_name (x : OnChange) : ∀ field ∈ header a, field.name ≠ x.name := by
  intro field hfield
  simp only [header, List.mem_cons, List.not_mem_nil, or_false] at hfield
  obtain rfl | rfl | rfl := hfield
  · cases x <;> decide
  · dsimp only
    cases x <;> decide
  · dsimp only
    split <;> cases x <;> decide

/-- The names after `dataStart`. -/
def appendNames : List String :=
  [ "airGround", "squawk", "ident", "alt", "position", "alt_gnss", "vrate", "vrate_geom", "speed",
    "speed_ias", "speed_tas", "mach", "track", "track_rate", "roll", "heading_magnetic", "heading_true",
    "nav_alt_mcp", "nav_alt_fms", "nav_alt_src", "nav_heading", "nav_modes", "nav_qnh", "emergency",
    "mrar_source", "wind_speed", "wind_dir", "temperature", "pressure", "turbulence", "humidity" ]

theorem map_name_appends : (appends a).map Append.name = appendNames := rfl

theorem OnChange.not_mem_appendNames (x : OnChange) : x.name ∉ appendNames := by
  cases x <;> decide

theorem dataFields_name (x : OnChange) : ∀ field ∈ dataFields a e, field.name ≠ x.name := by
  intro field hfield hname
  obtain ⟨d, hd, hgiven⟩ := List.mem_filterMap.mp hfield
  split at hgiven
  · have hsame := (forwarded_of_appendFATSVMeta a e hgiven).2
    have hmem : d.name ∈ appendNames := map_name_appends a ▸ List.mem_map_of_mem hd
    rw [← hsame, hname] at hmem
    exact x.not_mem_appendNames hmem
  · cases hgiven

theorem OnChange.mem_all (x : OnChange) : x ∈ all := by
  cases x <;> decide

theorem OnChange.name_injective {x y : OnChange} (h : x.name = y.name) : x = y := by
  revert h
  cases x <;> cases y <;> decide

variable {a e now} in
/-- The fields of a line with the name of `X` are the one that is appended for it. -/
theorem mem_line {x : OnChange} {field : Field} (hname : field.name = x.name) :
    field ∈ line a e now ↔ onChangeField a e now x = some field := by
  constructor
  · intro h
    obtain h | h := List.mem_append.mp h
    · obtain h | h := List.mem_append.mp h
      · exact absurd hname (header_name a x field h)
      · obtain ⟨y, -, hy⟩ := List.mem_filterMap.mp h
        obtain rfl : y = x := OnChange.name_injective ((sendable_of_onChangeField hy).2.symm.trans hname)
        exact hy
    · exact absurd hname (dataFields_name a e x field h)
  · intro h
    exact List.mem_append_left _ (List.mem_append_right _ (List.mem_filterMap.mpr ⟨x, x.mem_all, h⟩))

/-- A line shows a new value exactly if it is sendable. -/
theorem shownIn_line_iff {x : OnChange} (hnew : x.current a ≠ x.emitted e) :
    x.ShownIn (x.current a) (line a e now) ↔ Sendable a e x := by
  constructor
  · intro h
    obtain ⟨field, hmem, hname, -⟩ := h
    exact (sendable_of_onChangeField ((mem_line hname).mp hmem)).1
  · intro h
    obtain ⟨field, hfield, hshown⟩ := onChangeField_of_sendable now hnew h
    exact ⟨field, (mem_line hshown.1).mpr hfield, hshown⟩

theorem OnChange.emitted_record (x : OnChange) (force : Bool) :
    x.emitted (e.record now force a) = x.current a := by
  cases x <;> rfl

end Fields

/-! ### One aircraft -/

section Pass
variable (env : Environment) (faup_rate_multiplier : ℚ) (now : Millis)

/-- The loop gets to its end for the aircraft, with a client still there. -/
def Reported (net : Network) (a : Aircraft) (e : Emitted) : Prop :=
  due a e faup_rate_multiplier now ∧ net.connections .fatsv ≠ 0 ∧ dataFields a e ≠ []

theorem prepareWrite_eq_none_iff (net : Network) :
    net.prepareWrite env .fatsv tsvMaxPacketSize = none ↔ net.connections .fatsv = 0 := by
  unfold Network.prepareWrite
  constructor
  · intro h
    by_contra hne
    rw [if_neg (by simp [hne, Service.writer]), if_neg (by decide)] at h
    cases h
  · intro h
    rw [if_pos (Or.inr h)]

/-- What is left of an aircraft when the pass gets to it with the network `net`. -/
def outcomeOf (net : Option Network) (entry : Entry) : Outcome :=
  ((net.bind fun net => visit env faup_rate_multiplier now net entry).map Prod.snd).getD (unvisited entry)

variable {env faup_rate_multiplier now} in
/-- All values are recorded. -/
theorem outcomeOf_reported {net : Network} {a : Aircraft} {e : Emitted}
    (h : Reported faup_rate_multiplier now net a e) :
    outcomeOf env faup_rate_multiplier now (some net) (a, e) =
      ⟨e.record now (forceEmit e now) a,
        if Fits (line a e now) then some (line a e now) else none⟩ := by
  obtain ⟨hdue, hclients, hdata⟩ := h
  have hready := mt (prepareWrite_eq_none_iff env net).mp hclients
  obtain ⟨net', hnet'⟩ := Option.ne_none_iff_exists'.mp hready
  simp only [outcomeOf, Option.bind_some, visit, not_not_intro hdue, if_false, hnet', hdata]
  by_cases hfits : Fits (line a e now)
  · simp only [hfits, if_true, Option.map_some, Option.getD_some]
  · simp only [hfits, if_false, Option.map_some, Option.getD_some]

variable {env faup_rate_multiplier now} in
/-- Nothing is recorded. -/
theorem outcomeOf_unreported {net : Network} {a : Aircraft} {e : Emitted}
    (h : ¬ Reported faup_rate_multiplier now net a e) :
    outcomeOf env faup_rate_multiplier now (some net) (a, e) = ⟨e, none⟩ := by
  simp only [outcomeOf, Option.bind_some, visit]
  by_cases hdue : due a e faup_rate_multiplier now
  · rw [if_neg (not_not_intro hdue)]
    cases hready : net.prepareWrite env .fatsv tsvMaxPacketSize with
    | none => rfl
    | some net' =>
      have hclients : net.connections .fatsv ≠ 0 := by
        intro hzero
        rw [(prepareWrite_eq_none_iff env net).mpr hzero] at hready
        cases hready
      have hdata : dataFields a e = [] := by
        by_contra hne
        exact h ⟨hdue, hclients, hne⟩
      simp only [hdata, if_true, Option.map_some, Option.getD_some]
  · rw [if_pos hdue]
    rfl

/-! ### The pass -/

/-- The network when the pass gets to the aircraft after `before`, `none` if it has
returned. -/
def turn (net : Network) (before : List Entry) : Option Network :=
  before.foldlM (fun net entry => (visit env faup_rate_multiplier now net entry).map Prod.fst) net

theorem visitAll_outcome (before after : List Entry) (entry : Entry) (net : Network) :
    (visitAll env faup_rate_multiplier now net (before ++ entry :: after)).2[before.length]? =
      some (outcomeOf env faup_rate_multiplier now (turn env faup_rate_multiplier now net before) entry) := by
  induction before generalizing net with
  | nil =>
    simp only [turn, List.nil_append, List.length_nil, visitAll, List.foldlM_nil, outcomeOf]
    cases hvisit : visit env faup_rate_multiplier now net entry with
    | none => simp [hvisit]
    | some out => simp [hvisit]
  | cons first rest ih =>
    simp only [turn, List.cons_append, List.length_cons, visitAll, List.foldlM_cons]
    cases hvisit : visit env faup_rate_multiplier now net first with
    | none => simp [outcomeOf]
    | some out =>
      simpa [turn] using ih out.1

/-- The pass looks at the aircraft, and gets to the one after `before` with `net'`. -/
def Visits (next_update : Millis) (net : Network) (before : List Entry) (net' : Network) : Prop :=
  net.connections .fatsv ≠ 0 ∧ ¬ now < next_update ∧ turn env faup_rate_multiplier now net before = some net'

/-- The outcome for every aircraft of a pass. -/
theorem writeFATSV_outcome (next_update : Millis) (net : Network) (before after : List Entry) (a : Aircraft)
    (e : Emitted) : ∃ out,
      (writeFATSV env faup_rate_multiplier now next_update net (before ++ (a, e) :: after)).outcomes[before.length]?
        = some out ∧
      ((∃ net', Visits env faup_rate_multiplier now next_update net before net' ∧
          Reported faup_rate_multiplier now net' a e) ∧
        out = ⟨e.record now (forceEmit e now) a,
          if Fits (line a e now) then some (line a e now) else none⟩ ∨
      (¬ ∃ net', Visits env faup_rate_multiplier now next_update net before net' ∧
          Reported faup_rate_multiplier now net' a e) ∧ out = ⟨e, none⟩) := by
  have hunvisited : ((before ++ (a, e) :: after).map unvisited)[before.length]? = some ⟨e, none⟩ := by
    simp [unvisited]
  unfold writeFATSV
  by_cases hclients : net.connections .fatsv = 0
  · rw [if_pos hclients]
    exact ⟨_, hunvisited, Or.inr ⟨fun h => h.choose_spec.1.1 hclients, rfl⟩⟩
  rw [if_neg hclients]
  by_cases hearly : now < next_update
  · rw [if_pos hearly]
    exact ⟨_, hunvisited, Or.inr ⟨fun h => h.choose_spec.1.2.1 hearly, rfl⟩⟩
  · rw [if_neg hearly]
    refine ⟨_, visitAll_outcome env faup_rate_multiplier now before after (a, e) net, ?_⟩
    cases hturn : turn env faup_rate_multiplier now net before with
    | none =>
      refine Or.inr ⟨fun h => ?_, rfl⟩
      obtain ⟨net', hvisits, -⟩ := h
      rw [hvisits.2.2] at hturn
      cases hturn
    | some net' =>
      by_cases hreported : Reported faup_rate_multiplier now net' a e
      · exact Or.inl ⟨⟨net', ⟨hclients, hearly, hturn⟩, hreported⟩, outcomeOf_reported hreported⟩
      · refine Or.inr ⟨fun h => ?_, outcomeOf_unreported hreported⟩
        obtain ⟨net'', hvisits, hreported'⟩ := h
        rw [hvisits.2.2] at hturn
        obtain rfl := Option.some.inj hturn
        exact hreported hreported'

/-! ### The lines -/

variable {env faup_rate_multiplier now} in
theorem completed_visit {net net' : Network} {entry : Entry} {out : Outcome}
    (h : visit env faup_rate_multiplier now net entry = some (net', out)) (c : ClientId) :
    completed c .fatsv net'.log = completed c .fatsv net.log ++ out.sent.toList.map lineText := by
  obtain ⟨a, e⟩ := entry
  simp only [visit] at h
  by_cases hdue : due a e faup_rate_multiplier now
  · rw [if_neg (not_not_intro hdue)] at h
    cases hready : net.prepareWrite env .fatsv tsvMaxPacketSize with
    | none =>
      rw [hready] at h
      cases h
    | some prepared =>
      rw [hready] at h
      dsimp only at h
      have hprepared := Network.completed_prepareWrite hready c .fatsv
      split_ifs at h with hdata hfits
      · cases h
        simpa using hprepared
      · cases h
        rw [Network.completed_completeWrite, hprepared]
        rfl
      · cases h
        simpa using hprepared
  · rw [if_pos hdue] at h
    cases h
    simp

theorem completed_visitAll (entries : List Entry) (net : Network) (c : ClientId) :
    completed c .fatsv (visitAll env faup_rate_multiplier now net entries).1.log =
      completed c .fatsv net.log ++
        ((visitAll env faup_rate_multiplier now net entries).2.filterMap Outcome.sent).map lineText := by
  induction entries generalizing net with
  | nil => simp [visitAll]
  | cons entry rest ih =>
    rw [visitAll]
    cases hvisit : visit env faup_rate_multiplier now net entry with
    | none =>
      have hnone : ((entry :: rest).map unvisited).filterMap Outcome.sent = [] := by
        simp [unvisited]
      dsimp only
      rw [hnone, List.map_nil, List.append_nil]
    | some out =>
      obtain ⟨net', out⟩ := out
      dsimp only
      rw [ih net', completed_visit hvisit c]
      cases hsent : out.sent <;> simp [hsent]

/-- The lines of the outcomes are what a client is sent. -/
theorem completed_writeFATSV (next_update : Millis) (net : Network) (aircrafts : List Entry) (c : ClientId) :
    completed c .fatsv (writeFATSV env faup_rate_multiplier now next_update net aircrafts).net.log =
      completed c .fatsv net.log ++ ((writeFATSV env faup_rate_multiplier now next_update net
        aircrafts).outcomes.filterMap Outcome.sent).map lineText := by
  have hunvisited : (aircrafts.map unvisited).filterMap Outcome.sent = [] := by
    simp [unvisited]
  unfold writeFATSV
  split
  · simp only [hunvisited, List.map_nil, List.append_nil]
  split
  · simp only [hunvisited, List.map_nil, List.append_nil]
  · exact completed_visitAll env faup_rate_multiplier now aircrafts net c

/-- **What is recorded as emitted was sent** exactly if the line fits and the value is
sendable, in every pass that gets to the end of the loop with a new value. -/
theorem recorded_sent_iff (next_update : Millis) (net : Network) (before after : List Entry) (a : Aircraft)
    (e : Emitted) (x : OnChange) : ∃ out,
      (writeFATSV env faup_rate_multiplier now next_update net (before ++ (a, e) :: after)).outcomes[before.length]?
        = some out ∧
      ((x.emitted out.emitted ≠ x.emitted e →
          ∃ fields, out.sent = some fields ∧ x.ShownIn (x.emitted out.emitted) fields) ↔
        ((∃ net', Visits env faup_rate_multiplier now next_update net before net' ∧
            Reported faup_rate_multiplier now net' a e) →
          x.current a ≠ x.emitted e → Fits (line a e now) ∧ Sendable a e x)) := by
  obtain ⟨out, hout, ⟨hreported, rfl⟩ | ⟨hunreported, rfl⟩⟩ :=
    writeFATSV_outcome env faup_rate_multiplier now next_update net before after a e
  · refine ⟨_, hout, ?_⟩
    dsimp only
    rw [x.emitted_record]
    constructor
    · intro h _ hnew
      obtain ⟨fields, hsent, hshown⟩ := h hnew
      have hfits : Fits (line a e now) := by
        by_contra hlong
        rw [if_neg hlong] at hsent
        cases hsent
      rw [if_pos hfits] at hsent
      obtain rfl := Option.some.inj hsent
      exact ⟨hfits, (shownIn_line_iff a e now hnew).mp hshown⟩
    · intro h hnew
      obtain ⟨hfits, hsendable⟩ := h hreported hnew
      exact ⟨_, if_pos hfits, (shownIn_line_iff a e now hnew).mpr hsendable⟩
  · exact ⟨_, hout, fun _ h => absurd h hunreported, fun _ h => absurd rfl h⟩

end Pass

/-! ### A value that is lost -/

/-- A client of the FATSV service. -/
def oneReader : Network :=
  { Network.init with
    client := Function.update Network.init.client 0 ⟨5, some .fatsv, false⟩
    clients := [0]
    malloc := 1
    connections := Function.update Network.init.connections .fatsv 1 }

/-- Sockets that take all that is written. -/
def readyEnvironment : Environment where
  mode_ac_auto := false
  net_output_flush_size := 0
  write _ _ := .takes 1000
  output _ := []

/-- A value that is received at `updated` and expires after 70 s. -/
def receivedAt (updated : Millis) : DataValidity :=
  { staleInterval := 60000, expireInterval := 70000, source := .adsb, updated,
    stale := updated + 60000, expires := updated + 70000 }

/-- The NACp was received at 10 s, the squawk at 200 s. -/
def lateAircraft : Aircraft where
  addr := 0x4840D6
  addrtype := .adsbIcao
  seen := 200000
  messages := 12
  reliable := true
  reliableDF11 := 0
  reliableDF17 := 0
  discarded := 0
  category := 0xA3
  adsbVersion := 2
  adsrVersion := -1
  tisbVersion := -1
  adsbHrd := .magnetic
  adsbTah := .groundTrack
  data
    | .squawk => ⟨receivedAt 200000, (0x1000 : Nat)⟩
    | .nacP => ⟨receivedAt 10000, (9 : Nat)⟩
    | f => ⟨.never 60000 70000, f.zero⟩

/-- After the creation of the aircraft at 5 s. -/
def notEmitted : Emitted where
  data := Datum.zero
  addrtype := .unknown
  adsbVersion := -1
  category := 0
  last_emitted := 5000
  last_force_emit := 5000

instance (x : OnChange) (v : x.Value) (field : Field) : Decidable (x.ShownBy v field) :=
  inferInstanceAs (Decidable (_ ∧ (_ ∨ _)))

instance (x : OnChange) (v : x.Value) (fields : List Field) : Decidable (x.ShownIn v fields) :=
  inferInstanceAs (Decidable (∃ field ∈ fields, _))

/-- The NACp has expired when the first line is written: it is recorded as emitted and
is not in the line. -/
theorem expired_value_lost :
    ¬ ∀ out ∈ (writeFATSV readyEnvironment 0 200100 0 oneReader [(lateAircraft, notEmitted)]).outcomes,
      OnChange.nacP.emitted out.emitted ≠ OnChange.nacP.emitted notEmitted →
        ∃ fields ∈ out.sent, OnChange.nacP.ShownIn (OnChange.nacP.emitted out.emitted) fields := by
  decide +kernel

end RbFeeder.Net.Fatsv
