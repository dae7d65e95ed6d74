import RbFeeder.Lib.ChangeLog
import RbFeeder.Net.AircraftJson
import RbFeeder.Net.Avr
import RbFeeder.ModeS.Squitter

/-! FATSV events: `writeFATSVEvent` of `net_io.c`.

Six kinds of reports go out one by one, with the message that carried them, but only if they
differ from the last one of their kind and aircraft. The aircraft keeps that one, a blank one at
first. So a reader of the lines has, of every aircraft and kind, all reports but for the
repetitions (`writeFATSVEvent_reports`).

An aircraft is the record that stands for it: one that is tracked again is another one. With a
connection `prepareWrite` returns a place. -/
namespace RbFeeder.Net.Fatsv
open ModeS (Byte CommBFormat modesNonIcaoAddress)
open Track (Millis Source)
open Tracker (AddrType)
open ChangeLog

/-! ### Reports -/

/-- The members `fatsv_emitted_X` that hold a report. -/
inductive EventKind
  | bds_10
  | bds_30
  | bds_17
  | unknown_commb
  | es_acas_ra
  | es_status
deriving DecidableEq

def EventKind.datafield : EventKind → Text
  | .bds_10 => text "datalink_caps"
  | .bds_30 => text "commb_acas_ra"
  | .bds_17 => text "gicb_caps"
  | .unknown_commb => text "unknown_commb"
  | .es_acas_ra => text "es_acas_ra"
  | .es_status => text "es_op_status"

/-- `MB` or `ME`. -/
abbrev Report := Vector Byte 7

/-- What `trackCreateAircraft` leaves: of the ACAS reports the register number, or type and subtype. -/
def EventKind.blank : EventKind → Report
  | .bds_30 => #v[0x30, 0, 0, 0, 0, 0, 0]
  | .es_acas_ra => #v[0xE2, 0, 0, 0, 0, 0, 0]
  | _ => #v[0, 0, 0, 0, 0, 0, 0]

/-- What is read of a message. -/
structure EventMessage where
  msgtype : Nat
  source : Source
  reliable : Bool
  addr : BitVec 32
  addrtype : AddrType
  commb_format : CommBFormat
  metype : Nat
  mesub : Nat
  MB : Report
  ME : Report

/-- A call, with the variables it reads. -/
structure EventCall (ι : Type) where
  /-- Whether there is a service with connections. -/
  connected : Bool
  faup_upload_unknown_commb : Bool
  messageNow : Millis
  mm : EventMessage
  a : Option ι
  /-- `a->reliable`. -/
  reliable : Bool

/-! ### Lines -/

def eventHeader (messageNow : Millis) (mm : EventMessage) : List Field :=
  [ ⟨"_v", text "9E"⟩,
    ⟨"clock", unsigned (messageNow.toNat / 1000)⟩,
    ⟨if mm.addr &&& modesNonIcaoAddress ≠ 0 then "otherid" else "hexid", upperHex 6 (mm.addr &&& 0xFFFFFF).toNat⟩ ] ++
  if mm.addrtype ≠ .adsbIcao then [⟨"addrtype", addrtype_enum_string mm.addrtype⟩] else []

def eventText (messageNow : Millis) (mm : EventMessage) (datafield : Text) (data : Report) : Text :=
  (eventHeader messageNow mm).flatMap Field.bytes ++ datafield ++ [tab] ++
    data.toList.flatMap (fun b => upperHex 2 b.toNat) ++ [newline]

/-- The line, if it is completed. -/
def writeFATSVEventMessage (messageNow : Millis) (mm : EventMessage) (datafield : Text) (data : Report) :
    Option Text :=
  let line := eventText messageNow mm datafield data
  if line.length < tsvMaxPacketSize then some line else none

/-! ### Calls -/

variable {ι : Type} [DecidableEq ι]

/-- What the aircraft keep, and the lines, each with what it is about. -/
structure Events (ι : Type) where
  emitted : ι × EventKind → Report
  lines : List ((ι × EventKind) × Text)

def Events.start : Events ι := ⟨fun k => k.2.blank, []⟩

/-- `memcpy` and the line. -/
def Events.emit (s : Events ι) (c : EventCall ι) (a : ι) (kind : EventKind) (data : Report) : Events ι where
  emitted := Function.update s.emitted (a, kind) data
  lines := s.lines ++
    ((writeFATSVEventMessage c.messageNow c.mm kind.datafield data).toList.map fun line => ((a, kind), line))

/-- The `switch`. -/
def Events.switch (s : Events ι) (c : EventCall ι) (a : ι) : Events ι :=
  if c.mm.msgtype = 20 ∨ c.mm.msgtype = 21 then
    match c.mm.commb_format with
    | .datalinkCaps => if c.mm.MB ≠ s.emitted (a, .bds_10) then s.emit c a .bds_10 c.mm.MB else s
    | .acasRa => if c.mm.MB ≠ s.emitted (a, .bds_30) then s.emit c a .bds_30 c.mm.MB else s
    | .gicbCaps => if c.mm.MB ≠ s.emitted (a, .bds_17) then s.emit c a .bds_17 c.mm.MB else s
    | .unknown =>
      if c.faup_upload_unknown_commb ∧ c.mm.MB ≠ s.emitted (a, .unknown_commb)
        then s.emit c a .unknown_commb c.mm.MB else s
    | _ => s
  else if c.mm.msgtype = 17 ∨ c.mm.msgtype = 18 then
    if c.mm.metype = 28 ∧ c.mm.mesub = 2 ∧ c.mm.ME ≠ s.emitted (a, .es_acas_ra) then s.emit c a .es_acas_ra c.mm.ME
    else if c.mm.metype = 31 ∧ (c.mm.mesub = 0 ∨ c.mm.mesub = 1) ∧ c.mm.ME ≠ s.emitted (a, .es_status)
      then s.emit c a .es_status c.mm.ME
    else s
  else s

def writeFATSVEvent (s : Events ι) (c : EventCall ι) : Events ι :=
  if !c.connected then s
  else
    match c.a with
    | none => s
    | some a => if c.mm.source = .mlat ∨ (!c.reliable ∧ !c.mm.reliable) then s else s.switch c a

/-! ### What is reported -/

/-- The kind of report a message carries, and the report. -/
def EventMessage.report (upload_unknown_commb : Bool) (mm : EventMessage) : Option (EventKind × Report) :=
  if mm.msgtype = 20 ∨ mm.msgtype = 21 then
    match mm.commb_format with
    | .datalinkCaps => some (.bds_10, mm.MB)
    | .acasRa => some (.bds_30, mm.MB)
    | .gicbCaps => some (.bds_17, mm.MB)
    | .unknown => if upload_unknown_commb then some (.unknown_commb, mm.MB) else none
    | _ => none
  else if mm.msgtype = 17 ∨ mm.msgtype = 18 then
    if mm.metype = 28 ∧ mm.mesub = 2 then some (.es_acas_ra, mm.ME)
    else if mm.metype = 31 ∧ (mm.mesub = 0 ∨ mm.mesub = 1) then some (.es_status, mm.ME)
    else none
  else none

/-- Whether a message is looked at. -/
def EventCall.Forwards (c : EventCall ι) : Prop :=
  c.connected ∧ c.mm.source ≠ .mlat ∧ (c.reliable ∨ c.mm.reliable)

instance (c : EventCall ι) : Decidable c.Forwards := inferInstanceAs (Decidable (_ ∧ _ ∧ _))

/-- The report of a call, and the aircraft it is of. -/
def EventCall.report (c : EventCall ι) : Option ((ι × EventKind) × Report) :=
  match c.a with
  | none => none
  | some a =>
    if c.Forwards then (c.mm.report c.faup_upload_unknown_commb).map fun report => ((a, report.1), report.2) else none

/-- The seven bytes at the end of a line. -/
def readEvent (line : Text) : Option (List Byte) := hexBytes ((line.drop (line.length - 15)).take 14)

theorem switch_eq (s : Events ι) (c : EventCall ι) (a : ι) :
    s.switch c a =
      match c.mm.report c.faup_upload_unknown_commb with
      | none => s
      | some (kind, data) => if data ≠ s.emitted (a, kind) then s.emit c a kind data else s := by
  rw [Events.switch, EventMessage.report]
  by_cases hcommb : c.mm.msgtype = 20 ∨ c.mm.msgtype = 21
  · rw [if_pos hcommb, if_pos hcommb]
    cases c.mm.commb_format with
    | unknown =>
      cases hupload : c.faup_upload_unknown_commb with
      | true => exact if_congr (and_iff_right rfl) rfl rfl
      | false => exact if_neg fun h => Bool.false_ne_true h.1
    | _ => rfl
  rw [if_neg hcommb, if_neg hcommb]
  by_cases hes : c.mm.msgtype = 17 ∨ c.mm.msgtype = 18
  · rw [if_pos hes, if_pos hes]
    by_cases hacas : c.mm.metype = 28 ∧ c.mm.mesub = 2
    · have hop : ¬ (c.mm.metype = 31 ∧ (c.mm.mesub = 0 ∨ c.mm.mesub = 1) ∧ c.mm.ME ≠ s.emitted (a, .es_status)) :=
        fun h => by omega
      rw [if_pos hacas, if_neg hop]
      exact if_congr (by rw [← and_assoc, and_iff_right hacas]) rfl rfl
    · rw [if_neg hacas, if_neg fun h => hacas ⟨h.1, h.2.1⟩]
      by_cases hop : c.mm.metype = 31 ∧ (c.mm.mesub = 0 ∨ c.mm.mesub = 1)
      · rw [if_pos hop]
        exact if_congr (by rw [← and_assoc, and_iff_right hop]) rfl rfl
      · rw [if_neg hop, if_neg fun h => hop ⟨h.1, h.2.1⟩]
  · rw [if_neg hes, if_neg hes]

/-- **The step.** A report is emitted if it is not the one that was emitted last. -/
theorem writeFATSVEvent_eq (s : Events ι) (c : EventCall ι) :
    writeFATSVEvent s c =
      match c.report with
      | none => s
      | some ((a, kind), data) => if data ≠ s.emitted (a, kind) then s.emit c a kind data else s := by
  have hforwards : c.Forwards ↔ c.connected ∧ ¬ (c.mm.source = .mlat ∨ (!c.reliable ∧ !c.mm.reliable)) := by
    rw [EventCall.Forwards]
    cases c.reliable <;> cases c.mm.reliable <;> simp
  rw [writeFATSVEvent, EventCall.report]
  by_cases hconnected : c.connected = true
  · rw [if_neg (by simpa using hconnected)]
    cases c.a with
    | none => rfl
    | some a =>
      dsimp only
      by_cases hskip : c.mm.source = .mlat ∨ (!c.reliable ∧ !c.mm.reliable)
      · rw [if_pos hskip, if_neg fun h => (hforwards.mp h).2 hskip]
      · rw [if_neg hskip, if_pos (hforwards.mpr ⟨hconnected, hskip⟩), switch_eq]
        cases c.mm.report c.faup_upload_unknown_commb <;> rfl
  · rw [if_pos (by simpa using hconnected)]
    cases c.a with
    | none => rfl
    | some a =>
      dsimp only
      rw [if_neg fun h => hconnected h.1]

/-! ### Lines are completed and read back -/

theorem upperHex_two : ∀ b : Byte, upperHex 2 b.toNat = [hexDigit (b >>> 4), hexDigit (b &&& 0xf)] := by decide +kernel

theorem upperHex_data (data : Report) : data.toList.flatMap (fun b => upperHex 2 b.toNat) = hexDigits data.toList := by
  rw [hexDigits]
  congr 1
  funext b
  exact upperHex_two b

theorem length_data (data : Report) : (hexDigits data.toList).length = 14 := by
  rw [length_hexDigits, Vector.length_toList]

theorem readEvent_eventText (messageNow : Millis) (mm : EventMessage) (datafield : Text) (data : Report) :
    readEvent (eventText messageNow mm datafield data) = some data.toList := by
  rw [readEvent, eventText, upperHex_data, List.append_assoc]
  generalize (eventHeader messageNow mm).flatMap Field.bytes ++ datafield ++ [tab] = front
  have hfront : (front ++ (hexDigits data.toList ++ [newline])).length - 15 = front.length := by
    rw [List.length_append, List.length_append, length_data, List.length_singleton]
    omega
  rw [hfront, List.drop_left, List.take_left' (length_data data), hexBytes_hexDigits]

theorem length_fieldBytes (f : Field) : f.bytes.length = f.name.toList.length + f.value.length + 2 := by
  rw [Field.bytes, List.length_append, List.length_append, List.length_append, Json.length_text, List.length_singleton]
  omega

theorem length_eventHeader (messageNow : Millis) (mm : EventMessage) :
    ((eventHeader messageNow mm).flatMap Field.bytes).length ≤ 90 := by
  have hclock : (unsigned (messageNow.toNat / 1000)).length ≤ 20 :=
    Json.length_unsigned_le (by decide) (by have := messageNow.isLt; omega)
  have haddr : (upperHex 6 (mm.addr &&& 0xFFFFFF).toNat).length ≤ 8 := by
    have hdigits := Nat.toDigits_length 16 (mm.addr &&& 0xFFFFFF).toNat 8 (by decide) (mm.addr &&& 0xFFFFFF).isLt
    rw [upperHex, Json.length_padded, List.length_map]
    omega
  have htype : (addrtype_enum_string mm.addrtype).length ≤ 14 := by
    cases mm.addrtype <;> decide
  have hname : (if mm.addr &&& modesNonIcaoAddress ≠ 0 then "otherid" else "hexid").toList.length ≤ 7 := by
    split <;> decide
  have hversion : "_v".toList.length + (text "9E").length = 4 := by decide
  have hclockName : "clock".toList.length = 5 := by decide
  have htypeName : "addrtype".toList.length = 8 := by decide
  rw [eventHeader]
  by_cases hother : mm.addrtype ≠ .adsbIcao
  · rw [if_pos hother]
    simp only [List.cons_append, List.nil_append, List.flatMap_cons, List.flatMap_nil, List.length_append,
      length_fieldBytes, List.length_nil]
    omega
  · rw [if_neg hother]
    simp only [List.append_nil, List.flatMap_cons, List.flatMap_nil, List.length_append, length_fieldBytes]
    omega

/-- Every line is shorter than the buffer. -/
theorem eventText_lt (messageNow : Millis) (mm : EventMessage) (kind : EventKind) (data : Report) :
    (eventText messageNow mm kind.datafield data).length < tsvMaxPacketSize := by
  have hheader := length_eventHeader messageNow mm
  have hfield : kind.datafield.length ≤ 13 := by
    cases kind <;> decide
  rw [eventText, upperHex_data]
  simp only [List.length_append, List.length_singleton, length_data]
  unfold tsvMaxPacketSize
  omega

/-! ### Runs -/

/-- The calls one after the other. -/
def eventRun (calls : List (EventCall ι)) : Events ι := calls.foldl writeFATSVEvent Events.start

/-- The same as a log of reports. -/
structure Logged (s : Events ι) (log : Log (ι × EventKind) Report) : Prop where
  emitted : s.emitted = log.last
  lines : s.lines.map (fun line => (line.1, readEvent line.2)) = log.written.map fun o => (o.1, some o.2.toList)

theorem Logged.step {s : Events ι} {log : Log (ι × EventKind) Report} (h : Logged s log) (c : EventCall ι) :
    Logged (writeFATSVEvent s c) (log.offerAll c.report.toList) := by
  rw [writeFATSVEvent_eq]
  cases c.report with
  | none => exact h
  | some o =>
    obtain ⟨⟨a, kind⟩, data⟩ := o
    show Logged _ (log.offer ((a, kind), data))
    dsimp only
    rw [Log.offer, ← h.emitted]
    by_cases hne : data ≠ s.emitted (a, kind)
    · rw [if_pos hne, if_pos hne]
      refine ⟨rfl, ?_⟩
      have hline : writeFATSVEventMessage c.messageNow c.mm kind.datafield data =
          some (eventText c.messageNow c.mm kind.datafield data) := if_pos (eventText_lt ..)
      simp only [Events.emit, hline, Option.toList_some, List.map_append, List.map_singleton, h.lines,
        readEvent_eventText]
    · rw [if_neg hne, if_neg hne]
      exact h

theorem logged_run (calls : List (EventCall ι)) :
    Logged (eventRun calls) ((⟨fun k => k.2.blank, []⟩ : Log (ι × EventKind) Report).offerAll
      (calls.filterMap EventCall.report)) := by
  induction calls using List.reverseRecOn with
  | nil => exact ⟨rfl, rfl⟩
  | append_singleton calls c ih =>
    have hreports : (calls ++ [c]).filterMap EventCall.report =
        calls.filterMap EventCall.report ++ c.report.toList := by
      rw [List.filterMap_append]
      cases hreport : c.report <;> simp [hreport]
    rw [eventRun, List.foldl_concat, hreports, Log.offerAll, List.foldl_append]
    exact ih.step c

/-- What the lines of an aircraft and a kind say, in order. -/
def reportsRead (k : ι × EventKind) (lines : List ((ι × EventKind) × Text)) : List (List Byte) :=
  lines.filterMap fun line => if line.1 = k then readEvent line.2 else none

theorem reportsRead_run (calls : List (EventCall ι)) (k : ι × EventKind) :
    reportsRead k (eventRun calls).lines =
      (changes k.2.blank (valuesOf k (calls.filterMap EventCall.report))).map Vector.toList := by
  have hwritten := valuesOf_written (⟨fun k => k.2.blank, []⟩ : Log (ι × EventKind) Report) k
    (calls.filterMap EventCall.report)
  have hread (lines : List ((ι × EventKind) × Text)) :
      reportsRead k lines =
        (lines.map fun line => (line.1, readEvent line.2)).filterMap fun o => if o.1 = k then o.2 else none := by
    rw [List.filterMap_map]
    rfl
  rw [hread, (logged_run calls).lines, List.filterMap_map]
  refine Eq.trans ?_ (congrArg (List.map Vector.toList) hwritten)
  rw [valuesOf, List.map_filterMap]
  congr 1
  funext o
  show (if o.1 = k then some o.2.toList else none) = Option.map Vector.toList (if o.1 = k then some o.2 else none)
  split <;> rfl

/-- **Main theorem.** The lines of an aircraft and a kind say all its reports of that kind, but for those that are the same
as the one in front of them, or blank at first. So the last one is the last report. -/
theorem writeFATSVEvent_reports (calls : List (EventCall ι)) (k : ι × EventKind) :
    reportsRead k (eventRun calls).lines =
        (changes k.2.blank (valuesOf k (calls.filterMap EventCall.report))).map Vector.toList ∧
      (reportsRead k (eventRun calls).lines).getLastD k.2.blank.toList =
        ((valuesOf k (calls.filterMap EventCall.report)).getLastD k.2.blank).toList := by
  refine ⟨reportsRead_run calls k, ?_⟩
  rw [reportsRead_run, ← getLastD_changes k.2.blank, List.getLastD_eq_getLast?,
    List.getLast?_map, List.getLastD_eq_getLast?]
  cases (changes k.2.blank (valuesOf k (calls.filterMap EventCall.report))).getLast? with
  | none => rfl
  | some data => rfl

end RbFeeder.Net.Fatsv
