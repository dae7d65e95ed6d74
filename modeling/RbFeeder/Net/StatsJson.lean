import RbFeeder.Net.AircraftJson
import RbFeeder.Statistics.Record

/-! `stats.json`: `generateStatsJson` of `net_io.c`, and both generators together.

If the text does not fit, all of it is printed again into a buffer of the length that it
turned out to have and 50 more; so there are two attempts at most. -/
namespace RbFeeder.Net.Json
open ModeS (Byte)
open Track (Millis)
open Printing Statistics
open Fatsv (Text text unsigned signed fixed)

/-! ### Statistics -/

/-- A finite `double`, idealised as exact; they are smaller than `10 ^ 309`. -/
def Double : Type := { q : ℚ // |q| < 10 ^ 309 }

/-- What the statistics are printed with. -/
structure StatsOptions where
  net_only : Bool
  net : Bool
  nfix_crc : Fin 3
  /-- `10 * log10(…)`. -/
  tenLog10 : ℚ → Double
  sdrGetGainDb : ℤ → Double

/-! The counters in their order, with what is printed in front of each. -/

def localCounters : List (String × Counter32) :=
  [ (",\"modeac\":", .demodModeac), (",\"modes\":", .demodPreambles), (",\"bad\":", .demodRejectedBad),
    (",\"unknown_icao\":", .demodRejectedUnknownIcao) ]

def remoteCounters : List (String × Counter32) :=
  [ (",\"remote\":\x7b\"modeac\":", .remoteReceivedModeac), (",\"modes\":", .remoteReceivedModes),
    (",\"bad\":", .remoteRejectedBad), (",\"unknown_icao\":", .remoteRejectedUnknownIcao) ]

def cprCounters : List (String × Counter32) :=
  [ (",\"cpr\":\x7b\"surface\":", .cprSurface), (",\"airborne\":", .cprAirborne), (",\"global_ok\":", .cprGlobalOk),
    (",\"global_bad\":", .cprGlobalBad), (",\"global_range\":", .cprGlobalRangeChecks),
    (",\"global_speed\":", .cprGlobalSpeedChecks), (",\"global_skipped\":", .cprGlobalSkipped),
    (",\"local_ok\":", .cprLocalOk), (",\"local_aircraft_relative\":", .cprLocalAircraftRelative),
    (",\"local_receiver_relative\":", .cprLocalReceiverRelative), (",\"local_skipped\":", .cprLocalSkipped),
    (",\"local_range\":", .cprLocalRangeChecks), (",\"local_speed\":", .cprLocalSpeedChecks),
    (",\"filtered\":", .cprFiltered), ("\x7d,\"altitude_suppressed\":", .suppressedAltitudeMessages) ]

def trackCounters : List (String × Counter32) :=
  [ (",\"tracks\":\x7b\"all\":", .uniqueAircraft), (",\"single_message\":", .singleMessageAircraft),
    (",\"unreliable\":", .unreliableAircraft), ("\x7d,\"messages\":", .messagesTotal) ]

def adaptiveCounters : List (String × Counter32) :=
  [ (",\"gain_changes\":", .adaptiveGainChanges), (",\"loud_undecoded\":", .adaptiveLoudUndecoded),
    (",\"loud_decoded\":", .adaptiveLoudDecoded) ]

section Append
variable (opts : StatsOptions) (st : Stats Double)

/-- `%u` of a counter. -/
def counter (k : Counter32) : Text := unsigned (st.count32 k).toNat

/-- Counters with what is printed in front of each. -/
def counters (labels : List (String × Counter32)) : Text :=
  labels.flatMap fun label => text label.1 ++ counter st label.2

/-- A time of 64 bits in seconds. -/
def seconds (t : ℕ) : Text := fixed 1 (((BitVec.ofNat 64 t).toNat : ℚ) / 1000)

/-- `%.1f`. -/
def decimal (x : Double) : Text := fixed 1 x.val

/-- A loop over counters, with a different text in front of the first. -/
def appendCounters (first : String) : List Counter32 → List (Step Byte)
  | [] => []
  | k :: ks =>
    safe_snprintf (text first ++ counter st k) :: ks.map fun k => safe_snprintf (text "," ++ counter st k)

/-- The numbers of errors up to `Modes.nfix_crc`. -/
def correctable : List (Fin 3) := (List.finRange 3).filter fun errors => errors ≤ opts.nfix_crc

def appendLocal : List (Step Byte) :=
  [ safe_snprintf (text ",\"local\":\x7b\"samples_processed\":" ++ unsigned (st.count64 .samplesProcessed).toNat ++
      text ",\"samples_dropped\":" ++ unsigned (st.count64 .samplesDropped).toNat ++
      counters st localCounters),
    seq (appendCounters st ",\"accepted\":[" ((correctable opts).map .demodAccepted)),
    safe_snprintf (text "]"),
    onlyIf (decide (0 < st.signalPowerSum.val ∧ 0 < (st.count64 .signalPowerCount).toNat))
      (safe_snprintf (text ",\"signal\":" ++
        decimal (opts.tenLog10 (st.signalPowerSum.val / (st.count64 .signalPowerCount).toNat)))),
    onlyIf (decide (0 < st.noisePowerSum.val ∧ 0 < (st.count64 .noisePowerCount).toNat))
      (safe_snprintf (text ",\"noise\":" ++
        decimal (opts.tenLog10 (st.noisePowerSum.val / (st.count64 .noisePowerCount).toNat)))),
    onlyIf (decide (0 < st.peakSignalPower.val))
      (safe_snprintf (text ",\"peak_signal\":" ++ decimal (opts.tenLog10 st.peakSignalPower.val))),
    safe_snprintf (text ",\"strong_signals\":" ++ unsignedAsInt (st.count32 .strongSignalCount).toNat ++ text "\x7d") ]

def appendRemote : List (Step Byte) :=
  [ safe_snprintf (counters st remoteCounters),
    seq (appendCounters st ",\"accepted\":[" ((correctable opts).map .remoteAccepted)),
    safe_snprintf (text "]\x7d") ]

/-- `demod_cpu_millis` and the others. -/
def cpuMillis (cpu : Cpu) : BitVec 64 :=
  BitVec.ofInt 64 (st.cpu cpu).sec * 1000 + BitVec.ofInt 64 (st.cpu cpu).nsec / 1000000

/-- The text from `cpr` to `messages`. -/
def appendCounts : Step Byte :=
  safe_snprintf
    (counters st cprCounters ++
      text ",\"cpu\":\x7b\"demod\":" ++ unsigned (cpuMillis st .demod).toNat ++
      text ",\"reader\":" ++ unsigned (cpuMillis st .reader).toNat ++
      text ",\"background\":" ++ unsigned (cpuMillis st .background).toNat ++ text "\x7d" ++
      counters st trackCounters)

/-- The loop over `adaptive_gain_seconds`. -/
def appendGainSeconds : Bool → List (Fin 64) → List (Step Byte)
  | _, [] => []
  | first, i :: gains =>
    if (st.count32 (.adaptiveGainSeconds i)).toNat > 0 then
      safe_snprintf ((if first then [] else text ",") ++ text "[" ++ decimal (opts.sdrGetGainDb i) ++ text "," ++
        counter st (.adaptiveGainSeconds i) ++ text "]") :: appendGainSeconds false gains
    else appendGainSeconds first gains

def appendAdaptive : List (Step Byte) :=
  [ safe_snprintf (text ",\"adaptive\":\x7b\"gain_db\":" ++ decimal (opts.sdrGetGainDb st.adaptiveGain) ++
      text ",\"dynamic_range_limit_db\":" ++ decimal (opts.sdrGetGainDb st.adaptiveRangeGainLimit) ++
      counters st adaptiveCounters ++
      text ",\"noise_dbfs\":" ++ decimal st.adaptiveNoiseDbfs ++ text ",\"gain_seconds\":["),
    seq (appendGainSeconds opts st true (List.finRange 64)),
    safe_snprintf (text "]\x7d") ]

/-- `appendStatsJson(p, end, st, key)`. -/
def appendStatsJson (key : String) : Step Byte :=
  seq
    [ safe_snprintf (text "\"" ++ text key ++ text "\":\x7b\"start\":" ++ seconds st.start ++
        text ",\"end\":" ++ seconds st.stop),
      onlyIf (!opts.net_only) (seq (appendLocal opts st)),
      onlyIf opts.net (seq (appendRemote opts st)),
      appendCounts st,
      seq (appendCounters st ",\"messages_by_df\":[" ((List.finRange 32).map .messagesByDf)),
      safe_snprintf (text "]"),
      onlyIf st.adaptiveValid (seq (appendAdaptive opts st)),
      safe_snprintf (text "\x7d") ]

end Append

/-- The statistics that are printed. -/
structure PrintedStats where
  latest : Stats Double
  last1min : Stats Double
  last5min : Stats Double
  last15min : Stats Double
  alltime : Stats Double

/-- What is printed after the label `retry`. -/
def statsSteps (opts : StatsOptions) (all : PrintedStats) : Step Byte :=
  seq
    [ safe_snprintf (text "\x7b\n"),
      appendStatsJson opts all.latest "latest", safe_snprintf (text ",\n"),
      appendStatsJson opts all.last1min "last1min", safe_snprintf (text ",\n"),
      appendStatsJson opts all.last5min "last5min", safe_snprintf (text ",\n"),
      appendStatsJson opts all.last15min "last15min", safe_snprintf (text ",\n"),
      appendStatsJson opts all.alltime "total", safe_snprintf (text "\n\x7d\n") ]

/-- `generateStatsJson(url_path, len)`, from the label on: NULL or the text, and `len`. -/
def generateStatsJson (memory : Memory) (opts : StatsOptions) (all : PrintedStats) :
    Nat → Option Nat → Option (Option Text × Nat)
  | 0, _ => none
  | fuel + 1, buflen =>
    match malloc memory buflen with
    | none => some (none, 0)
    | some w =>
      (statsSteps opts all w).bind fun w =>
        if ¬ Overran 0 w then some (some w.text, w.p)
        else if w.p + 50 ≤ intMax then generateStatsJson memory opts all fuel (some (w.p + 50))
        else none

/-! ### The length of the text -/

/-- The step prints no more than so many characters. -/
def Short (n : Nat) (f : Step Byte) : Prop := Printer 0 f ∧ (printed 0 f).length ≤ n

section Short
variable {n : Nat} {f : Step Byte} {fs : List (Step Byte)}

theorem short_snprintf {s : Text} (h : s.length ≤ n) : Short n (safe_snprintf s) :=
  ⟨printer_safe_snprintf s, by rwa [printed_safe_snprintf]⟩

theorem Short.onlyIf (h : Short n f) (b : Bool) : Short n (onlyIf b f) := by
  refine ⟨h.1.onlyIf b, ?_⟩
  rw [(Appends.onlyIf h.1 b).printed_eq 0]
  cases b with
  | true => exact h.2
  | false => exact Nat.zero_le _

theorem short_seq {m : Nat} (h : ∀ f ∈ fs, Short n f) (hm : fs.length ≤ m) : Short (m * n) (seq fs) := by
  refine ⟨printer_seq fun f hf => (h f hf).1, ?_⟩
  rw [printed_seq fun f hf => (h f hf).1, List.length_flatten, List.map_map]
  refine (List.sum_le_card_nsmul _ n fun len hlen => ?_).trans ?_
  · obtain ⟨f, hf, rfl⟩ := List.mem_map.mp hlen
    exact (h f hf).2
  · rw [List.length_map, smul_eq_mul]
    exact Nat.mul_le_mul_right n hm

theorem Short.mono {m : Nat} (h : Short n f) (hle : n ≤ m) : Short m f := ⟨h.1, h.2.trans hle⟩

end Short

section Lengths
variable (opts : StatsOptions) (st : Stats Double)

theorem length_counter (k : Counter32) : (counter st k).length ≤ 10 :=
  length_unsigned_le (by decide) ((st.count32 k).toNat_lt.trans (by norm_num))

/-- No label is longer than fifty characters. -/
theorem length_counters (labels : List (String × Counter32))
    (h : (labels.all fun label => decide (label.1.toList.length ≤ 50)) = true) :
    (counters st labels).length ≤ labels.length * 60 := by
  rw [counters, List.length_flatMap]
  refine (List.sum_le_card_nsmul _ 60 fun len hlen => ?_).trans_eq (by rw [List.length_map, smul_eq_mul])
  obtain ⟨label, hlabel, rfl⟩ := List.mem_map.mp hlen
  have hname := of_decide_eq_true (List.all_eq_true.mp h label hlabel)
  have hcounter := length_counter st label.2
  rw [List.length_append, length_text]
  omega

theorem length_unsigned64 (n : BitVec 64) : (unsigned n.toNat).length ≤ 20 :=
  length_unsigned_le (by decide) (n.isLt.trans (by norm_num))

theorem length_decimal (x : Double) : (decimal x).length ≤ 320 :=
  (length_fixed_le 1 x.property).trans (by decide)

theorem length_seconds (t : ℕ) : (seconds t).length ≤ 30 := by
  have hlt : |((BitVec.ofNat 64 t).toNat : ℚ) / 1000| < 10 ^ 20 := by
    rw [abs_of_nonneg (by positivity), div_lt_iff₀ (by norm_num)]
    have hn : (BitVec.ofNat 64 t).toNat < 10 ^ 20 * 1000 := (BitVec.ofNat 64 t).isLt.trans (by norm_num)
    exact_mod_cast hn
  exact (length_fixed_le 1 hlt).trans (by decide)

theorem length_unsignedAsInt (k : Counter32) : (unsignedAsInt (st.count32 k).toNat).length ≤ 11 := by
  unfold unsignedAsInt
  have habs : (BitVec.ofNat 32 (st.count32 k).toNat).toInt.natAbs < 10 ^ 10 := by
    have := BitVec.toInt_lt (x := BitVec.ofNat 32 (st.count32 k).toNat)
    have := BitVec.le_toInt (x := BitVec.ofNat 32 (st.count32 k).toNat)
    omega
  have hdigits := length_unsigned_le (by decide) habs
  unfold signed
  split
  · simp only [List.length_append, length_text, String.reduceToList, List.length_cons, List.length_nil]
    omega
  · omega

theorem short_appendCounters {first : String} (hfirst : first.toList.length ≤ 100) (ks : List Counter32) :
    ∀ f ∈ appendCounters st first ks, Short 1000 f := by
  intro f hf
  cases ks with
  | nil => cases hf
  | cons k ks =>
    obtain rfl | hf := List.mem_cons.mp hf
    · have := length_counter st k
      exact short_snprintf (by rw [List.length_append, length_text]; omega)
    · obtain ⟨k', -, rfl⟩ := List.mem_map.mp hf
      have := length_counter st k'
      refine short_snprintf ?_
      simp only [List.length_append, length_text, String.reduceToList, List.length_cons, List.length_nil]
      omega

theorem length_appendCounters (first : String) (ks : List Counter32) :
    (appendCounters st first ks).length = ks.length := by
  cases ks with
  | nil => rfl
  | cons k ks => rw [appendCounters, List.length_cons, List.length_map, List.length_cons]

theorem short_accepted (name : String) (hname : name.toList.length ≤ 100) (k : Fin 3 → Counter32) :
    Short 3000 (seq (appendCounters st name ((correctable opts).map k))) := by
  refine short_seq (m := 3) (short_appendCounters st hname _) ?_
  rw [length_appendCounters, List.length_map]
  exact List.length_filter_le ..

theorem short_appendLocal : ∀ f ∈ appendLocal opts st, Short 3000 f := by
  have hpower : ∀ (name : String) (x : ℚ), name.toList.length ≤ 100 →
      Short 3000 (safe_snprintf (text name ++ decimal (opts.tenLog10 x))) := by
    intro name x hname
    have hdecimal := length_decimal (opts.tenLog10 x)
    refine short_snprintf ?_
    rw [List.length_append, length_text]
    omega
  simp only [appendLocal, List.forall_mem_cons, List.not_mem_nil, false_imp_iff, implies_true, and_true]
  refine ⟨short_snprintf ?_, short_accepted opts st ",\"accepted\":[" (by decide) _, short_snprintf (by decide),
    (hpower ",\"signal\":" _ (by decide)).onlyIf _, (hpower ",\"noise\":" _ (by decide)).onlyIf _,
    (hpower ",\"peak_signal\":" _ (by decide)).onlyIf _, short_snprintf ?_⟩
  · have hprocessed : (unsigned (st.count64 .samplesProcessed).toNat).length ≤ 20 :=
      length_unsigned64 (st.count64 .samplesProcessed).toBitVec
    have hdropped : (unsigned (st.count64 .samplesDropped).toNat).length ≤ 20 :=
      length_unsigned64 (st.count64 .samplesDropped).toBitVec
    have hcounters := length_counters st localCounters (by decide)
    have hlocal : localCounters.length = 4 := rfl
    simp only [List.length_append, length_text, String.reduceToList, List.length_cons, List.length_nil]
    omega
  · have hstrong := length_unsignedAsInt st .strongSignalCount
    simp only [List.length_append, length_text, String.reduceToList, List.length_cons, List.length_nil]
    omega

theorem short_appendRemote : ∀ f ∈ appendRemote opts st, Short 3000 f := by
  simp only [appendRemote, List.forall_mem_cons, List.not_mem_nil, false_imp_iff, implies_true, and_true]
  refine ⟨short_snprintf ?_, short_accepted opts st ",\"accepted\":[" (by decide) _, short_snprintf (by decide)⟩
  exact (length_counters st remoteCounters (by decide)).trans (by decide)

theorem short_appendGainSeconds (first : Bool) (gains : List (Fin 64)) :
    (∀ f ∈ appendGainSeconds opts st first gains, Short 1000 f) ∧
      (appendGainSeconds opts st first gains).length ≤ gains.length := by
  induction gains generalizing first with
  | nil => exact ⟨fun f hf => (by cases hf), le_refl _⟩
  | cons i gains ih =>
    rw [appendGainSeconds]
    split
    swap
    · exact ⟨(ih first).1, (ih first).2.trans (Nat.le_succ _)⟩
    refine ⟨?_, Nat.succ_le_succ (ih false).2⟩
    rw [List.forall_mem_cons]
    refine ⟨short_snprintf ?_, (ih false).1⟩
    have hgain := length_decimal (opts.sdrGetGainDb i)
    have hseconds := length_counter st (.adaptiveGainSeconds i)
    have hcomma : (if first then [] else text ",").length ≤ 1 := by cases first <;> decide
    simp only [List.length_append, length_text, String.reduceToList, List.length_cons, List.length_nil]
    omega

theorem short_appendAdaptive : ∀ f ∈ appendAdaptive opts st, Short 64000 f := by
  obtain ⟨hgains, hlength⟩ := short_appendGainSeconds opts st true (List.finRange 64)
  rw [List.length_finRange] at hlength
  simp only [appendAdaptive, List.forall_mem_cons, List.not_mem_nil, false_imp_iff, implies_true, and_true]
  refine ⟨short_snprintf ?_, short_seq hgains hlength, short_snprintf (by decide)⟩
  have hgain := length_decimal (opts.sdrGetGainDb st.adaptiveGain)
  have hlimit := length_decimal (opts.sdrGetGainDb st.adaptiveRangeGainLimit)
  have hnoise := length_decimal st.adaptiveNoiseDbfs
  have hcounters := length_counters st adaptiveCounters (by decide)
  have hadaptive : adaptiveCounters.length = 3 := rfl
  simp only [List.length_append, length_text, String.reduceToList, List.length_cons, List.length_nil]
  omega

theorem short_appendCounts : Short 3000 (appendCounts st) := by
  have hdemod := length_unsigned64 (cpuMillis st .demod)
  have hreader := length_unsigned64 (cpuMillis st .reader)
  have hbackground := length_unsigned64 (cpuMillis st .background)
  have hcpr := length_counters st cprCounters (by decide)
  have htracks := length_counters st trackCounters (by decide)
  have hcprLength : cprCounters.length = 15 := rfl
  have htracksLength : trackCounters.length = 4 := rfl
  refine short_snprintf ?_
  simp only [List.length_append, length_text, String.reduceToList, List.length_cons, List.length_nil]
  omega

theorem short_appendStatsJson {key : String} (hkey : key.toList.length ≤ 100) :
    Short 1536000 (appendStatsJson opts st key) := by
  have hdf : Short 32000 (seq (appendCounters st ",\"messages_by_df\":[" ((List.finRange 32).map .messagesByDf))) := by
    refine short_seq (m := 32) (short_appendCounters st (by decide) _) ?_
    rw [length_appendCounters, List.length_map, List.length_finRange]
  have hstart := length_seconds st.start
  have hstop := length_seconds st.stop
  refine short_seq (m := 8) (n := 192000) ?_ (le_refl _)
  simp only [List.forall_mem_cons, List.not_mem_nil, false_imp_iff, implies_true, and_true]
  refine ⟨short_snprintf ?_,
    ((short_seq (m := 7) (short_appendLocal opts st) (le_refl _)).mono (by decide)).onlyIf _,
    ((short_seq (m := 3) (short_appendRemote opts st) (le_refl _)).mono (by decide)).onlyIf _,
    (short_appendCounts st).mono (by decide), hdf.mono (by decide), short_snprintf (by decide),
    ((short_seq (m := 3) (short_appendAdaptive opts st) (le_refl _)).mono (by decide)).onlyIf _,
    short_snprintf (by decide)⟩
  simp only [List.length_append, length_text, String.reduceToList, List.length_cons, List.length_nil]
  omega

end Lengths

/-- All five statistics are short of what an `int` can hold. -/
theorem short_statsSteps (opts : StatsOptions) (all : PrintedStats) : Short 16896000 (statsSteps opts all) := by
  refine short_seq (m := 11) (n := 1536000) ?_ (le_refl _)
  simp only [List.forall_mem_cons, List.not_mem_nil, false_imp_iff, implies_true, and_true]
  exact ⟨short_snprintf (by decide), short_appendStatsJson opts _ (by decide), short_snprintf (by decide),
    short_appendStatsJson opts _ (by decide), short_snprintf (by decide), short_appendStatsJson opts _ (by decide),
    short_snprintf (by decide), short_appendStatsJson opts _ (by decide), short_snprintf (by decide),
    short_appendStatsJson opts _ (by decide), short_snprintf (by decide)⟩

/-! ### The text of the statistics -/

section Stats
variable (memory : Memory) (opts : StatsOptions) (all : PrintedStats)

def statsJson : Text := printed 0 (statsSteps opts all)

/-- The buffers of both attempts are to be had, the second if there is one. -/
def StatsGranted : Prop :=
  memory.granted 8192 = true ∧
    (8192 ≤ (statsJson opts all).length → memory.granted ((statsJson opts all).length + 50) = true)

/-- An attempt: without a buffer NULL, and in one of sufficient size the text. -/
theorem generateStatsJson_succ (fuel : Nat) (buflen : Option Nat) :
    generateStatsJson memory opts all (fuel + 1) buflen =
      if ∀ n ∈ buflen, memory.granted n = true then
        if ∀ n ∈ buflen, (statsJson opts all).length < n then
          some (some (statsJson opts all), (statsJson opts all).length)
        else generateStatsJson memory opts all fuel (some ((statsJson opts all).length + 50))
      else some (none, 0) := by
  obtain ⟨hprinter, hshort⟩ := short_statsSteps opts all
  rw [generateStatsJson, malloc]
  by_cases hgranted : ∀ n ∈ buflen, memory.granted n = true
  swap
  · rw [if_neg hgranted, if_neg hgranted]
  rw [if_pos hgranted, if_pos hgranted]
  obtain ⟨w, hrun, hmore⟩ := hprinter ⟨memory.held, 0, buflen⟩
  have hp : w.p = (statsJson opts all).length := hmore.p.trans (Nat.zero_add _)
  have hover : Overran 0 w ↔ ¬ ∀ n ∈ buflen, (statsJson opts all).length < n := by
    unfold Overran
    rw [hmore.size, hp]
    push Not
    rfl
  dsimp only
  rw [hrun, Option.bind_some]
  by_cases hfits : ∀ n ∈ buflen, (statsJson opts all).length < n
  · have htext : w.text = statsJson opts all := hmore.text fun n hn => by
      rw [Nat.zero_add]
      exact hfits n hn
    rw [if_pos (fun hfull => hover.mp hfull hfits), if_pos hfits, htext, hp]
  · have hlength : w.p + 50 ≤ intMax := by
      rw [hp]
      have hmax : 16896000 + 50 ≤ intMax := by decide
      exact (Nat.add_le_add_right hshort 50).trans hmax
    rw [if_neg (not_not.mpr (hover.mpr hfits)), if_pos hlength, if_neg hfits, hp]

theorem generateStatsJson_unbounded {fuel : Nat} (hfuel : 0 < fuel) :
    generateStatsJson memory opts all fuel none =
      some (some (statsJson opts all), (statsJson opts all).length) := by
  obtain ⟨fuel, rfl⟩ : ∃ n, fuel = n + 1 := ⟨fuel - 1, by omega⟩
  have hgranted : ∀ n ∈ (none : Option Nat), memory.granted n = true := by simp
  have hfits : ∀ n ∈ (none : Option Nat), (statsJson opts all).length < n := by simp
  rw [generateStatsJson_succ, if_pos hgranted, if_pos hfits]

/-- The second buffer is large enough. -/
theorem generateStatsJson_eq {fuel : Nat} (hfuel : 2 ≤ fuel) :
    (StatsGranted memory opts all → generateStatsJson memory opts all fuel (some 8192) =
      some (some (statsJson opts all), (statsJson opts all).length)) ∧
    (¬ StatsGranted memory opts all → generateStatsJson memory opts all fuel (some 8192) = some (none, 0)) := by
  obtain ⟨fuel, rfl⟩ : ∃ n, fuel = n + 2 := ⟨fuel - 2, by omega⟩
  have hfirst : ∀ p : Nat → Prop, (∀ n ∈ some 8192, p n) ↔ p 8192 := fun p => by simp
  have hsecond : ∀ p : Nat → Prop, (∀ n ∈ some ((statsJson opts all).length + 50), p n) ↔
      p ((statsJson opts all).length + 50) := fun p => by simp
  rw [generateStatsJson_succ, generateStatsJson_succ]
  simp only [hfirst, hsecond]
  unfold StatsGranted
  by_cases hgranted : memory.granted 8192 = true
  swap
  · rw [if_neg hgranted]
    exact ⟨fun h => absurd h.1 hgranted, fun _ => rfl⟩
  rw [if_pos hgranted]
  by_cases hfits : (statsJson opts all).length < 8192
  · rw [if_pos hfits]
    exact ⟨fun _ => rfl, fun h => absurd ⟨hgranted, fun hlong => absurd hfits (Nat.not_lt.mpr hlong)⟩ h⟩
  rw [if_neg hfits]
  by_cases hagain : memory.granted ((statsJson opts all).length + 50) = true
  · rw [if_pos hagain, if_pos (Nat.lt_add_of_pos_right (by decide))]
    exact ⟨fun _ => rfl, fun h => absurd ⟨hgranted, fun _ => hagain⟩ h⟩
  · rw [if_neg hagain]
    exact ⟨fun h => absurd (h.2 (Nat.not_lt.mp hfits)) hagain, fun _ => rfl⟩

end Stats

/-! ### Both generators -/

/-- What the two generators read. -/
structure JsonInputs where
  now : Millis
  current : BitVec 32
  alltime : BitVec 32
  aircrafts : List ListedAircraft
  opts : StatsOptions
  all : PrintedStats

namespace JsonInputs
variable (memory : Memory) (x : JsonInputs)

def tenLog10 (q : ℚ) : ℚ := (x.opts.tenLog10 q).val

/-- The text of `aircraft.json`. -/
def aircraftText : Text := aircraftJson x.now x.tenLog10 x.current x.alltime x.aircrafts

/-- The text of `stats.json`. -/
def statsText : Text := statsJson x.opts x.all

/-- With the buffers that they begin with and without an end, both generators come to an
end, stay in their buffers and return the whole text. -/
structure GrowsUnnoticed : Prop where
  aircraft : ∃ n, ∀ fuel ≥ n,
    generateAircraftJson memory fuel x.now x.tenLog10 (some 32768) x.current x.alltime x.aircrafts =
        some (x.aircraftText, x.aircraftText.length) ∧
      generateAircraftJson memory fuel x.now x.tenLog10 none x.current x.alltime x.aircrafts =
        some (x.aircraftText, x.aircraftText.length)
  stats : ∃ n, ∀ fuel ≥ n,
    generateStatsJson memory x.opts x.all fuel (some 8192) = some (some x.statsText, x.statsText.length) ∧
      generateStatsJson memory x.opts x.all fuel none = some (some x.statsText, x.statsText.length)

theorem enough_of_growsUnnoticed (h : x.GrowsUnnoticed memory) : Enough memory (x.aircraftText.length + 3) := by
  obtain ⟨n, hn⟩ := h.aircraft
  by_contra hnot
  have hnone := (generateAircraftJson_eq memory x.now x.tenLog10 x.current x.alltime x.aircrafts
    (le_max_right n 16)).2 hnot
  cases hnone.symm.trans (hn _ (le_max_left n 16)).1

/-- **Main theorem.** The buffers grow unnoticed exactly if memory is to be had for them
and doubling leads to one that is larger than the text of the aircraft, which it does below
`2 ^ 30` characters (`enough_iff`). -/
theorem growsUnnoticed_iff :
    x.GrowsUnnoticed memory ↔
      Enough memory (x.aircraftText.length + 3) ∧ StatsGranted memory x.opts x.all := by
  constructor
  · intro h
    refine ⟨x.enough_of_growsUnnoticed memory h, ?_⟩
    obtain ⟨n, hn⟩ := h.stats
    by_contra hnot
    have hnull := (generateStatsJson_eq memory x.opts x.all (le_max_right n 2)).2 hnot
    cases hnull.symm.trans (hn _ (le_max_left n 2)).1
  · intro h
    obtain ⟨haircraft, hstats⟩ := h
    refine ⟨⟨16, fun fuel hfuel => ⟨?_, ?_⟩⟩, ⟨2, fun fuel hfuel => ⟨?_, ?_⟩⟩⟩
    · exact (generateAircraftJson_eq memory x.now x.tenLog10 x.current x.alltime x.aircrafts hfuel).1 haircraft
    · exact generateAircraftJson_unbounded memory x.now x.tenLog10 x.current x.alltime x.aircrafts (by omega)
    · exact (generateStatsJson_eq memory x.opts x.all hfuel).1 hstats
    · exact generateStatsJson_unbounded memory x.opts x.all (by omega)

end JsonInputs

/-- If all memory is to be had, the limit is that of an `int`. -/
theorem enough_iff {memory : Memory} (hmemory : ∀ n ≤ intMax, memory.granted n = true) (need : Nat) :
    Enough memory need ↔ need < 2 ^ 30 := by
  have hlast : bufferSize 15 = 2 ^ 30 := by decide
  constructor
  · intro h
    obtain ⟨k, hk, hneed⟩ := h
    have := bufferSize_mono hk.1
    omega
  · intro h
    refine ⟨15, ⟨le_refl _, fun j hj => hmemory _ (bufferSize_le_intMax.mpr hj)⟩, ?_⟩
    omega

/-! ### Too many aircraft -/

theorem abs_zero_lt : |(0 : ℚ)| < 10 ^ 309 := by
  rw [abs_zero]
  positivity

/-- As much memory as anyone asks for. -/
def plenty : Memory := ⟨fun _ => true, fun _ => 0⟩

/-- An aircraft that was heard often, but not what it sent. -/
def heardAircraft (addr : BitVec 32) : ListedAircraft where
  addr := addr
  addrtype := .adsbIcao
  seen := 1700000000000
  messages := 5
  reliable := true
  reliableDF11 := 5
  reliableDF17 := 0
  discarded := 0
  category := 0
  adsbVersion := -1
  adsrVersion := 0
  tisbVersion := 0
  adsbHrd := .magnetic
  adsbTah := .groundTrack
  data f := ⟨.never 60000 70000, f.zero⟩
  signalLevel _ := 799999 / 800000
  modeA_hit := false
  modeC_hit := false

/-- Statistics of nothing. -/
def noStatistics : Stats Double where
  start := 0
  stop := 0
  count32 _ := 0
  count64 _ := 0
  cpu _ := ⟨0, 0⟩
  noisePowerSum := ⟨0, abs_zero_lt⟩
  signalPowerSum := ⟨0, abs_zero_lt⟩
  peakSignalPower := ⟨0, abs_zero_lt⟩
  adaptiveValid := false
  adaptiveGain := 0
  adaptiveNoiseDbfs := ⟨0, abs_zero_lt⟩
  adaptiveRangeGainLimit := 0

/-- How many addresses there are of 24 bits, without 0. -/
@[irreducible] def addresses : Nat := 16777215

theorem addresses_eq : addresses = 16777215 := by
  unfold addresses
  rfl

/-- Every address is that of an aircraft. -/
def crowded : JsonInputs where
  now := 1700000000000
  current := 0
  alltime := 0
  aircrafts := (List.range addresses).map fun i => heardAircraft (BitVec.ofNat 32 (i + 1))
  opts := ⟨false, true, 1, fun _ => ⟨0, abs_zero_lt⟩, fun _ => ⟨0, abs_zero_lt⟩⟩
  all := ⟨noStatistics, noStatistics, noStatistics, noStatistics, noStatistics⟩

theorem length_lines_crowded : (lines crowded.now crowded.tenLog10 crowded.aircrafts).length = addresses := by
  have hall : ∀ a ∈ crowded.aircrafts, a.reliable = true := by
    intro a ha
    obtain ⟨i, -, rfl⟩ := List.mem_map.mp ha
    rfl
  have hlength : crowded.aircrafts.length = addresses := (List.length_map _).trans List.length_range
  rw [lines, List.filter_eq_self.mpr hall, List.length_map, hlength]

/-- The buffer cannot be doubled sixteen times. -/
theorem not_growsUnnoticed_crowded : ¬ crowded.GrowsUnnoticed plenty := by
  intro h
  have henough := (enough_iff (fun n _ => rfl) _).mp (crowded.enough_of_growsUnnoticed plenty h)
  have hlines : ∀ line ∈ lines crowded.now crowded.tenLog10 crowded.aircrafts, 65 ≤ line.length := by
    intro line hline
    obtain ⟨a, -, rfl⟩ := List.mem_map.mp hline
    exact le_length_aircraftLine _ a _
  have hlong := le_length_joined hlines true
  rw [length_lines_crowded, addresses_eq] at hlong
  have htext : (joined true (lines crowded.now crowded.tenLog10 crowded.aircrafts)).length ≤
      crowded.aircraftText.length := length_joined_le _ _ _ _ _
  omega

end RbFeeder.Net.Json
