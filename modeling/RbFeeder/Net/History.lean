import RbFeeder.Lib.Decimal
import RbFeeder.Net.Fatsv

/-! The history of `aircraft.json`, for the web pages: `backgroundTasks`, `generateHistoryJson`,
`generateReceiverJson` and `writeJsonToFile`.

Every 30 seconds a snapshot goes over the oldest one of 120, and into a file of its own;
`receiver.json` says how many there are. The program has two main programs with a
`backgroundTasks` each, and the second one, `rbfeeder.c`, has other names for the files.
But `generateHistoryJson` takes the number out of the name of the file and knows only the
names of the first one: the files of the second one are all empty
(`rbfeeder_history`), those of the first one are the last snapshots (`dump1090_history`).
Times are natural numbers: milliseconds in `uint64_t` do not wrap around. -/
namespace RbFeeder.Net
open Fatsv (Text text unsigned fixed)

/-- `HISTORY_SIZE`. -/
def historySize : Nat := 120

/-- `HISTORY_INTERVAL`. -/
def historyInterval : Nat := 30000

/-- What is read of `Modes` for `receiver.json`. -/
structure ReceiverOptions where
  version : Text
  json_interval : Nat
  json_location_accuracy : Nat
  fUserLat : ℚ
  fUserLon : ℚ

/-- The rest of `Modes` that is used, and the files in `json_dir`. -/
structure Web where
  /-- `json_aircraft_history[].content`. -/
  json_aircraft_history : Nat → Option Text
  json_aircraft_history_next : Nat
  next_history : Nat
  files : Text → Option Text

/-! ### Generators -/

/-- `receiver.json`, with this number of snapshots. -/
def receiverJson (opts : ReceiverOptions) (history_size : Nat) : Text :=
  let position digits := text ", \"lat\" : " ++ fixed digits opts.fUserLat ++ text ", \"lon\" : " ++
    fixed digits opts.fUserLon
  text "\x7b \"version\" : \"" ++ opts.version ++ text "\", \"refresh\" : " ++ fixed 0 opts.json_interval ++
    text ", \"history\" : " ++ unsigned history_size ++
    (if opts.json_location_accuracy ≠ 0 ∧ (opts.fUserLat ≠ 0 ∨ opts.fUserLon ≠ 0) then
      if opts.json_location_accuracy = 1 then position 2 else position 6
    else []) ++ text " \x7d\n"

/-- `generateReceiverJson`. -/
def generateReceiverJson (opts : ReceiverOptions) (w : Web) : Text :=
  receiverJson opts
    (if w.json_aircraft_history (historySize - 1) = none then w.json_aircraft_history_next else historySize)

/-- `sscanf(url_path, "/data/history_%d.json", &history_index)`, when it returns 1. -/
def scanHistoryIndex (url_path : Text) : Option Int := do
  let number ← (text "/data/history_").isPrefixOf? url_path
  let (history_index, _) ← Decimal.scan number
  some history_index

/-- `generateHistoryJson`. -/
def generateHistoryJson (w : Web) (url_path : Text) : Option Text := do
  let history_index ← scanHistoryIndex url_path
  if history_index < 0 ∨ history_index ≥ historySize then none else w.json_aircraft_history history_index.toNat

/-- `writeJsonToFile`: the new file takes the place of the old one, if no call fails. Of `NULL` no byte is written, and
that succeeds. -/
def writeJsonToFile (w : Web) (file : Text) (generator : Text → Option Text) (succeeds : Bool) : Web :=
  if succeeds then
    { w with files := Function.update w.files file (some ((generator (text "/data/" ++ file)).getD [])) }
  else w

/-! ### Background tasks -/

/-- The names of the files of a main program. -/
structure FileNames where
  history : Nat → Text
  receiver : Text

def dump1090Files : FileNames where
  history next := text "history_" ++ unsigned next ++ text ".json"
  receiver := text "receiver.json"

def rbfeederFiles : FileNames where
  history next := text "rbfeeder_history_" ++ unsigned next ++ text ".json"
  receiver := text "rbfeeder_receiver.json"

/-- One call: the time, what `generateAircraftJson` returns, and whether the files can be written. -/
structure BackgroundCall where
  now : Nat
  aircraft : Text
  opts : ReceiverOptions
  historyWritten : Bool
  receiverWritten : Bool

/-- The part of `backgroundTasks` that is about the history; `json_dir` is set. -/
def backgroundHistory (names : FileNames) (w : Web) (call : BackgroundCall) : Web :=
  if call.now ≥ w.next_history then
    let rewrite_receiver_json := (w.json_aircraft_history (historySize - 1)).isNone
    let next := w.json_aircraft_history_next
    let w := { w with json_aircraft_history := Function.update w.json_aircraft_history next (some call.aircraft) }
    let w := writeJsonToFile w (names.history next) (generateHistoryJson w) call.historyWritten
    let w := { w with json_aircraft_history_next := (next + 1) % historySize }
    let w :=
      if rewrite_receiver_json then
        writeJsonToFile w names.receiver (fun _ => some (generateReceiverJson call.opts w)) call.receiverWritten
      else w
    { w with next_history := call.now + historyInterval }
  else w

/-- Nothing is there yet. -/
def Web.start : Web := ⟨fun _ => none, 0, 0, fun _ => none⟩

/-- Some calls, and the snapshots that were taken. -/
def historyRun (names : FileNames) (calls : List BackgroundCall) : Web × List Text :=
  calls.foldl
    (fun (w, taken) call =>
      (backgroundHistory names w call, if call.now ≥ w.next_history then taken ++ [call.aircraft] else taken))
    (Web.start, [])

/-! ### Names -/

theorem isDigit_json : ∀ c ∈ (text ".json").head?, Decimal.isDigit c = false := by decide

/-- The number of a name is found again. -/
theorem scan_dump1090 (i : Nat) : scanHistoryIndex (text "/data/" ++ dump1090Files.history i) = some (i : Int) := by
  have hpath : text "/data/" ++ dump1090Files.history i = text "/data/history_" ++ (unsigned i ++ text ".json") := by
    show text "/data/" ++ (text "history_" ++ unsigned i ++ text ".json") = _
    rw [← List.append_assoc, ← List.append_assoc, ← List.append_assoc]
    rfl
  rw [scanHistoryIndex, hpath, List.isPrefixOf?_eq_some_iff_append_eq.mpr rfl]
  show (Decimal.scan (Decimal.bytes i ++ text ".json")).bind _ = _
  rw [Decimal.scan_bytes i isDigit_json]
  rfl

/-- There is none in the other names. -/
theorem scan_rbfeeder (i : Nat) : scanHistoryIndex (text "/data/" ++ rbfeederFiles.history i) = none := by
  have hnone : (text "/data/history_").isPrefixOf? (text "/data/" ++ rbfeederFiles.history i) = none := by
    show (text "/data/history_").isPrefixOf? (text "/data/rbfeeder_history_" ++ unsigned i ++ text ".json") = none
    rfl
  rw [scanHistoryIndex, hnone]
  rfl

theorem unsigned_injective {i j : Nat} (h : unsigned i = unsigned j) : i = j := by
  rw [← Decimal.value_bytes i, ← Decimal.value_bytes j]
  exact congrArg Decimal.value h

/-- What is known of the names of the files, and what `generateHistoryJson` makes of a snapshot. -/
structure FileNames.Lawful (names : FileNames) (answer : Option Text → Option Text) : Prop where
  injective : ∀ i j, names.history i = names.history j → i = j
  receiver : ∀ i, names.history i ≠ names.receiver
  answers : ∀ w i, i < historySize →
    generateHistoryJson w (text "/data/" ++ names.history i) = answer (w.json_aircraft_history i)

theorem lawful_dump1090 : dump1090Files.Lawful id where
  injective i j h := unsigned_injective (List.append_cancel_left (List.append_cancel_right h))
  receiver i h := by
    have hhead : (dump1090Files.history i).head? = dump1090Files.receiver.head? := congrArg List.head? h
    exact absurd hhead (by
      show some (0x68 : BitVec 8) ≠ some 0x72
      decide)
  answers w i hi := by
    rw [generateHistoryJson, scan_dump1090]
    show (if (i : Int) < 0 ∨ (i : Int) ≥ (historySize : Nat) then none else w.json_aircraft_history (i : Int).toNat) = _
    rw [if_neg (by omega), Int.toNat_natCast]
    rfl

theorem lawful_rbfeeder : rbfeederFiles.Lawful fun _ => none where
  injective i j h := unsigned_injective (List.append_cancel_left (List.append_cancel_right h))
  receiver i h := by
    have hhead : ((rbfeederFiles.history i).drop 9).head? = (rbfeederFiles.receiver.drop 9).head? :=
      congrArg (fun s => (s.drop 9).head?) h
    exact absurd hhead (by
      show some (0x68 : BitVec 8) ≠ some 0x72
      decide)
  answers w i _ := by
    rw [generateHistoryJson, scan_rbfeeder]
    rfl

/-! ### Runs -/

/-- The number of the last of `n` snapshots that went into a slot. -/
def lastIndex (n i : Nat) : Nat := i + historySize * ((n - 1 - i) / historySize)

theorem lastIndex_lt {n i : Nat} (h : i < n) : lastIndex n i < n := by
  unfold lastIndex historySize
  omega

/-- The slots hold the last snapshots, the files what is made of them, and `receiver.json` says how many there are. -/
structure Kept (names : FileNames) (answer : Option Text → Option Text) (w : Web) (taken : List Text) : Prop where
  next : w.json_aircraft_history_next = taken.length % historySize
  content : ∀ i < historySize, w.json_aircraft_history i =
    if i < taken.length then taken[lastIndex taken.length i]? else none
  history : ∀ i < historySize, w.files (names.history i) =
    if i < taken.length then some ((answer (w.json_aircraft_history i)).getD []) else none
  receiver : 0 < taken.length → ∃ opts, w.files names.receiver = some (receiverJson opts (min taken.length historySize))

theorem kept_start (names : FileNames) (answer : Option Text → Option Text) : Kept names answer Web.start [] :=
  ⟨rfl, fun _ _ => rfl, fun _ _ => rfl, fun h => absurd h (Nat.lt_irrefl 0)⟩

variable {names : FileNames} {answer : Option Text → Option Text} {w : Web} {taken : List Text}

theorem Kept.isNone_last (h : Kept names answer w taken) :
    (w.json_aircraft_history (historySize - 1)).isNone = true ↔ taken.length < historySize := by
  rw [h.content _ (by decide)]
  split
  · next hlt =>
    rw [List.getElem?_eq_getElem (lastIndex_lt hlt)]
    refine iff_of_false (by exact Bool.false_ne_true) ?_
    unfold historySize at hlt ⊢
    omega
  · next hge =>
    refine iff_of_true rfl ?_
    unfold historySize at hge ⊢
    omega

/-- The slots after another snapshot. -/
theorem content_concat (hcontent : ∀ i < historySize, w.json_aircraft_history i =
      if i < taken.length then taken[lastIndex taken.length i]? else none) (snapshot : Text) {i : Nat}
    (hi : i < historySize) :
    Function.update w.json_aircraft_history (taken.length % historySize) (some snapshot) i =
      if i < (taken ++ [snapshot]).length then (taken ++ [snapshot])[lastIndex (taken ++ [snapshot]).length i]?
      else none := by
  rw [List.length_append, List.length_singleton]
  by_cases hslot : i = taken.length % historySize
  · have hlast : lastIndex (taken.length + 1) i = taken.length := by
      unfold lastIndex historySize at *
      omega
    have hlt : i < taken.length + 1 := by
      rw [hslot]
      exact Nat.lt_succ_of_le (Nat.mod_le _ _)
    rw [hslot, Function.update_self, ← hslot, if_pos hlt, hlast, List.getElem?_concat_length]
  · rw [Function.update_of_ne hslot, hcontent i hi]
    by_cases hlt : i < taken.length
    · have hlast : lastIndex (taken.length + 1) i = lastIndex taken.length i := by
        unfold lastIndex historySize at *
        omega
      rw [if_pos hlt, if_pos (by omega), hlast, List.getElem?_append_left (lastIndex_lt hlt)]
    · have hnot : ¬ i < taken.length + 1 := by
        unfold historySize at *
        omega
      rw [if_neg hlt, if_neg hnot]

variable (names w) in
/-- Another snapshot, when the files can be written. -/
theorem backgroundHistory_eq {call : BackgroundCall} (hdue : call.now ≥ w.next_history)
    (hhistory : call.historyWritten = true) (hreceiver : call.receiverWritten = true) {slots : Nat → Option Text}
    (hslots : Function.update w.json_aircraft_history w.json_aircraft_history_next (some call.aircraft) = slots)
    {files : Text → Option Text}
    (hfiles : Function.update w.files (names.history w.json_aircraft_history_next)
      (some ((generateHistoryJson { w with json_aircraft_history := slots }
        (text "/data/" ++ names.history w.json_aircraft_history_next)).getD [])) = files) :
    backgroundHistory names w call = {
      json_aircraft_history := slots
      json_aircraft_history_next := (w.json_aircraft_history_next + 1) % historySize
      next_history := call.now + historyInterval
      files :=
        if (w.json_aircraft_history (historySize - 1)).isNone then
          Function.update files names.receiver (some (receiverJson call.opts
            (if slots (historySize - 1) = none then (w.json_aircraft_history_next + 1) % historySize else historySize)))
        else files } := by
  subst hslots
  subst hfiles
  rw [backgroundHistory, if_pos hdue, hhistory, hreceiver]
  dsimp only
  cases (w.json_aircraft_history (historySize - 1)).isNone <;> rfl

/-- Another snapshot is taken, and the files are written. -/
theorem Kept.background (hnames : names.Lawful answer) (h : Kept names answer w taken) {call : BackgroundCall}
    (hdue : call.now ≥ w.next_history) (hhistory : call.historyWritten = true) (hreceiver : call.receiverWritten = true) :
    Kept names answer (backgroundHistory names w call) (taken ++ [call.aircraft]) := by
  have hslot : taken.length % historySize < historySize := Nat.mod_lt _ (by decide)
  have hlength : (taken ++ [call.aircraft]).length = taken.length + 1 := by
    rw [List.length_append, List.length_singleton]
  rw [backgroundHistory_eq names w hdue hhistory hreceiver rfl rfl, h.next, hnames.answers _ _ hslot]
  dsimp only
  rw [Function.update_self]
  have hnew := fun i (hi : i < historySize) => content_concat h.content call.aircraft hi
  have hwritten : ∀ i < historySize, Function.update w.files (names.history (taken.length % historySize))
      (some ((answer (some call.aircraft)).getD [])) (names.history i) =
        if i < taken.length + 1 then some ((answer (Function.update w.json_aircraft_history (taken.length % historySize)
          (some call.aircraft) i)).getD []) else none := by
    intro i hi
    by_cases heq : i = taken.length % historySize
    · have hlt : i < taken.length + 1 := heq ▸ Nat.lt_succ_of_le (Nat.mod_le _ _)
      rw [heq, Function.update_self, Function.update_self, ← heq, if_pos hlt]
    · rw [Function.update_of_ne (fun hsame => heq (hnames.injective _ _ hsame)), h.history i hi,
        Function.update_of_ne heq]
      refine if_congr ?_ rfl rfl
      unfold historySize at *
      omega
  have hkept : Function.update w.files (names.history (taken.length % historySize))
      (some ((answer (some call.aircraft)).getD [])) names.receiver = w.files names.receiver :=
    Function.update_of_ne (hnames.receiver _).symm ..
  generalize Function.update w.json_aircraft_history (taken.length % historySize) (some call.aircraft) = slots
    at hnew hwritten ⊢
  generalize Function.update w.files (names.history (taken.length % historySize))
    (some ((answer (some call.aircraft)).getD [])) = files at hwritten hkept ⊢
  by_cases hrewrite : taken.length < historySize
  · rw [h.isNone_last.mpr hrewrite, if_pos rfl]
    refine ⟨?_, hnew, fun i hi => ?_, fun _ => ⟨call.opts, ?_⟩⟩
    · rw [hlength, Nat.mod_add_mod]
    · dsimp only
      rw [Function.update_of_ne (hnames.receiver i), hlength]
      exact hwritten i hi
    · dsimp only
      rw [Function.update_self, hnew _ (by decide), hlength]
      congr 2
      by_cases hlt : historySize - 1 < taken.length + 1
      · rw [if_pos hlt, List.getElem?_eq_getElem (by rw [hlength]; exact lastIndex_lt hlt),
          if_neg (Option.some_ne_none _)]
        unfold historySize at *
        omega
      · rw [if_neg hlt, if_pos rfl]
        unfold historySize at *
        omega
  · rw [Bool.eq_false_iff.mpr fun htrue => hrewrite (h.isNone_last.mp htrue), if_neg Bool.false_ne_true]
    refine ⟨?_, hnew, fun i hi => ?_, fun _ => ?_⟩
    · rw [hlength, Nat.mod_add_mod]
    · rw [hlength]
      exact hwritten i hi
    · have hpos : 0 < taken.length := by
        unfold historySize at hrewrite
        omega
      obtain ⟨opts, hopts⟩ := h.receiver hpos
      refine ⟨opts, hkept.trans ?_⟩
      rw [hopts, hlength, Nat.min_eq_right (by omega), Nat.min_eq_right (by omega)]

theorem kept_historyRun (hnames : names.Lawful answer) {calls : List BackgroundCall}
    (hwritten : ∀ call ∈ calls, call.historyWritten = true ∧ call.receiverWritten = true) :
    Kept names answer (historyRun names calls).1 (historyRun names calls).2 := by
  refine List.foldlRecOn (motive := fun r : Web × List Text => Kept names answer r.1 r.2) calls _ (kept_start names answer) ?_
  intro r hr call hcall
  obtain ⟨w, taken⟩ := r
  dsimp only
  split
  · next hdue => exact hr.background hnames hdue (hwritten call hcall).1 (hwritten call hcall).2
  · next hearly =>
    rw [backgroundHistory, if_neg hearly]
    exact hr

/-- **Main theorem.** The files of the first main program are the last snapshots, and `receiver.json` says how many there
are. -/
theorem dump1090_history {calls : List BackgroundCall} {w : Web} (taken : List Text)
    (hrun : historyRun dump1090Files calls = (w, taken))
    (hwritten : ∀ call ∈ calls, call.historyWritten = true ∧ call.receiverWritten = true) :
    (∀ i < historySize, w.files (dump1090Files.history i) =
      if i < taken.length then taken[lastIndex taken.length i]? else none) ∧
      (0 < taken.length →
        ∃ opts, w.files dump1090Files.receiver = some (receiverJson opts (min taken.length historySize))) := by
  have hkept := kept_historyRun lawful_dump1090 hwritten
  rw [hrun] at hkept
  refine ⟨fun i hi => ?_, hkept.receiver⟩
  rw [hkept.history i hi, hkept.content i hi]
  split
  · next hlt =>
    rw [List.getElem?_eq_getElem (lastIndex_lt hlt)]
    rfl
  · rfl

/-- **Main theorem.** The files of the second main program are empty, although its `receiver.json` says the same. -/
theorem rbfeeder_history {calls : List BackgroundCall} {w : Web} (taken : List Text)
    (hrun : historyRun rbfeederFiles calls = (w, taken))
    (hwritten : ∀ call ∈ calls, call.historyWritten = true ∧ call.receiverWritten = true) :
    (∀ i < historySize, w.files (rbfeederFiles.history i) = if i < taken.length then some [] else none) ∧
      (0 < taken.length →
        ∃ opts, w.files rbfeederFiles.receiver = some (receiverJson opts (min taken.length historySize))) := by
  have hkept := kept_historyRun lawful_rbfeeder hwritten
  rw [hrun] at hkept
  exact ⟨fun i hi => hkept.history i hi, hkept.receiver⟩

/-! ### Once around -/

/-- A snapshot every half minute, with its number. -/
def snapshot (n : Nat) : BackgroundCall where
  now := historyInterval * n
  aircraft := unsigned n
  opts := ⟨text "3.0", 1000, 0, 0, 0⟩
  historyWritten := true
  receiverWritten := true

/-- One more than there are slots. -/
def snapshots : List BackgroundCall := (List.range 121).map snapshot

theorem written_snapshots : ∀ call ∈ snapshots, call.historyWritten = true ∧ call.receiverWritten = true := by
  intro call hcall
  obtain ⟨k, -, rfl⟩ := List.mem_map.mp hcall
  exact ⟨rfl, rfl⟩

theorem taken_dump1090 : (historyRun dump1090Files snapshots).2 = (List.range 121).map unsigned := by
  decide +kernel

theorem taken_rbfeeder : (historyRun rbfeederFiles snapshots).2 = (List.range 121).map unsigned := by
  decide +kernel

/-- The last snapshot has taken the slot of the first one. -/
theorem dump1090_history_around :
    (historyRun dump1090Files snapshots).1.files (dump1090Files.history 0) = some (unsigned 120) ∧
      (historyRun dump1090Files snapshots).1.files (dump1090Files.history 1) = some (unsigned 1) ∧
      ∃ opts, (historyRun dump1090Files snapshots).1.files dump1090Files.receiver =
        some (receiverJson opts 120) := by
  have htaken := taken_dump1090
  rcases hrun : historyRun dump1090Files snapshots with ⟨w, taken⟩
  rw [hrun] at htaken
  obtain rfl : taken = (List.range 121).map unsigned := htaken
  obtain ⟨hslots, hreceiver⟩ := dump1090_history _ hrun written_snapshots
  rw [List.length_map, List.length_range] at hreceiver
  exact ⟨(hslots 0 (by decide)).trans (by decide +kernel), (hslots 1 (by decide)).trans (by decide +kernel),
    hreceiver (by decide +kernel)⟩

theorem rbfeeder_history_around :
    (historyRun rbfeederFiles snapshots).1.files (rbfeederFiles.history 0) = some [] ∧
      (historyRun rbfeederFiles snapshots).1.files (rbfeederFiles.history 1) = some [] ∧
      ∃ opts, (historyRun rbfeederFiles snapshots).1.files rbfeederFiles.receiver =
        some (receiverJson opts 120) := by
  have htaken := taken_rbfeeder
  rcases hrun : historyRun rbfeederFiles snapshots with ⟨w, taken⟩
  rw [hrun] at htaken
  obtain rfl : taken = (List.range 121).map unsigned := htaken
  obtain ⟨hslots, hreceiver⟩ := rbfeeder_history _ hrun written_snapshots
  rw [List.length_map, List.length_range] at hreceiver
  exact ⟨(hslots 0 (by decide)).trans (by decide +kernel), (hslots 1 (by decide)).trans (by decide +kernel),
    hreceiver (by decide +kernel)⟩

end RbFeeder.Net
