import RbFeeder.Lib.Printer
import RbFeeder.Net.Fatsv

/-! `aircraft.json`: `generateAircraftJson` of `net_io.c`, with a buffer that grows.

The text of an aircraft is printed to the end whether it fits or not. If it did not, the
buffer is doubled and the same aircraft is printed again from where it began. The text is
that of a buffer without end (`generateAircraftJson_eq`), until `buflen`, which is an
`int`, cannot be doubled any more. -/
namespace RbFeeder.Net.Json
open ModeS (Byte modesNonIcaoAddress)
open Track (Millis Source DataValidity)
open Tracker Printing
open Fatsv (Text text chars padded unsigned signed hex upperHex fixed roundEven cString value addrtype_enum_string emergency_enum_string
  sil_type_enum_string mrar_source_enum_string hazard_enum_string)

/-! ### Pieces -/

/-- `safe_snprintf(p, end, …)` with the formatted text. -/
def safe_snprintf (s : Text) : Step Byte := snprintf 0 s

/-- `%d` of an `unsigned`. -/
def unsignedAsInt (n : Nat) : Text := signed (BitVec.ofNat 32 n).toInt

/-- `jsonEscapeString(str)`; its buffer has room for many times a callsign. -/
def jsonEscapeString (str : List Byte) : Text :=
  (cString str).flatMap fun ch =>
    if ch = 0x22 ∨ ch = 0x5c then [0x5c, ch]
    else if ch < 32 ∨ ch > 127 then text "\\u" ++ hex 4 ch.toNat
    else [ch]

/-- The names that `append_flags` prints, in their order. -/
def flagNames : List (Datum × String) :=
  [ (.callsign, "\"callsign\","), (.altitudeBaro, "\"altitude\","), (.altitudeGeom, "\"alt_geom\","),
    (.gs, "\"gs\","), (.ias, "\"ias\","), (.tas, "\"tas\","), (.mach, "\"mach\","), (.track, "\"track\","),
    (.trackRate, "\"track_rate\","), (.roll, "\"roll\","), (.magHeading, "\"mag_heading\","),
    (.trueHeading, "\"true_heading\","), (.baroRate, "\"baro_rate\","), (.geomRate, "\"geom_rate\","),
    (.squawk, "\"squawk\","), (.emergency, "\"emergency\","), (.navQnh, "\"nav_qnh\","),
    (.navAltitudeMcp, "\"nav_altitude_mcp\","), (.navAltitudeFms, "\"nav_altitude_fms\","),
    (.navHeading, "\"nav_heading\","), (.navModes, "\"nav_modes\","),
    (.position, "\"lat\",\"lon\",\"nic\",\"rc\","), (.nicBaro, "\"nic_baro\","), (.nacP, "\"nac_p\","),
    (.nacV, "\"nac_v\","), (.sil, "\"sil\",\"sil_type\","), (.gva, "\"gva\","), (.sda, "\"sda\",") ]

/-- `append_flags(p, end, a, source)`. -/
def append_flags (a : Aircraft) (source : Source) : Step Byte :=
  seq
    [ safe_snprintf (text "["),
      overLast
        (seq (flagNames.map fun flag =>
          onlyIf (decide ((a.data flag.1).valid.source = source)) (safe_snprintf (text flag.2))))
        (safe_snprintf (text "]")) ]

/-- `nav_modes_names`. -/
def nav_modes_names : List ((NavModes → Bool) × String) :=
  [ (NavModes.autopilot, "autopilot"), (NavModes.vnav, "vnav"), (NavModes.altHold, "althold"),
    (NavModes.approach, "approach"), (NavModes.lnav, "lnav"), (NavModes.tcas, "tcas") ]

/-- The loop of `append_nav_modes`. -/
def append_nav_modes (flags : NavModes) (quote sep : Text) : Bool → List ((NavModes → Bool) × String) → Step Byte
  | _, [] => some
  | first, (flag, name) :: names =>
    if ¬ flag flags then append_nav_modes flags quote sep first names
    else seq [onlyIf (!first) (safe_snprintf sep), safe_snprintf (quote ++ text name ++ quote),
      append_nav_modes flags quote sep false names]

/-! ### An aircraft -/

/-- What is kept of an aircraft for the displays. -/
structure ListedAircraft extends Aircraft where
  signalLevel : Fin 8 → ℚ
  modeA_hit : Bool
  modeC_hit : Bool

section Aircraft
variable (now : Millis) (a : ListedAircraft)

def trackDataValid (f : Datum) : Bool := decide (a.Valid now f)

/-- Text that is printed if a piece of data is valid. -/
def ifValid (f : Datum) (s : Text) : Step Byte := onlyIf (trackDataValid now a f) (safe_snprintf s)

/-- A source that can be trusted says that the aircraft is on the ground. -/
def onGround : Bool :=
  trackDataValid now a .airground &&
    decide ((a.data .airground).valid.source.rank ≥ Source.modeSChecked.rank) &&
    decide (value a.toAircraft .airground = AirGround.ground)

/-- The difference of two times in seconds. -/
def secondsSince (t : Millis) : ℚ := ((now - t).toNat : ℚ) / 1000

def hexAddress : Step Byte :=
  safe_snprintf (text "\n    \x7b\"hex\":\"" ++ (if a.addr &&& modesNonIcaoAddress ≠ 0 then text "~" else []) ++
    hex 6 (a.addr &&& 0xffffff).toNat ++ text "\"")

/-- The statements of the loop body up to `append_flags`. -/
def aircraftData : List (Step Byte) :=
  [ onlyIf (decide (a.addrtype ≠ .adsbIcao))
      (safe_snprintf (text ",\"type\":\"" ++ addrtype_enum_string a.addrtype ++ text "\"")),
    ifValid now a .callsign (text ",\"flight\":\"" ++ jsonEscapeString (value a.toAircraft .callsign) ++ text "\""),
    if onGround now a then safe_snprintf (text ",\"alt_baro\":\"ground\"")
    else seq
      [ ifValid now a .altitudeBaro (text ",\"alt_baro\":" ++ signed (value a.toAircraft .altitudeBaro)),
        ifValid now a .altitudeGeom (text ",\"alt_geom\":" ++ signed (value a.toAircraft .altitudeGeom)) ],
    ifValid now a .gs (text ",\"gs\":" ++ fixed 1 (value a.toAircraft .gs)),
    ifValid now a .ias (text ",\"ias\":" ++ unsigned (value a.toAircraft .ias)),
    ifValid now a .tas (text ",\"tas\":" ++ unsigned (value a.toAircraft .tas)),
    ifValid now a .mach (text ",\"mach\":" ++ fixed 3 (value a.toAircraft .mach)),
    ifValid now a .track (text ",\"track\":" ++ fixed 1 (value a.toAircraft .track)),
    ifValid now a .trackRate (text ",\"track_rate\":" ++ fixed 2 (value a.toAircraft .trackRate)),
    ifValid now a .roll (text ",\"roll\":" ++ fixed 1 (value a.toAircraft .roll)),
    ifValid now a .magHeading (text ",\"mag_heading\":" ++ fixed 1 (value a.toAircraft .magHeading)),
    ifValid now a .trueHeading (text ",\"true_heading\":" ++ fixed 1 (value a.toAircraft .trueHeading)),
    ifValid now a .baroRate (text ",\"baro_rate\":" ++ signed (value a.toAircraft .baroRate)),
    ifValid now a .geomRate (text ",\"geom_rate\":" ++ signed (value a.toAircraft .geomRate)),
    ifValid now a .squawk (text ",\"squawk\":\"" ++ hex 4 (value a.toAircraft .squawk) ++ text "\""),
    ifValid now a .emergency
      (text ",\"emergency\":\"" ++ emergency_enum_string (value a.toAircraft .emergency) ++ text "\""),
    onlyIf (decide (a.category ≠ 0)) (safe_snprintf (text ",\"category\":\"" ++ upperHex 2 a.category ++ text "\"")),
    ifValid now a .navQnh (text ",\"nav_qnh\":" ++ fixed 1 (value a.toAircraft .navQnh)),
    ifValid now a .navAltitudeMcp
      (text ",\"nav_altitude_mcp\":" ++ unsignedAsInt (value a.toAircraft .navAltitudeMcp)),
    ifValid now a .navAltitudeFms
      (text ",\"nav_altitude_fms\":" ++ unsignedAsInt (value a.toAircraft .navAltitudeFms)),
    ifValid now a .navHeading (text ",\"nav_heading\":" ++ fixed 1 (value a.toAircraft .navHeading)),
    onlyIf (trackDataValid now a .navModes)
      (seq [safe_snprintf (text ",\"nav_modes\":["),
        append_nav_modes (value a.toAircraft .navModes) (text "\"") (text ",") true nav_modes_names,
        safe_snprintf (text "]")]),
    ifValid now a .position
      (text ",\"lat\":" ++ fixed 6 (value a.toAircraft .position : Position).lat ++
        text ",\"lon\":" ++ fixed 6 (value a.toAircraft .position : Position).lon ++
        text ",\"nic\":" ++ unsigned (value a.toAircraft .position : Position).nic ++
        text ",\"rc\":" ++ unsigned (value a.toAircraft .position : Position).rc ++
        text ",\"seen_pos\":" ++ fixed 1 (secondsSince now (a.data .position).valid.updated)),
    onlyIf (decide (a.adsbVersion ≥ 0)) (safe_snprintf (text ",\"version\":" ++ signed a.adsbVersion)),
    ifValid now a .nicBaro (text ",\"nic_baro\":" ++ unsigned (value a.toAircraft .nicBaro)),
    ifValid now a .nacP (text ",\"nac_p\":" ++ unsigned (value a.toAircraft .nacP)),
    ifValid now a .nacV (text ",\"nac_v\":" ++ unsigned (value a.toAircraft .nacV)),
    ifValid now a .sil (text ",\"sil\":" ++ unsigned (value a.toAircraft .sil : Sil).sil),
    onlyIf (decide ((value a.toAircraft .sil : Sil).type ≠ .invalid))
      (safe_snprintf (text ",\"sil_type\":\"" ++ sil_type_enum_string (value a.toAircraft .sil : Sil).type ++
        text "\"")),
    ifValid now a .gva (text ",\"gva\":" ++ unsigned (value a.toAircraft .gva)),
    ifValid now a .sda (text ",\"sda\":" ++ unsigned (value a.toAircraft .sda)),
    ifValid now a .mrarSource
      (text ",\"mrar_source\":\"" ++ mrar_source_enum_string (value a.toAircraft .mrarSource) ++ text "\""),
    ifValid now a .wind
      (text ",\"wind_speed\":" ++ fixed 0 (value a.toAircraft .wind : Wind).speed ++
        text ",\"wind_dir\":" ++ fixed 1 (value a.toAircraft .wind : Wind).dir),
    ifValid now a .temperature (text ",\"temperature\":" ++ fixed 2 (value a.toAircraft .temperature)),
    ifValid now a .pressure (text ",\"pressure\":" ++ fixed 0 (value a.toAircraft .pressure)),
    ifValid now a .turbulence
      (text ",\"turbulence\":\"" ++ hazard_enum_string (value a.toAircraft .turbulence) ++ text "\""),
    ifValid now a .humidity (text ",\"humidity\":" ++ fixed 1 (value a.toAircraft .humidity)),
    onlyIf a.modeA_hit (safe_snprintf (text ",\"modea\":true")),
    onlyIf a.modeC_hit (safe_snprintf (text ",\"modec\":true")) ]

variable (tenLog10 : ℚ → ℚ)

/-- `10 * log10(…)`, of the mean signal level. -/
def rssi : ℚ := tenLog10 (((List.ofFn a.signalLevel).sum + 1 / 100000) / 8)

def aircraftSteps : List (Step Byte) :=
  [ hexAddress a, seq (aircraftData now a),
    safe_snprintf (text ",\"mlat\":"), append_flags a.toAircraft .mlat,
    safe_snprintf (text ",\"tisb\":"), append_flags a.toAircraft .tisb,
    safe_snprintf (text ",\"messages\":" ++ unsigned a.messages ++ text ",\"seen\":" ++
      fixed 1 (secondsSince now a.seen) ++ text ",\"rssi\":" ++ fixed 1 (rssi a tenLog10) ++ text "\x7d") ]

/-- The body of the loop: the text of an aircraft. -/
def aircraftLine : Step Byte := seq (aircraftSteps now a tenLog10)

end Aircraft

/-! ### The buffer -/

/-- Where buffers come from. -/
structure Memory where
  /-- Whether so many bytes are to be had. -/
  granted : Nat → Bool
  /-- What is in a new buffer. -/
  held : Nat → Byte

/-- `INT_MAX`. -/
def intMax : Nat := 0x7fffffff

variable (memory : Memory)

/-- `malloc(buflen)`; for a buffer without end there is nothing to ask for. -/
def malloc (buflen : Option Nat) : Option (Writer Byte) :=
  if ∀ n ∈ buflen, memory.granted n then some ⟨memory.held, 0, buflen⟩ else none

/-- `p + slack >= end`. -/
def Overran (slack : Nat) (w : Writer Byte) : Prop := ∃ n ∈ w.size, n ≤ w.p + slack

instance (slack : Nat) (w : Writer Byte) : Decidable (Overran slack w) :=
  inferInstanceAs (Decidable (∃ n ∈ w.size, n ≤ w.p + slack))

/-- `buflen *= 2` and the `realloc`, the result of which is not looked at. -/
def double (used : Nat) (w : Writer Byte) : Option (Writer Byte) := do
  let buflen ← w.size
  if 2 * buflen ≤ intMax ∧ memory.granted (2 * buflen) = true then some { w with p := used, size := some (2 * buflen) }
  else none

/-- From the label `retry` to the end of the loop body, with `line` what is in between. -/
def retry (line : Step Byte) : Nat → Step Byte
  | 0 => fun _ => none
  | fuel + 1 => fun line_start =>
    (line line_start).bind fun w =>
      if Overran 10 w then (double memory line_start.p w).bind (retry line fuel) else some w

section Generate
variable (fuel : Nat) (now : Millis) (tenLog10 : ℚ → ℚ)

/-- The loop over the aircraft. -/
def aircraftLoop : Bool → List ListedAircraft → Step Byte
  | _, [] => some
  | first, a :: aircrafts =>
    if ¬ a.reliable then aircraftLoop first aircrafts
    else seq [onlyIf (!first) (put 0x2c), retry memory (aircraftLine now a tenLog10) fuel, aircraftLoop false aircrafts]

/-- What is printed first, with `messages_total` of the current and of all statistics. -/
def headerText (current alltime : BitVec 32) : Text :=
  text "\x7b \"now\" : " ++ fixed 1 ((now.toNat : ℚ) / 1000) ++ text ",\n  \"messages\" : " ++
    unsigned (current + alltime).toNat ++ text ",\n  \"aircraft\" : ["

def closingText : Text := text "\n  ]\n\x7d\n"

/-- `generateAircraftJson(url_path, len)`, with a buffer of `buflen` bytes at first: the
text and `len`. -/
def generateAircraftJson (buflen : Option Nat) (current alltime : BitVec 32) (aircrafts : List ListedAircraft) :
    Option (Text × Nat) := do
  let w ← malloc memory buflen
  let w ← seq [safe_snprintf (headerText now current alltime), aircraftLoop memory fuel now tenLog10 true aircrafts,
    safe_snprintf closingText] w
  some (w.text, w.p)

end Generate

/-! ### Lengths -/

@[simp] theorem length_chars (s : List Char) : (chars s).length = s.length := List.length_map ..

@[simp] theorem length_text (s : String) : (text s).length = s.toList.length := length_chars _

theorem length_padded (width : Nat) (s : List Char) : (padded width s).length = max width s.length := by
  rw [padded, length_chars, List.length_append, List.length_replicate]
  omega

theorem length_unsigned_le {n e : Nat} (he : 0 < e) (hn : n < 10 ^ e) : (unsigned n).length ≤ e := by
  rw [unsigned, length_chars]
  exact (Nat.length_toDigits_le_iff (by decide) he).mpr hn

theorem roundEven_le {q : ℚ} {n : Nat} (hn : 0 < n) (h : q < n) : roundEven q ≤ n := by
  have hfloor : q.floor < n := Rat.floor_lt_iff.mpr (by exact_mod_cast h)
  unfold roundEven
  dsimp only
  split_ifs <;> omega

/-- A sign, the digits in front of the point, the point and those behind. -/
theorem length_fixed_le {q : ℚ} {m : Nat} (digits : Nat) (hq : |q| < 10 ^ m) :
    (fixed digits q).length ≤ m + digits + 3 := by
  have hscaled : roundEven (|q| * 10 ^ digits) ≤ 10 ^ (m + digits) := by
    refine roundEven_le (by positivity) ?_
    push_cast
    rw [pow_add]
    exact mul_lt_mul_of_pos_right hq (by positivity)
  have hwhole : (unsigned (roundEven (|q| * 10 ^ digits) / 10 ^ digits)).length ≤ m + 1 := by
    refine length_unsigned_le (Nat.succ_pos m) ?_
    rw [Nat.div_lt_iff_lt_mul (by positivity), ← pow_add]
    refine hscaled.trans_lt (Nat.pow_lt_pow_right (by decide) (by omega))
  unfold fixed
  dsimp only
  generalize roundEven (|q| * 10 ^ digits) = scaled at hwhole
  have hsign : (if q < 0 then text "-" else []).length ≤ 1 := by split <;> simp
  have hpoint : (if digits = 0 then [] else
      text "." ++ padded digits (Nat.toDigits 10 (scaled % 10 ^ digits))).length ≤ 1 + digits := by
    split
    · simp
    · next hdigits =>
      have hrest := (Nat.length_toDigits_le_iff (by decide) (Nat.pos_of_ne_zero hdigits)).mpr
        (Nat.mod_lt scaled (show 0 < 10 ^ digits by positivity))
      rw [List.length_append, length_padded, max_eq_left hrest]
      simp
  rw [List.length_append, List.length_append]
  omega
/-! ### The text of an aircraft -/

section Line
variable (now : Millis) (a : ListedAircraft)

theorem printer_safe_snprintf (s : Text) : Printer 0 (safe_snprintf s) := printer_snprintf s

theorem printed_safe_snprintf (s : Text) : printed 0 (safe_snprintf s) = s := printed_snprintf s

theorem printer_ifValid (f : Datum) (s : Text) : Printer 0 (ifValid now a f s) :=
  (printer_safe_snprintf s).onlyIf _

/-- The comma behind the last name is printed over. -/
theorem printer_append_flags (a : Aircraft) (source : Source) : Printer 0 (append_flags a source) := by
  have hnames : Printer 0 (seq (flagNames.map fun flag =>
      onlyIf (decide ((a.data flag.1).valid.source = source)) (safe_snprintf (text flag.2)))) := by
    refine printer_seq fun f hf => ?_
    obtain ⟨flag, -, rfl⟩ := List.mem_map.mp hf
    exact (printer_safe_snprintf _).onlyIf _
  refine printer_seq fun f hf => ?_
  obtain rfl | hf := List.mem_cons.mp hf
  · exact printer_safe_snprintf _
  · obtain rfl := List.mem_singleton.mp hf
    exact (Appends.overLast hnames (appends_snprintf 0 (text "]")) (by decide)).printer 0

theorem printer_append_nav_modes (flags : NavModes) (quote sep : Text) (first : Bool)
    (names : List ((NavModes → Bool) × String)) : Printer 0 (append_nav_modes flags quote sep first names) := by
  induction names generalizing first with
  | nil => exact (show Appends (some : Step Byte) [] from fun w => ⟨w, rfl, Extends.refl w⟩).printer 0
  | cons name names ih =>
    rw [append_nav_modes]
    split
    · exact ih first
    · refine printer_seq ?_
      simp only [List.forall_mem_cons, List.not_mem_nil, false_imp_iff, implies_true, and_true]
      exact ⟨(printer_safe_snprintf sep).onlyIf _, printer_safe_snprintf _, ih false⟩

theorem printer_aircraftData : ∀ f ∈ aircraftData now a, Printer 0 f := by
  have hground : Printer 0 (if onGround now a then safe_snprintf (text ",\"alt_baro\":\"ground\"")
      else seq
        [ ifValid now a .altitudeBaro (text ",\"alt_baro\":" ++ signed (value a.toAircraft .altitudeBaro)),
          ifValid now a .altitudeGeom (text ",\"alt_geom\":" ++ signed (value a.toAircraft .altitudeGeom)) ]) := by
    split
    · exact printer_safe_snprintf _
    · refine printer_seq ?_
      simp only [List.forall_mem_cons, printer_ifValid, List.not_mem_nil, false_imp_iff, implies_true, and_self]
  have hmodes : Printer 0 (seq [safe_snprintf (text ",\"nav_modes\":["),
      append_nav_modes (value a.toAircraft .navModes) (text "\"") (text ",") true nav_modes_names,
      safe_snprintf (text "]")]) := by
    refine printer_seq ?_
    simp only [List.forall_mem_cons, printer_safe_snprintf, printer_append_nav_modes, List.not_mem_nil, false_imp_iff,
      implies_true, and_self]
  simp only [aircraftData, List.forall_mem_cons, List.not_mem_nil, false_imp_iff, implies_true, and_true]
  simp only [printer_ifValid, Printer.onlyIf, printer_safe_snprintf, hground, hmodes, and_self]

variable (tenLog10 : ℚ → ℚ)

theorem printer_aircraftSteps : ∀ f ∈ aircraftSteps now a tenLog10, Printer 0 f := by
  simp only [aircraftSteps, List.forall_mem_cons, List.not_mem_nil, false_imp_iff, implies_true, and_true]
  exact ⟨printer_safe_snprintf _, printer_seq (printer_aircraftData now a), printer_safe_snprintf _,
    printer_append_flags _ _, printer_safe_snprintf _, printer_append_flags _ _, printer_safe_snprintf _⟩

theorem printer_aircraftLine : Printer 0 (aircraftLine now a tenLog10) := printer_seq (printer_aircraftSteps now a tenLog10)

/-- What is printed of every aircraft has this length. -/
theorem le_length_aircraftLine : 65 ≤ (printed 0 (aircraftLine now a tenLog10)).length := by
  have haddress : 20 ≤ (printed 0 (hexAddress a)).length := by
    rw [hexAddress, printed_safe_snprintf, hex]
    simp only [List.length_append, length_text, length_padded, String.reduceToList, List.length_cons, List.length_nil]
    omega
  rw [aircraftLine, printed_seq (printer_aircraftSteps now a tenLog10)]
  simp only [aircraftSteps, List.map_cons, List.map_nil, List.flatten_cons, List.flatten_nil, printed_safe_snprintf,
    List.length_append, length_text, String.reduceToList, List.length_cons, List.length_nil]
  omega

end Line

/-! ### Growth -/

section Growth
variable {memory : Memory} {k : Nat} {w : Writer Byte} {s t : Text}

/-- The size of the buffer after `k` times. -/
def bufferSize (k : Nat) : Nat := 32768 * 2 ^ k

theorem bufferSize_succ (k : Nat) : bufferSize (k + 1) = 2 * bufferSize k := by
  rw [bufferSize, bufferSize, pow_succ]
  ring

theorem bufferSize_mono {j k : Nat} (h : j ≤ k) : bufferSize j ≤ bufferSize k :=
  Nat.mul_le_mul_left _ (Nat.pow_le_pow_right (by decide) h)

/-- An `int` holds the sizes up to the fifteenth. -/
theorem bufferSize_le_intMax : bufferSize k ≤ intMax ↔ k ≤ 15 := by
  have hlast : bufferSize 15 ≤ intMax := by decide
  have hover : intMax < bufferSize 16 := by decide
  constructor
  · intro h
    by_contra hk
    have := bufferSize_mono (show 16 ≤ k by omega)
    omega
  · intro h
    exact (bufferSize_mono h).trans hlast

variable (memory k) in
/-- The first `k` doublings can be done. -/
def Doubles : Prop := k ≤ 15 ∧ ∀ j ≤ k, memory.granted (bufferSize j) = true

variable (memory) in
/-- Doubling leads to a buffer that is larger. -/
def Enough (need : Nat) : Prop := ∃ k, Doubles memory k ∧ need < bufferSize k

theorem Enough.mono {need need' : Nat} (h : Enough memory need) (hle : need' ≤ need) : Enough memory need' := by
  obtain ⟨k, hk, hneed⟩ := h
  exact ⟨k, hk, by omega⟩

/-- A buffer of the size reached, with a text in it. -/
structure Sound (memory : Memory) (k : Nat) (w : Writer Byte) (s : Text) : Prop where
  doubles : Doubles memory k
  size : w.size = some (bufferSize k)
  text : w.text = s

theorem Sound.p (h : Sound memory k w s) : w.p = s.length := by rw [← h.text, Writer.length_text]

theorem Sound.fits (h : Sound memory k w s) {len : Nat} : w.Fits len ↔ s.length + len < bufferSize k := by
  unfold Writer.Fits
  rw [h.size, h.p]
  simp

/-- More text that the buffer has room for. -/
theorem Sound.extends {w' : Writer Byte} (h : Sound memory k w s) (hmore : Extends w w' t) (hfits : w.Fits t.length) :
    Sound memory k w' (s ++ t) := ⟨h.doubles, hmore.size.trans h.size, by rw [hmore.text hfits, h.text]⟩

/-- A line that does not fit is forgotten when the buffer is doubled. -/
theorem Sound.double {w' : Writer Byte} (h : Sound memory k w s) (hmore : Extends w w' t) :
    (Doubles memory (k + 1) → ∃ w₁, Json.double memory w.p w' = some w₁ ∧ Sound memory (k + 1) w₁ s) ∧
      (¬ Doubles memory (k + 1) → Json.double memory w.p w' = none) := by
  have hgrant : 2 * bufferSize k ≤ intMax ∧ memory.granted (2 * bufferSize k) = true ↔ Doubles memory (k + 1) := by
    rw [← bufferSize_succ, bufferSize_le_intMax]
    refine ⟨fun hnext => ⟨hnext.1, fun j hj => ?_⟩, fun hnext => ⟨hnext.1, hnext.2 _ (le_refl _)⟩⟩
    obtain rfl | hj := Nat.eq_or_lt_of_le hj
    · exact hnext.2
    · exact h.doubles.2 j (by omega)
  unfold Json.double
  rw [hmore.size, h.size]
  dsimp only [Option.bind_eq_bind, Option.bind_some]
  constructor
  · intro hnext
    rw [if_pos (hgrant.mpr hnext)]
    refine ⟨_, rfl, hnext, by rw [bufferSize_succ], ?_⟩
    rw [text_back w.p (by rw [hmore.p]; exact Nat.le_add_right _ _) _, hmore.before, h.text]
  · intro hlast
    rw [if_neg fun hgranted => hlast (hgrant.mp hgranted)]

variable (memory) in
/-- What comes of printing: the text, with ten characters to spare, if some buffer has
room for it. -/
def Grows (r : Option (Writer Byte)) (s : Text) : Prop :=
  (Enough memory (s.length + 10) → ∃ w k, r = some w ∧ Sound memory k w s ∧ w.Fits 10) ∧
    (¬ Enough memory (s.length + 10) → r = none)

theorem Sound.grows (h : Sound memory k w s) (hfits : w.Fits 10) : Grows memory (some w) s :=
  ⟨fun _ => ⟨w, k, rfl, h, hfits⟩, fun hnot => absurd ⟨k, h.doubles, h.fits.mp hfits⟩ hnot⟩

/-- Printing fails for good. -/
theorem Grows.bind {r : Option (Writer Byte)} {f : Step Byte} (h : Grows memory r s)
    (hf : ∀ k w, Sound memory k w s → w.Fits 10 → Grows memory (f w) (s ++ t)) : Grows memory (r.bind f) (s ++ t) := by
  by_cases hfirst : Enough memory (s.length + 10)
  · obtain ⟨w, k, rfl, hsound, hfits⟩ := h.1 hfirst
    exact hf k w hsound hfits
  · rw [h.2 hfirst]
    refine ⟨fun henough => absurd (henough.mono ?_) hfirst, fun _ => rfl⟩
    rw [List.length_append]
    omega

/-- The line is printed in the end if some buffer has room for it, and if not, there is no
next buffer. -/
theorem retry_grows {line : Step Byte} (hline : Appends line t) {fuel : Nat} (hfuel : 16 ≤ k + fuel)
    (h : Sound memory k w s) : Grows memory (retry memory line fuel w) (s ++ t) := by
  induction fuel generalizing k w with
  | zero =>
    have := h.doubles.1
    omega
  | succ fuel ih =>
    obtain ⟨w₁, hrun, hmore⟩ := hline w
    have hover : Overran 10 w₁ ↔ bufferSize k ≤ (s ++ t).length + 10 := by
      unfold Overran
      rw [hmore.size, h.size, hmore.p, h.p, List.length_append]
      simp
    show Grows memory ((line w).bind fun w₁ => if Overran 10 w₁ then _ else some w₁) _
    rw [hrun, Option.bind_some]
    by_cases hfull : Overran 10 w₁
    swap
    · rw [if_neg hfull]
      rw [hover, List.length_append] at hfull
      have hsound := h.extends hmore (h.fits.mpr (by omega))
      exact hsound.grows (hsound.fits.mpr (by rw [List.length_append]; omega))
    rw [if_pos hfull]
    obtain ⟨hmove, hstop⟩ := h.double hmore
    by_cases hnext : Doubles memory (k + 1)
    · obtain ⟨w₂, hdouble, hsound⟩ := hmove hnext
      rw [hdouble, Option.bind_some]
      exact ih (by omega) hsound
    · -- a buffer with more room would be one of the next
      rw [hstop hnext]
      refine ⟨fun henough => ?_, fun _ => rfl⟩
      obtain ⟨K, hK, hneed⟩ := henough
      have hlarger : k < K := by
        by_contra hle
        have := bufferSize_mono (Nat.le_of_not_lt hle)
        rw [hover] at hfull
        omega
      exact absurd ⟨by have := hK.1; omega, fun j hj => hK.2 j (by omega)⟩ hnext

end Growth

/-! ### The loop over the aircraft -/

/-- Lines with commas between them, and before the first if it is not the first. -/
def joined (first : Bool) (lines : List Text) : Text :=
  if first then [0x2c].intercalate lines else lines.flatMap fun line => 0x2c :: line

theorem joined_nil (first : Bool) : joined first [] = [] := by
  cases first <;> rfl

theorem joined_cons (first : Bool) (line : Text) (lines : List Text) :
    joined first (line :: lines) = (if !first then [0x2c] else []) ++ (line ++ joined false lines) := by
  unfold joined
  cases first with
  | false => simp
  | true =>
    induction lines generalizing line with
    | nil => simp
    | cons next lines ih => simp_all

theorem le_length_joined {lines : List Text} {n : Nat} (h : ∀ line ∈ lines, n ≤ line.length) (first : Bool) :
    lines.length * n ≤ (joined first lines).length := by
  induction lines generalizing first with
  | nil => simp
  | cons line lines ih =>
    obtain ⟨hline, hlines⟩ := List.forall_mem_cons.mp h
    have hrest := ih hlines false
    rw [joined_cons, List.length_append, List.length_append, List.length_cons, Nat.succ_mul]
    omega

section Loop
variable {memory : Memory} {fuel : Nat} (now : Millis) (tenLog10 : ℚ → ℚ)

/-- The lines of the aircraft that are listed. -/
def lines (aircrafts : List ListedAircraft) : List Text :=
  (aircrafts.filter fun a => a.reliable).map fun a => printed 0 (aircraftLine now a tenLog10)

theorem lines_cons {a : ListedAircraft} (h : a.reliable = true) (aircrafts : List ListedAircraft) :
    lines now tenLog10 (a :: aircrafts) =
      printed 0 (aircraftLine now a tenLog10) :: lines now tenLog10 aircrafts := by
  rw [lines, List.filter_cons, if_pos h, List.map_cons]
  rfl

theorem lines_skip {a : ListedAircraft} (h : ¬ a.reliable = true) (aircrafts : List ListedAircraft) :
    lines now tenLog10 (a :: aircrafts) = lines now tenLog10 aircrafts := by
  rw [lines, List.filter_cons, if_neg h]
  rfl

/-- The comma before an aircraft. -/
theorem comma_eq {w : Writer Byte} (first : Bool) (h : w.Fits 0) :
    ∃ w', onlyIf (!first) (put 0x2c) w = some w' ∧ Extends w w' (if !first then [0x2c] else []) := by
  cases first with
  | true => exact ⟨w, rfl, Extends.refl w⟩
  | false => exact put_eq 0x2c h

theorem aircraftLoop_grows (hfuel : 16 ≤ fuel) {k : Nat} {w : Writer Byte} {s : Text} (h : Sound memory k w s)
    (hfits : w.Fits 10) (first : Bool) (aircrafts : List ListedAircraft) :
    Grows memory (aircraftLoop memory fuel now tenLog10 first aircrafts w)
      (s ++ joined first (lines now tenLog10 aircrafts)) := by
  induction aircrafts generalizing k w s first with
  | nil =>
    rw [lines, List.filter_nil, List.map_nil, joined_nil, List.append_nil]
    exact h.grows hfits
  | cons a aircrafts ih =>
    rw [aircraftLoop]
    by_cases hreliable : a.reliable = true
    swap
    · rw [if_pos hreliable, lines_skip now tenLog10 hreliable]
      exact ih h hfits first
    rw [if_neg (not_not.mpr hreliable), lines_cons now tenLog10 hreliable, joined_cons, ← List.append_assoc, ← List.append_assoc]
    obtain ⟨w₁, hcomma, hmore⟩ := comma_eq first (hfits.mono (Nat.zero_le _))
    have hsep : (if !first then [(0x2c : Byte)] else []).length ≤ 10 := by cases first <;> decide
    have hsound := h.extends hmore (hfits.mono hsep)
    show Grows memory ((onlyIf (!first) (put 0x2c) w).bind _) _
    rw [hcomma, Option.bind_some]
    refine (retry_grows (printer_aircraftLine now a tenLog10) (by omega) hsound).bind fun k' w' hsound' hfits' => ?_
    show Grows memory ((aircraftLoop memory fuel now tenLog10 false aircrafts w').bind some) _
    rw [Option.bind_fun_some]
    exact ih hsound' hfits' false

variable (memory) in
/-- In a buffer without end every line is printed once. -/
theorem aircraftLoop_unbounded (hfuel : 0 < fuel) {w : Writer Byte} (h : w.size = none) (first : Bool)
    (aircrafts : List ListedAircraft) :
    ∃ w', aircraftLoop memory fuel now tenLog10 first aircrafts w = some w' ∧
      Extends w w' (joined first (lines now tenLog10 aircrafts)) := by
  obtain ⟨fuel, rfl⟩ : ∃ n, fuel = n + 1 := ⟨fuel - 1, by omega⟩
  induction aircrafts generalizing w first with
  | nil =>
    rw [lines, List.filter_nil, List.map_nil, joined_nil]
    exact ⟨w, rfl, Extends.refl w⟩
  | cons a aircrafts ih =>
    rw [aircraftLoop]
    by_cases hreliable : a.reliable = true
    swap
    · rw [if_pos hreliable, lines_skip now tenLog10 hreliable]
      exact ih h first
    rw [if_neg (not_not.mpr hreliable), lines_cons now tenLog10 hreliable, joined_cons]
    obtain ⟨w₁, hcomma, hmore₁⟩ := comma_eq first (Writer.fits_of_none h 0)
    obtain ⟨w₂, hline, hmore₂⟩ := printer_aircraftLine now a tenLog10 w₁
    have hend : ¬ Overran 10 w₂ := by
      unfold Overran
      rw [hmore₂.size, hmore₁.size, h]
      simp
    obtain ⟨w₃, hloop, hmore₃⟩ := ih (hmore₂.size.trans (hmore₁.size.trans h)) false
    refine ⟨w₃, ?_, hmore₁.trans (hmore₂.trans hmore₃)⟩
    show (onlyIf (!first) (put 0x2c) w).bind _ = some w₃
    rw [hcomma, Option.bind_some]
    show ((aircraftLine now a tenLog10 w₁).bind fun w => if Overran 10 w then _ else some w).bind _ = some w₃
    rw [hline, Option.bind_some, if_neg hend, Option.bind_some]
    show (aircraftLoop memory (fuel + 1) now tenLog10 false aircrafts w₂).bind some = some w₃
    rw [hloop, Option.bind_some]

end Loop

/-! ### The whole text -/

section Whole
variable (memory : Memory) {fuel : Nat} (now : Millis) (tenLog10 : ℚ → ℚ) (current alltime : BitVec 32)
  (aircrafts : List ListedAircraft)

/-- The aircraft, one after the other, in what is in front of them and behind. -/
def aircraftJson : Text :=
  headerText now current alltime ++ ([0x2c].intercalate (lines now tenLog10 aircrafts) ++ closingText)

theorem length_joined_le : (joined true (lines now tenLog10 aircrafts)).length ≤
    (aircraftJson now tenLog10 current alltime aircrafts).length := by
  simp only [aircraftJson, joined, if_true, List.length_append]
  omega

theorem length_headerText : (headerText now current alltime).length ≤ 100 := by
  have hnow : |(now.toNat : ℚ) / 1000| < 10 ^ 20 := by
    rw [abs_of_nonneg (by positivity), div_lt_iff₀ (by norm_num)]
    have hlt : now.toNat < 10 ^ 20 * 1000 := now.isLt.trans (by norm_num)
    exact_mod_cast hlt
  have htime := length_fixed_le 1 hnow
  have hmessages : (unsigned (current + alltime).toNat).length ≤ 10 :=
    length_unsigned_le (by decide) ((current + alltime).isLt.trans (by norm_num))
  have hliterals : (text "\x7b \"now\" : ").length + (text ",\n  \"messages\" : ").length +
      (text ",\n  \"aircraft\" : [").length ≤ 60 := by
    simp only [length_text]
    decide
  simp only [headerText, List.length_append]
  omega

theorem length_closingText : closingText.length = 7 := by
  rw [closingText, length_text]
  decide

theorem generateAircraftJson_unbounded (hfuel : 0 < fuel) :
    generateAircraftJson memory fuel now tenLog10 none current alltime aircrafts =
      some (aircraftJson now tenLog10 current alltime aircrafts,
        (aircraftJson now tenLog10 current alltime aircrafts).length) := by
  have hmalloc : malloc memory none = some ⟨memory.held, 0, none⟩ := if_pos fun n hn => by cases hn
  obtain ⟨w₁, hheader, hmore₁⟩ := appends_snprintf 0 (headerText now current alltime) ⟨memory.held, 0, none⟩
  obtain ⟨w₂, hloop, hmore₂⟩ := aircraftLoop_unbounded memory now tenLog10 hfuel hmore₁.size true aircrafts
  obtain ⟨w₃, hclosing, hmore₃⟩ := appends_snprintf 0 closingText w₂
  have hmore := hmore₁.trans (hmore₂.trans hmore₃)
  have htext : w₃.text = aircraftJson now tenLog10 current alltime aircrafts :=
    hmore.text (Writer.fits_of_none rfl _)
  unfold generateAircraftJson
  rw [hmalloc]
  dsimp only [Option.bind_eq_bind, Option.bind_some, seq]
  rw [safe_snprintf, hheader, Option.bind_some, hloop, Option.bind_some, safe_snprintf, hclosing]
  dsimp only [Option.bind_some]
  rw [← htext, Writer.length_text]

/-- **The growing buffer.** The text is the same as without an end, or the buffer cannot
be doubled as often as the text needs it. -/
theorem generateAircraftJson_eq (hfuel : 16 ≤ fuel) :
    (Enough memory ((aircraftJson now tenLog10 current alltime aircrafts).length + 3) →
      generateAircraftJson memory fuel now tenLog10 (some 32768) current alltime aircrafts =
        some (aircraftJson now tenLog10 current alltime aircrafts,
          (aircraftJson now tenLog10 current alltime aircrafts).length)) ∧
    (¬ Enough memory ((aircraftJson now tenLog10 current alltime aircrafts).length + 3) →
      generateAircraftJson memory fuel now tenLog10 (some 32768) current alltime aircrafts = none) := by
  have hclosing := length_closingText
  have hheader := length_headerText now current alltime
  have hneed : (aircraftJson now tenLog10 current alltime aircrafts).length + 3 =
      (headerText now current alltime ++ joined true (lines now tenLog10 aircrafts)).length + 10 := by
    simp only [aircraftJson, joined, if_true, List.length_append]
    omega
  by_cases hfirst : memory.granted 32768 = true
  swap
  · have hmalloc : malloc memory (some 32768) = none := if_neg fun h => hfirst (h _ rfl)
    have hnone : generateAircraftJson memory fuel now tenLog10 (some 32768) current alltime aircrafts = none := by
      unfold generateAircraftJson
      rw [hmalloc]
      rfl
    refine ⟨fun henough => ?_, fun _ => hnone⟩
    obtain ⟨k, hk, -⟩ := henough
    exact absurd (hk.2 0 (Nat.zero_le k)) hfirst
  have hmalloc : malloc memory (some 32768) = some ⟨memory.held, 0, some 32768⟩ := by
    refine if_pos fun n hn => ?_
    obtain rfl := Option.some.inj hn
    exact hfirst
  have hempty : Sound memory 0 ⟨memory.held, 0, some 32768⟩ [] :=
    ⟨⟨Nat.zero_le _, fun j hj => by obtain rfl := Nat.le_zero.mp hj; exact hfirst⟩, rfl, rfl⟩
  obtain ⟨w₁, hprint, hmore₁⟩ := appends_snprintf 0 (headerText now current alltime) ⟨memory.held, 0, some 32768⟩
  have hsize : bufferSize 0 = 32768 := rfl
  have hsound₁ := hempty.extends hmore₁ (hempty.fits.mpr (by rw [List.length_nil, hsize]; omega))
  obtain ⟨hgrown, hstuck⟩ := aircraftLoop_grows now tenLog10 hfuel hsound₁
    (hsound₁.fits.mpr (by rw [List.nil_append, hsize]; omega)) true aircrafts
  rw [List.nil_append, ← hneed] at hgrown hstuck
  unfold generateAircraftJson
  rw [hmalloc]
  dsimp only [Option.bind_eq_bind, Option.bind_some, seq]
  rw [safe_snprintf, hprint, Option.bind_some]
  constructor
  · intro henough
    obtain ⟨w₂, k, hloop, hsound₂, hfits⟩ := hgrown henough
    obtain ⟨w₃, hend, hmore₃⟩ := appends_snprintf 0 closingText w₂
    have htext := (hsound₂.extends hmore₃ (hfits.mono (by omega))).text
    rw [List.append_assoc] at htext
    rw [hloop, Option.bind_some, safe_snprintf, hend]
    dsimp only [Option.bind_some]
    rw [← Writer.length_text w₃, htext]
    rfl
  · intro hnot
    rw [hstuck hnot]
    rfl

end Whole

end RbFeeder.Net.Json
