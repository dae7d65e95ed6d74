import RbFeeder.Airnav.Emission
import RbFeeder.Airnav.Uat

/-! Which chunks of the stream deliver the reports.

dump978 sends each report as one line. A report arrives whole if a `recv` returns it
whole and with nothing else: bytes of another report make the text no JSON value, and so
does whatever lies behind a buffer that is full.

`reports_delivered_iff`: every report is handed over exactly once and in order, whatever
is in memory, if and only if each chunk holds at most one report, which is whole, and
no chunk fills the buffer. -/
namespace RbFeeder.Airnav.Uat
open ModeS (Byte)

/-- `'\n'`. -/
def newline : Byte := 0x0a

/-- A report: a JSON object on one line, shorter than the buffer. -/
structure Report (J : Decoder) where
  text : List Byte
  root : Json
  value_text : J.value text = some root
  head_text : text.head? = some 0x7b
  last_text : text.getLast? = some 0x7d
  newline_notMem : newline ∉ text
  zero_notMem : 0 ∉ text
  length_lt : text.length < bufferSize

/-- What dump978 sends. -/
def stream {J : Decoder} (reports : List (Report J)) : List Byte :=
  (reports.map fun r => r.text ++ [newline]).flatten

/-- A chunk with at most one report, which is whole. -/
structure Part where
  before : Nat
  report : Option (List Byte)
  after : Nat

/-- The bytes of a chunk. -/
def Part.bytes (p : Part) : List Byte :=
  List.replicate p.before newline ++ p.report.getD [] ++ List.replicate p.after newline

/-- Each chunk holds at most one report, which is whole, and does not fill the buffer. -/
def Whole (chunks reports : List (List Byte)) : Prop :=
  (∀ c ∈ chunks, c.length < bufferSize) ∧
    ∃ parts : List Part, parts.map Part.bytes = chunks ∧ parts.filterMap Part.report = reports

/-- The reports are handed to the extraction exactly once and in order, and the packets on
`flist` are theirs. -/
def Delivered (J : Decoder) (rs : List Recv) (reports : List (List Byte)) : Prop :=
  (extThread J rs).handed.map Handed.text = reports ∧
    (extThread J rs).flist = ((extThread J rs).handed.filterMap Handed.linked).reverse

/-! ### Blanks -/

theorem isBlank_newline : isBlank newline = true := by decide

theorem dropWhile_blanks {before text : List Byte} (hbefore : ∀ c ∈ before, isBlank c = true)
    (hhead : ∀ c ∈ text.head?, isBlank c = false) : (before ++ text).dropWhile isBlank = text := by
  rw [List.dropWhile_append_of_pos hbefore]
  cases text with
  | nil => rfl
  | cons c text => exact List.dropWhile_cons_of_neg (by rw [hhead c rfl]; exact Bool.false_ne_true)

/-- Blanks around a text are no part of it. -/
theorem trim_append {before text after : List Byte} (hbefore : ∀ c ∈ before, isBlank c = true)
    (hafter : ∀ c ∈ after, isBlank c = true) (hne : text ≠ [])
    (hhead : ∀ c ∈ text.head?, isBlank c = false) (hlast : ∀ c ∈ text.getLast?, isBlank c = false) :
    trim (before ++ text ++ after) = text := by
  have hleft : (before ++ text ++ after).dropWhile isBlank = text ++ after := by
    rw [List.append_assoc]
    refine dropWhile_blanks hbefore fun c hc => hhead c ?_
    rwa [List.head?_append_of_ne_nil _ hne] at hc
  have hreverse : (after.reverse ++ text.reverse).dropWhile isBlank = text.reverse := by
    refine dropWhile_blanks (fun c hc => hafter c (List.mem_reverse.mp hc)) fun c hc => hlast c ?_
    rwa [List.head?_reverse] at hc
  rw [trim, hleft, List.rdropWhile, List.reverse_append, hreverse, List.reverse_reverse]

/-- Nothing but blanks. -/
theorem trim_blanks {text : List Byte} (h : ∀ c ∈ text, isBlank c = true) : trim text = [] := by
  rw [trim, List.dropWhile_eq_nil_iff.mpr h]
  rfl

/-- What is trimmed is blank. -/
theorem exists_trim (text : List Byte) :
    ∃ before after, text = before ++ trim text ++ after := by
  refine ⟨text.takeWhile isBlank, (text.dropWhile isBlank).rtakeWhile isBlank, ?_⟩
  rw [trim, List.append_assoc, List.rdropWhile_append_rtakeWhile, List.takeWhile_append_dropWhile]

/-! ### Counting -/

/-- The bytes that are not newlines. -/
def letters (text : List Byte) : Nat := text.countP (· ≠ newline)

theorem letters_of_notMem {text : List Byte} (h : newline ∉ text) : letters text = text.length := by
  refine List.countP_eq_length.mpr fun c hc => ?_
  exact decide_eq_true fun heq => h (heq ▸ hc)

theorem newlines_of_letters {text : List Byte} (h : letters text = 0) :
    text = List.replicate text.length newline := by
  refine List.eq_replicate_iff.mpr ⟨rfl, fun c hc => ?_⟩
  have hnot := List.countP_eq_zero.mp h c hc
  simpa using hnot

theorem letters_append (a b : List Byte) : letters (a ++ b) = letters a + letters b := List.countP_append

theorem letters_flatten (texts : List (List Byte)) : letters texts.flatten = (texts.map letters).sum :=
  List.countP_flatten

/-- Of two sums one of which is termwise below the other, equal ones have equal terms. -/
theorem terms_eq {α : Type} {f g : α → Nat} {l : List α} (hle : ∀ x ∈ l, g x ≤ f x)
    (hsum : (l.map f).sum ≤ (l.map g).sum) : ∀ x ∈ l, g x = f x := by
  induction l with
  | nil => exact fun x hx => absurd hx List.not_mem_nil
  | cons a l ih =>
    have htail : (l.map g).sum ≤ (l.map f).sum :=
      List.sum_le_sum fun x hx => hle x (List.mem_cons_of_mem a hx)
    have hhead := hle a List.mem_cons_self
    rw [List.map_cons, List.map_cons, List.sum_cons, List.sum_cons] at hsum
    intro x hx
    obtain rfl | hx := List.mem_cons.mp hx
    · omega
    · exact ih (fun x hx => hle x (List.mem_cons_of_mem a hx)) (by omega) x hx

/-! ### Reports in the stream -/

section Stream
variable {J : Decoder} (reports : List (Report J))

theorem Report.ne_nil (r : Report J) : r.text ≠ [] := by
  intro h
  have hhead := r.head_text
  rw [h] at hhead
  cases hhead

theorem letters_stream : letters (stream reports) = (reports.map fun r => r.text.length).sum := by
  rw [stream, letters_flatten, List.map_map]
  congr 1
  refine List.map_congr_left fun r _ => ?_
  show letters (r.text ++ [newline]) = _
  rw [letters_append, letters_of_notMem r.newline_notMem]
  rfl

theorem zero_notMem_stream : 0 ∉ stream reports := by
  intro h
  obtain ⟨line, hline, hzero⟩ := List.mem_flatten.mp h
  obtain ⟨r, -, rfl⟩ := List.mem_map.mp hline
  obtain hzero | hzero := List.mem_append.mp hzero
  · exact r.zero_notMem hzero
  · exact absurd (List.mem_singleton.mp hzero) (by decide)

/-- No two newlines follow one another. -/
theorem stream_chain : (stream reports).IsChain fun a b => ¬ (a = newline ∧ b = newline) := by
  have hne : [] ∉ reports.map fun r => r.text ++ [newline] := by
    intro h
    obtain ⟨r, -, hr⟩ := List.mem_map.mp h
    exact List.append_ne_nil_of_right_ne_nil _ (List.cons_ne_nil _ _) hr
  refine (List.isChain_flatten hne).mpr ⟨fun line hline => ?_, ?_⟩
  · obtain ⟨r, -, rfl⟩ := List.mem_map.mp hline
    refine List.isChain_append.mpr ⟨?_, List.isChain_singleton _, ?_⟩
    · refine List.Pairwise.isChain (List.pairwise_iff_forall_sublist.mpr fun hsub h => ?_)
      exact r.newline_notMem (h.1 ▸ hsub.subset List.mem_cons_self)
    · intro a ha b _ h
      exact r.newline_notMem (h.1 ▸ List.mem_of_mem_getLast? ha)
  · refine List.Pairwise.isChain (List.pairwise_of_forall_mem_list fun line _ line' hline' => ?_)
    obtain ⟨r, -, rfl⟩ := List.mem_map.mp hline'
    intro a _ b hb h
    rw [List.head?_append_of_ne_nil _ r.ne_nil, r.head_text] at hb
    obtain rfl := Option.mem_some_iff.mp hb
    exact absurd h.2 (by decide)

theorem not_chain_newlines {n : Nat} (hn : 2 ≤ n) :
    ¬ (List.replicate n newline).IsChain fun a b => ¬ (a = newline ∧ b = newline) := by
  obtain ⟨m, rfl⟩ : ∃ m, n = m + 2 := ⟨n - 2, by omega⟩
  intro h
  exact (List.isChain_cons_cons.mp h).1 ⟨rfl, rfl⟩

end Stream

/-! ### What a chunk hands over -/

section Chunk
variable (J : Decoder)

/-- What a text hands to the extraction. -/
def Decoder.content (text : List Byte) : Option (List Byte) := (J.loadJson text).map fun _ => trim text

theorem handed_texts (rs : List Recv) :
    (extThread J rs).handed.map Handed.text = (rs.map Recv.text).filterMap J.content := by
  rw [extThread_handed, List.map_filterMap, List.filterMap_map]
  refine List.filterMap_congr fun r _ => ?_
  exact Option.map_map _ _ _

/-- The buffer ends with a NUL if there is room for it. -/
theorem text_of_lt {r : Recv} (hlt : r.bytes.length < bufferSize) (hzero : 0 ∉ r.bytes) :
    r.text = r.bytes := by
  have hnonzero : ∀ c ∈ r.bytes, decide (c ≠ 0) = true := fun c hc =>
    decide_eq_true fun heq => hzero (heq ▸ hc)
  rw [Recv.text, if_pos hlt, List.takeWhile_append_of_pos hnonzero]
  exact List.append_nil _

/-- Otherwise it runs on into what lies behind it. -/
theorem text_of_full {r : Recv} {c : Byte} (hfull : ¬ r.bytes.length < bufferSize) (hzero : 0 ∉ r.bytes)
    (hbeyond : r.beyond = [c]) (hc : c ≠ 0) : r.text = r.bytes ++ [c] := by
  have hnonzero : ∀ b ∈ r.bytes ++ [c], decide (b ≠ 0) = true := by
    intro b hb
    obtain hb | hb := List.mem_append.mp hb
    · exact decide_eq_true fun heq => hzero (heq ▸ hb)
    · exact decide_eq_true (List.mem_singleton.mp hb ▸ hc)
  rw [Recv.text, if_neg hfull, hbeyond, List.takeWhile_eq_self_iff.mpr hnonzero]

variable {J}

theorem content_some {text t : List Byte} (h : J.content text = some t) : trim text = t := by
  obtain ⟨root, -, rfl⟩ := Option.map_eq_some_iff.mp h
  rfl

/-- A report with newlines around it is handed over. -/
theorem content_report (r : Report J) (before after : Nat) :
    J.content (List.replicate before newline ++ r.text ++ List.replicate after newline) = some r.text := by
  have hblank : ∀ n, ∀ c ∈ List.replicate n newline, isBlank c = true := fun n c hc =>
    List.eq_of_mem_replicate hc ▸ isBlank_newline
  have htrim := trim_append (hblank before) (hblank after) r.ne_nil
    (fun c hc => by rw [r.head_text] at hc; obtain rfl := Option.mem_some_iff.mp hc; decide)
    (fun c hc => by rw [r.last_text] at hc; obtain rfl := Option.mem_some_iff.mp hc; decide)
  rw [Decoder.content, Decoder.loadJson, htrim, r.value_text]
  rfl

/-- Newlines alone hand over nothing. -/
theorem content_newlines (n : Nat) : J.content (List.replicate n newline) = none := by
  have htrim : trim (List.replicate n newline) = [] := trim_blanks fun c hc =>
    List.eq_of_mem_replicate hc ▸ isBlank_newline
  rw [Decoder.content, Decoder.loadJson, htrim, J.value_nil]
  rfl

end Chunk

/-! ### Chunks that hold whole reports -/

section Whole
variable {J : Decoder} {reports : List (Report J)} {chunks : List (List Byte)}

theorem zero_notMem_chunk (hstream : chunks.flatten = stream reports) {c : List Byte} (hc : c ∈ chunks) :
    0 ∉ c := fun h => zero_notMem_stream reports (hstream ▸ List.mem_flatten.mpr ⟨c, hc, h⟩)

/-- Whole reports are delivered. -/
theorem delivered_of_whole (hstream : chunks.flatten = stream reports)
    (h : Whole chunks (reports.map Report.text)) {rs : List Recv} (hrs : rs.map Recv.bytes = chunks) :
    Delivered J rs (reports.map Report.text) := by
  obtain ⟨hshort, parts, hparts, hreports⟩ := h
  refine ⟨?_, extThread_flist J rs⟩
  have htext : rs.map Recv.text = rs.map Recv.bytes := by
    refine List.map_congr_left fun r hr => ?_
    have hmem : r.bytes ∈ chunks := hrs ▸ List.mem_map_of_mem hr
    exact text_of_lt (hshort _ hmem) (zero_notMem_chunk hstream hmem)
  rw [handed_texts, htext, hrs, ← hparts, List.filterMap_map, ← hreports]
  refine List.filterMap_congr fun p hp => ?_
  show J.content p.bytes = p.report
  cases hp' : p.report with
  | none =>
    rw [Part.bytes, hp', Option.getD_none, List.append_nil, List.replicate_append_replicate]
    exact content_newlines _
  | some t =>
    have ht : t ∈ reports.map Report.text := hreports ▸ List.mem_filterMap.mpr ⟨p, hp, hp'⟩
    obtain ⟨r, -, rfl⟩ := List.mem_map.mp ht
    rw [Part.bytes, hp']
    exact content_report r p.before p.after

/-! ### Only those -/

/-- A chunk that lies in memory before a byte that ends no report. -/
def beforeLetter (c : List Byte) : Recv := ⟨c, [0x78], zeroPacket, 0⟩

theorem text_beforeLetter {c : List Byte} (hzero : 0 ∉ c) :
    (beforeLetter c).text = c ∧ c.length < bufferSize ∨ (beforeLetter c).text = c ++ [0x78] := by
  by_cases hlt : c.length < bufferSize
  · exact Or.inl ⟨text_of_lt hlt hzero, hlt⟩
  · exact Or.inr (text_of_full (r := beforeLetter c) hlt hzero rfl (by decide))

/-- A text that ends with a letter is no report. -/
theorem content_letter (r : Report J) (c : List Byte) : J.content (c ++ [0x78]) ≠ some r.text := by
  intro h
  have htrim := content_some h
  have hlast : ∀ l : List Byte, (l ++ [0x78]).rdropWhile isBlank = l ++ [0x78] := fun l =>
    List.rdropWhile_concat_neg _ _ _ (by decide)
  have hend : r.text.getLast? = some 0x78 := by
    rw [← htrim, trim, List.dropWhile_append]
    split
    · exact congrArg List.getLast? (hlast [])
    · rw [hlast, List.getLast?_concat]
  rw [r.last_text] at hend
  exact absurd hend (by decide)

/-- Chunk by chunk: what is handed over is in the chunk, and the chunk does not fill the buffer. -/
theorem content_chunk {c : List Byte} (hzero : 0 ∉ c) {r : Report J}
    (h : J.content (beforeLetter c).text = some r.text) :
    c.length < bufferSize ∧ ∃ before after, c = before ++ r.text ++ after := by
  obtain ⟨htext, hlt⟩ | htext := text_beforeLetter hzero
  · rw [htext] at h
    refine ⟨hlt, ?_⟩
    rw [← content_some h]
    exact exists_trim c
  · rw [htext] at h
    exact absurd h (content_letter r c)

theorem sum_getD {α : Type} (f : α → Option (List Byte)) (l : List α) :
    (l.map fun c => ((f c).getD []).length).sum = ((l.filterMap f).map List.length).sum := by
  induction l with
  | nil => rfl
  | cons a l ih =>
    rw [List.map_cons, List.sum_cons, ih]
    cases h : f a with
    | none => rw [List.filterMap_cons_none h]; exact Nat.zero_add _
    | some t => rw [List.filterMap_cons_some h, List.map_cons, List.sum_cons]; rfl

theorem exists_parts {f : List Byte → Option (List Byte)} {l : List (List Byte)}
    (h : ∀ c ∈ l, ∃ p : Part, p.bytes = c ∧ p.report = f c) :
    ∃ parts : List Part, parts.map Part.bytes = l ∧ parts.filterMap Part.report = l.filterMap f := by
  induction l with
  | nil => exact ⟨[], rfl, rfl⟩
  | cons c l ih =>
    obtain ⟨p, hbytes, hreport⟩ := h c List.mem_cons_self
    obtain ⟨parts, hparts, hreports⟩ := ih fun c hc => h c (List.mem_cons_of_mem _ hc)
    refine ⟨p :: parts, by rw [List.map_cons, hbytes, hparts], ?_⟩
    rw [List.filterMap_cons, List.filterMap_cons, hreport, hreports]

/-- What is delivered came in whole. -/
theorem whole_of_delivered (hstream : chunks.flatten = stream reports)
    (h : (chunks.map fun c => (beforeLetter c).text).filterMap J.content = reports.map Report.text) :
    Whole chunks (reports.map Report.text) := by
  rw [List.filterMap_map] at h
  let got := fun c => J.content (beforeLetter c).text
  have hgot : chunks.filterMap got = reports.map Report.text := h
  -- what a chunk hands over is in it
  have hreport : ∀ c ∈ chunks, ∀ t, got c = some t → ∃ r : Report J, r.text = t := by
    intro c hc t ht
    have hmem : t ∈ reports.map Report.text := hgot ▸ List.mem_filterMap.mpr ⟨c, hc, ht⟩
    obtain ⟨r, -, hr⟩ := List.mem_map.mp hmem
    exact ⟨r, hr⟩
  have hle : ∀ c ∈ chunks, ((got c).getD []).length ≤ letters c := by
    intro c hc
    cases ht : got c with
    | none => exact Nat.zero_le _
    | some t =>
      obtain ⟨r, rfl⟩ := hreport c hc t ht
      obtain ⟨-, before, after, heq⟩ := content_chunk (zero_notMem_chunk hstream hc) ht
      have hcount := congrArg letters heq
      rw [letters_append, letters_append, letters_of_notMem r.newline_notMem] at hcount
      rw [Option.getD_some]
      omega
  -- together the reports are all there is but newlines
  have hsum : (chunks.map letters).sum ≤ (chunks.map fun c => ((got c).getD []).length).sum := by
    rw [sum_getD, hgot, ← letters_flatten, hstream, letters_stream, List.map_map]
    exact Nat.le_refl _
  have heq := terms_eq hle hsum
  have hpart : ∀ c ∈ chunks, c.length < bufferSize ∧ ∃ p : Part, p.bytes = c ∧ p.report = got c := by
    intro c hc
    have hcount := heq c hc
    cases ht : got c with
    | none =>
      rw [ht] at hcount
      have hlines := newlines_of_letters hcount.symm
      refine ⟨?_, ⟨c.length, none, 0⟩, ?_, rfl⟩
      · by_contra hfull
        have hinfix := List.infix_of_mem_flatten hc
        rw [hstream, hlines] at hinfix
        have htwo : 2 ≤ c.length := le_trans (by decide) (not_lt.mp hfull)
        have hchain := List.IsChain.infix (stream_chain reports) hinfix
        exact not_chain_newlines htwo hchain
      · rw [hlines]
        simp [Part.bytes]
    | some t =>
      obtain ⟨r, rfl⟩ := hreport c hc t ht
      obtain ⟨hlt, before, after, hsplit⟩ := content_chunk (zero_notMem_chunk hstream hc) ht
      rw [ht, Option.getD_some, hsplit, letters_append, letters_append,
        letters_of_notMem r.newline_notMem] at hcount
      have hbefore : before = List.replicate before.length newline := newlines_of_letters (by omega)
      have hafter : after = List.replicate after.length newline := newlines_of_letters (by omega)
      refine ⟨hlt, ⟨before.length, some r.text, after.length⟩, ?_, rfl⟩
      rw [Part.bytes, Option.getD_some, ← hbefore, ← hafter, hsplit]
  obtain ⟨parts, hparts, hreports⟩ := exists_parts fun c hc => (hpart c hc).2
  exact ⟨fun c hc => (hpart c hc).1, parts, hparts, hreports.trans hgot⟩

/-- **Main theorem.** The reports are delivered, whatever lies behind the buffer, exactly if
every chunk holds at most one report, which is whole, and does not fill the buffer. -/
theorem reports_delivered_iff (hstream : chunks.flatten = stream reports) :
    (∀ rs : List Recv, rs.map Recv.bytes = chunks → Delivered J rs (reports.map Report.text)) ↔
      Whole chunks (reports.map Report.text) := by
  refine ⟨fun h => ?_, fun h rs hrs => delivered_of_whole hstream h hrs⟩
  have hbytes : (chunks.map beforeLetter).map Recv.bytes = chunks := by
    rw [List.map_map]
    exact List.map_id _
  have htexts := (h (chunks.map beforeLetter) hbytes).1
  rw [handed_texts, List.map_map] at htexts
  exact whole_of_delivered hstream htexts

end Whole

/-- `{"address":"a"}`. -/
def addressText : List Byte :=
  [0x7b, 0x22, 0x61, 0x64, 0x64, 0x72, 0x65, 0x73, 0x73, 0x22, 0x3a, 0x22, 0x61, 0x22, 0x7d]

/-- The value of `addressText`. -/
def addressRoot : Json := .object [("address", .string [0x61])]

def addressValue (text : List Byte) : Option Json := if text = addressText then some addressRoot else none

theorem addressValue_nil : addressValue [] = none := if_neg (by decide)

theorem addressValue_text : addressValue addressText = some addressRoot := if_pos rfl

/-- A decoder that knows no other value. -/
def addressDecoder : Decoder := ⟨addressValue, addressValue_nil⟩

theorem newline_notMem_addressText : newline ∉ addressText := by decide

theorem zero_notMem_addressText : 0 ∉ addressText := by decide

theorem addressText_lt : addressText.length < bufferSize := by decide

def addressReport : Report addressDecoder where
  text := addressText
  root := addressRoot
  value_text := addressValue_text
  head_text := rfl
  last_text := rfl
  newline_notMem := newline_notMem_addressText
  zero_notMem := zero_notMem_addressText
  length_lt := addressText_lt

/-- Two reports in one chunk are both lost. -/
theorem two_reports_lost :
    ¬ ∀ rs : List Recv, rs.map Recv.bytes = [stream [addressReport, addressReport]] →
      Delivered addressDecoder rs ([addressReport, addressReport].map Report.text) := by
  intro h
  have hhanded := (h [beforeLetter (stream [addressReport, addressReport])] rfl).1
  rw [handed_texts] at hhanded
  have hnone : ([beforeLetter (stream [addressReport, addressReport])].map Recv.text).filterMap
      addressDecoder.content = [] := by decide +kernel
  rw [hnone] at hhanded
  cases hhanded

/-- Two reports, each in a chunk of its own, are delivered. -/
theorem reports_delivered_two :
    Delivered addressDecoder [beforeLetter (stream [addressReport]), beforeLetter (stream [addressReport])]
      [addressText, addressText] := by
  have hwhole : Whole [stream [addressReport], stream [addressReport]] ([addressReport, addressReport].map Report.text) :=
    ⟨by decide, [⟨0, some addressText, 1⟩, ⟨0, some addressText, 1⟩], by decide, rfl⟩
  exact (reports_delivered_iff (by decide)).mpr hwhole _ rfl

end RbFeeder.Airnav.Uat
