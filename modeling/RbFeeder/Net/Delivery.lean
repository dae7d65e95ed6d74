import RbFeeder.Net.ReaderProofs

/-! What a network client's handler is called with.

For the Beast input the calls depend only on the stream (`beast_chunking`): a full
buffer that is thrown away holds no escape byte, since an incomplete message is
much shorter than the buffer. A stream written by `writeBeastMessage` comes back
message by message (`beast_round_trip`).

For the ASCII input the stream has to be free of NUL bytes: `strstr` stops at one,
no line behind it is found, and the buffer fills up and is thrown away. For lines
that fit the buffer this is the only thing that can go wrong
(`ascii_lossless_iff`). -/
namespace RbFeeder.Net
open ModeS (Byte)
open Framing (Framer)

/-- The results of `read` carry the stream `data`, cut in some way, and the
connection stays open. -/
def Delivers (results : List ReadResult) (data : List Byte) : Prop :=
  ∃ pieces : List (List Byte), results.map ReadResult.piece = pieces.map some ∧ pieces.flatten = data

/-! ### Beast -/

theorem beastLength_le {type : Byte} {n : Nat} (h : beastLength type = some n) : n ≤ 22 := by
  unfold beastLength at h
  simp only [modeacMsgBytes, ModeS.shortMsgBytes, ModeS.longMsgBytes] at h
  split_ifs at h <;> cases h <;> decide

theorem next_of_notMem (bodyLength : Byte → Option Nat) {data : List Byte} (h : escapeByte ∉ data) :
    (beastFramer bodyLength).next data = none := by
  cases data with
  | nil => rfl
  | cons start data =>
    rw [List.mem_cons, not_or] at h
    simp only [beastFramer, beastNext]
    rw [if_pos fun heq => h.1 heq.symm, if_neg h.2]

/-- A buffer without an escape byte is garbage for good. -/
theorem inert_of_notMem (bodyLength : Byte → Option Nat) {buf : List Byte} (h : escapeByte ∉ buf) :
    (beastFramer bodyLength).Inert buf := by
  intro more
  by_cases hmore : escapeByte ∈ more
  · induction buf with
    | nil => rfl
    | cons start buf ih =>
      rw [List.mem_cons, not_or] at h
      have hnext : (beastFramer bodyLength).next (start :: (buf ++ more)) =
          some ([], buf ++ more) := by
        simp only [beastFramer, beastNext]
        rw [if_pos fun heq => h.1 heq.symm, if_pos (List.mem_append_right _ hmore)]
      rw [List.cons_append, (beastFramer bodyLength).scan_of_some hnext, List.nil_append]
      exact ih h.2
  · have hnone := next_of_notMem bodyLength (List.not_mem_append h hmore)
    rw [(beastFramer bodyLength).scan_of_none hnone,
      (beastFramer bodyLength).scan_of_none (next_of_notMem bodyLength hmore)]

/-- A full buffer without a decision has no escape byte: what starts with one is
decided after at most 45 bytes. -/
theorem notMem_of_full {buf : List Byte} (hbuf : (beastFramer beastLength).next buf = none)
    (hfull : clientBufSize ≤ buf.length + 1) : escapeByte ∉ buf := by
  unfold clientBufSize at hfull
  cases buf with
  | nil => simp
  | cons start data =>
    rw [List.length_cons] at hfull
    simp only [beastFramer, beastNext] at hbuf
    split at hbuf
    · next hstart =>
      split at hbuf
      · cases hbuf
      · next hmem => exact List.not_mem_cons_of_ne_of_not_mem (Ne.symm hstart) hmem
    · cases data with
      | nil => simp at hfull
      | cons type rest =>
        rw [List.length_cons] at hfull
        dsimp only at hbuf
        split at hbuf
        · cases hbuf
        · next n hn =>
          split at hbuf
          · next hincomplete =>
            have hshort := beastLength_le hn
            have := escapedLength_le (show 2 * n ≤ (type :: rest).length by
              rw [List.length_cons]; omega)
            omega
          · cases hbuf

/-- The calls are those of a scan over the whole stream. -/
theorem beast_calls {results : List ReadResult} {data : List Byte} (h : Delivers results data) :
    (pollClient .beast [] results).1 = ((beastFramer beastLength).scan data).1 := by
  obtain ⟨pieces, hopen, rfl⟩ := h
  have hnil := (beastFramer beastLength).next_nil
  rw [pollClient_calls rfl results hopen [] hnil,
    (beastFramer beastLength).messages_read keepBuffer ?_ pieces [] hnil, List.nil_append]
  intro buf hbuf
  refine (keepBuffer_eq buf).imp_right fun ⟨hkeep, hfull⟩ => ⟨hkeep, ?_⟩
  exact inert_of_notMem _ (notMem_of_full hbuf hfull)

/-- **The Beast calls do not depend on how the stream is cut**, whatever the stream. -/
theorem beast_chunking {results results' : List ReadResult} {data : List Byte}
    (h : Delivers results data) (h' : Delivers results' data) :
    (pollClient .beast [] results).1 = (pollClient .beast [] results').1 := by
  rw [beast_calls h, beast_calls h']

/-- A heartbeat in one piece and in two. -/
theorem beast_chunking_heartbeat :
    (pollClient .beast [] [.data [0x1a, 0x31], .again, .data [0, 0, 0, 0, 0, 0, 0, 0, 0]]).1 =
      (pollClient .beast [] [.data [0x1a, 0x31, 0, 0, 0, 0, 0, 0, 0, 0, 0]]).1 := by
  have hcut : Delivers [.data [0x1a, 0x31], .again, .data [0, 0, 0, 0, 0, 0, 0, 0, 0]]
      [0x1a, 0x31, 0, 0, 0, 0, 0, 0, 0, 0, 0] := ⟨[_, [], _], rfl, rfl⟩
  exact beast_chunking hcut ⟨[_], rfl, rfl⟩

/-! ### The round trip -/

theorem type_length (m : BeastMessage) : beastLength m.type = some (m.payload.length + 1) := by
  rw [m.length_payload]
  rcases m.length_msg with h | h | h <;> rw [BeastMessage.type, h] <;> rfl

theorem type_ne_escapeByte (m : BeastMessage) : m.type ≠ escapeByte := by
  unfold BeastMessage.type
  split_ifs <;> decide

/-- A frame is one decision of the scanner, whatever follows it. -/
theorem next_frame (m : BeastMessage) (more : List Byte) :
    (beastFramer beastLength).next (m.frame ++ more) = some ([m.body], more) := by
  have hlen : escapedLength (m.type :: (escapeBytes m.payload ++ more)) (m.payload.length + 1) =
      m.body.length := by
    rw [escapedLength, if_neg (type_ne_escapeByte m), escapedLength_escapeBytes, BeastMessage.body,
      List.length_cons, Nat.add_comm]
  have hbody : m.type :: (escapeBytes m.payload ++ more) = m.body ++ more := rfl
  have hframe : m.frame ++ more = escapeByte :: m.type :: (escapeBytes m.payload ++ more) := rfl
  rw [hframe]
  simp only [beastFramer, beastNext, type_length m, hlen]
  rw [if_neg (not_not.mpr rfl), hbody, if_neg (by simp), List.take_left, List.drop_left]

theorem scan_frames (msgs : List BeastMessage) :
    (beastFramer beastLength).scan (msgs.flatMap BeastMessage.frame) =
      (msgs.map BeastMessage.body, []) := by
  induction msgs with
  | nil => exact (beastFramer beastLength).scan_of_none (beastFramer beastLength).next_nil
  | cons m msgs ih =>
    rw [List.flatMap_cons, (beastFramer beastLength).scan_of_some (next_frame m _), ih]
    rfl

/-- The stream that `writeBeastMessage` produces for some messages. -/
def beastStream (msgs : List BeastMessage) : List Byte :=
  msgs.flatMap fun m => (writeBeastMessage (m.timestamp.setWidth 64) m.signal m.msg).getD []

/-- **The Beast round trip.** However the stream of written frames is cut, the read
handler is called once for each message, in order, and each call reads the
message's timestamp, signal byte and bytes; a Mode A/C message is ignored if Mode
A/C is off. -/
theorem beast_round_trip (mode_ac : Bool) (msgs : List BeastMessage) {results : List ReadResult}
    (h : Delivers results (beastStream msgs)) :
    (pollClient .beast [] results).1 = msgs.map BeastMessage.body ∧
      (pollClient .beast [] results).1.map (decodeBinMessage mode_ac) =
        msgs.map (BeastMessage.received mode_ac) := by
  have hstream : beastStream msgs = msgs.flatMap BeastMessage.frame := by
    simp only [beastStream, BeastMessage.writeBeastMessage_eq, Option.getD_some]
  have hcalls : (pollClient .beast [] results).1 = msgs.map BeastMessage.body := by
    rw [beast_calls h, hstream, scan_frames]
  refine ⟨hcalls, ?_⟩
  rw [hcalls, List.map_map]
  refine List.map_congr_left fun m _ => ?_
  have := m.decodeBinMessage_body mode_ac []
  rwa [List.append_nil] at this

/-- A short message with an escape byte in each of its fields. -/
def escapedMessage : BeastMessage where
  timestamp := 0x1a00#48
  signal := ⟨true, 26⟩
  msg := [0x1a, 0, 0, 0, 0, 0, 0x1a]
  length_msg := .inr (.inl rfl)

/-- The message arrives in two pieces, cut inside an escape. -/
theorem beast_round_trip_escaped :
    (pollClient .beast [] [.data (escapedMessage.frame.take 7), .data (escapedMessage.frame.drop 7)]).1 =
        [escapedMessage.body] ∧
      (pollClient .beast [] [.data (escapedMessage.frame.take 7),
        .data (escapedMessage.frame.drop 7)]).1.map (decodeBinMessage false) =
        [.modeS 0x1a00#64 0x1a [0x1a, 0, 0, 0, 0, 0, 0x1a]] := by
  have hstream : beastStream [escapedMessage] = escapedMessage.frame := by
    simp [beastStream, BeastMessage.writeBeastMessage_eq]
  have hcut : Delivers [.data (escapedMessage.frame.take 7), .data (escapedMessage.frame.drop 7)]
      (beastStream [escapedMessage]) := ⟨[_, _], rfl, by simp [hstream]⟩
  exact beast_round_trip false [escapedMessage] hcut

/-- A Mode A/C message with squawk 7700. -/
def modeacMessage : BeastMessage where
  timestamp := 1#48
  signal := ⟨true, 100⟩
  msg := [0x77, 0x00]
  length_msg := .inl rfl

/-- Without Mode A/C the handler is called, but reads nothing from the frame. -/
theorem modeac_not_recovered :
    Delivers [.data modeacMessage.frame] (beastStream [modeacMessage]) ∧
      (pollClient .beast [] [.data modeacMessage.frame]).1.map (decodeBinMessage false) ≠
        [.modeAC 1#64 100 [0x77, 0x00]] := by
  have hcut : Delivers [.data modeacMessage.frame] (beastStream [modeacMessage]) :=
    ⟨[_], rfl, by simp [beastStream, BeastMessage.writeBeastMessage_eq]⟩
  have hcalls : (pollClient .beast [] [.data modeacMessage.frame]).1 = [modeacMessage.body] := by
    have hframe := scan_frames [modeacMessage]
    rw [List.flatMap_singleton] at hframe
    have hstream : beastStream [modeacMessage] = modeacMessage.frame := by
      simp [beastStream, BeastMessage.writeBeastMessage_eq]
    rw [beast_calls hcut, hstream, hframe]
    rfl
  have hignored := modeacMessage.decodeBinMessage_body false []
  rw [List.append_nil] at hignored
  refine ⟨hcut, ?_⟩
  rw [hcalls, List.map_singleton, hignored]
  decide

/-! ### ASCII -/

/-- The stream of some lines. -/
def asciiStream (lines : List (List Byte)) : List Byte := lines.flatMap (· ++ [newline])

theorem asciiStream_cons (line : List Byte) (lines : List (List Byte)) :
    asciiStream (line :: lines) = line ++ newline :: asciiStream lines := by
  rw [asciiStream, List.flatMap_cons, List.append_assoc]
  rfl

/-- `strstr` finds the first separator that no NUL byte hides. -/
theorem strstr_eq_some {sep : Byte} {data : List Byte} {p : Nat} (h : strstr sep data = some p) :
    ∃ line more, data = line ++ sep :: more ∧ line.length = p ∧ sep ∉ line ∧ 0 ∉ line := by
  induction data generalizing p with
  | nil => cases h
  | cons ch rest ih =>
    simp only [strstr] at h
    split at h
    · cases h
    · next hnul =>
      split at h
      · next hsep =>
        cases h
        exact ⟨[], rest, by rw [hsep]; rfl, rfl, List.not_mem_nil, List.not_mem_nil⟩
      · next hsep =>
        obtain ⟨q, hq, rfl⟩ := Option.map_eq_some_iff.mp h
        obtain ⟨line, more, rfl, rfl, hline, hfree⟩ := ih hq
        exact ⟨ch :: line, more, rfl, rfl, List.not_mem_cons_of_ne_of_not_mem (Ne.symm hsep) hline,
          List.not_mem_cons_of_ne_of_not_mem (Ne.symm hnul) hfree⟩

theorem strstr_line {line : List Byte} (hline : newline ∉ line) (hnul : 0 ∉ line)
    (more : List Byte) : strstr newline (line ++ newline :: more) = some line.length := by
  induction line with
  | nil => rfl
  | cons ch line ih =>
    rw [List.mem_cons, not_or] at hline hnul
    rw [List.cons_append, strstr, if_neg (Ne.symm hnul.1), if_neg (Ne.symm hline.1),
      ih hline.2 hnul.2, List.length_cons]
    rfl

/-- Where a line ends is determined by the stream. -/
theorem line_inj {line line' more more' : List Byte} (hline : newline ∉ line)
    (hline' : newline ∉ line') (h : line ++ newline :: more = line' ++ newline :: more') :
    line = line' ∧ more = more' := by
  induction line generalizing line' with
  | nil =>
    cases line' with
    | nil => exact ⟨rfl, (List.cons.inj h).2⟩
    | cons ch line' => exact absurd (List.cons.inj h).1 fun heq => hline' (heq ▸ List.mem_cons_self)
  | cons ch line ih =>
    cases line' with
    | nil => exact absurd (List.cons.inj h).1 fun heq => hline (heq ▸ List.mem_cons_self)
    | cons ch' line' =>
      obtain ⟨rfl, htail⟩ := List.cons.inj h
      rw [List.mem_cons, not_or] at hline hline'
      obtain ⟨rfl, rfl⟩ := ih hline.2 hline'.2 htail
      exact ⟨rfl, rfl⟩

/-- A scan of the first part of a stream of lines emits lines of it, none with a NUL
byte, and leaves a stream of lines. -/
theorem scan_prefix {data rest : List Byte} {lines : List (List Byte)}
    (hlines : ∀ line ∈ lines, newline ∉ line) (h : data ++ rest = asciiStream lines) :
    ∃ emitted later, lines = emitted ++ later ∧ (∀ line ∈ emitted, 0 ∉ line) ∧
      ((asciiFramer newline).scan data).1 = emitted ∧
      ((asciiFramer newline).scan data).2 ++ rest = asciiStream later := by
  induction lines generalizing data with
  | nil =>
    obtain ⟨rfl, rfl⟩ := List.append_eq_nil_iff.mp h
    have hscan := (asciiFramer newline).scan_of_none (asciiFramer newline).next_nil
    exact ⟨[], [], rfl, by simp, by rw [hscan], by rw [hscan]; exact h⟩
  | cons line lines ih =>
    cases hfound : strstr newline data with
    | none =>
      have hnone : (asciiFramer newline).next data = none := by
        simp [asciiFramer, asciiNext, hfound]
      have hscan := (asciiFramer newline).scan_of_none hnone
      exact ⟨[], line :: lines, rfl, by simp, by rw [hscan], by rw [hscan]; exact h⟩
    | some p =>
      obtain ⟨first, more, rfl, rfl, hfirst, hfree⟩ := strstr_eq_some hfound
      rw [asciiStream_cons, List.append_assoc, List.cons_append] at h
      obtain ⟨rfl, hmore⟩ := line_inj hfirst (hlines line List.mem_cons_self) h
      have hnext : (asciiFramer newline).next (first ++ newline :: more) = some ([first], more) := by
        simp [asciiFramer, asciiNext, hfound]
      obtain ⟨emitted, later, rfl, hemitted, hcalls, hleft⟩ :=
        ih (fun line hline => hlines line (List.mem_cons_of_mem _ hline)) hmore
      rw [(asciiFramer newline).scan_of_some hnext]
      refine ⟨first :: emitted, later, rfl, ?_, by rw [hcalls]; rfl, hleft⟩
      exact List.forall_mem_cons.mpr ⟨hfree, hemitted⟩

/-- Every call uses up a newline. -/
theorem scan_count (data : List Byte) :
    ((asciiFramer newline).scan data).1.length +
      ((asciiFramer newline).scan data).2.count newline ≤ data.count newline := by
  induction data using (asciiFramer newline).scan_induction with
  | waits data h => simp [(asciiFramer newline).scan_of_none h]
  | decides data calls left h ih =>
    rw [(asciiFramer newline).scan_of_some h]
    obtain ⟨p, hp, heq⟩ := Option.map_eq_some_iff.mp h
    obtain ⟨rfl, rfl⟩ := Prod.mk.inj heq
    obtain ⟨line, more, rfl, rfl, -, -⟩ := strstr_eq_some hp
    have hdrop : (line ++ newline :: more).drop (line.length + 1) = more := by simp
    rw [hdrop] at ih ⊢
    rw [List.length_append, List.count_append, List.count_cons_self, List.length_singleton]
    dsimp only
    omega

theorem read_count (buf : List Byte) (pieces : List (List Byte)) :
    ((asciiFramer newline).read keepBuffer buf pieces).1.length ≤
      (buf ++ pieces.flatten).count newline := by
  induction pieces generalizing buf with
  | nil => simp [Framer.read]
  | cons piece pieces ih =>
    have hscan := scan_count (keepBuffer buf ++ piece)
    have hrest := ih ((asciiFramer newline).scan (keepBuffer buf ++ piece)).2
    have hkeep : (keepBuffer buf).count newline ≤ buf.count newline := by
      rcases keepBuffer_eq buf with h | ⟨h, -⟩ <;> simp [h]
    simp only [Framer.read, List.length_append, List.flatten_cons, List.count_append] at *
    omega

theorem count_asciiStream {lines : List (List Byte)} (hlines : ∀ line ∈ lines, newline ∉ line) :
    (asciiStream lines).count newline = lines.length := by
  induction lines with
  | nil => rfl
  | cons line lines ih =>
    rw [List.forall_mem_cons] at hlines
    rw [asciiStream_cons, List.count_append, List.count_cons_self, ih hlines.2,
      List.count_eq_zero.mpr hlines.1, List.length_cons, Nat.zero_add]

/-- A line as the stream may contain it: it fits the buffer together with its newline. -/
def FitsBuffer (line : List Byte) : Prop := newline ∉ line ∧ line.length + 1 ≤ clientBufSize - 1

/-- A full buffer at the start of a line holds the whole line. -/
theorem full_buffer {buf rest : List Byte} {lines : List (List Byte)}
    (hlines : ∀ line ∈ lines, FitsBuffer line) (h : buf ++ rest = asciiStream lines)
    (hfull : clientBufSize ≤ buf.length + 1) :
    ∃ line more, buf = line ++ newline :: more ∧ line ∈ lines := by
  unfold clientBufSize at hfull
  cases lines with
  | nil =>
    obtain ⟨rfl, -⟩ := List.append_eq_nil_iff.mp h
    simp at hfull
  | cons line lines =>
    obtain ⟨-, hfits⟩ := hlines line List.mem_cons_self
    unfold clientBufSize at hfits
    rw [asciiStream_cons] at h
    obtain ⟨middle, hmiddle⟩ : line ++ [newline] <+: buf := by
      have hfirst : line ++ [newline] <+: buf ++ rest :=
        ⟨asciiStream lines, by rw [h, List.append_assoc]; rfl⟩
      refine List.prefix_of_prefix_length_le hfirst (List.prefix_append _ _) ?_
      rw [List.length_append, List.length_singleton]
      omega
    refine ⟨line, middle, ?_, List.mem_cons_self⟩
    rw [← hmiddle, List.append_assoc]
    rfl

/-- What keeps an undecided buffer from ending its line is a NUL byte. -/
theorem nul_of_undecided {buf line more : List Byte} (hbuf : (asciiFramer newline).next buf = none)
    (h : buf = line ++ newline :: more) (hline : newline ∉ line) : 0 ∈ line := by
  by_contra hnul
  simp [asciiFramer, asciiNext, h, strstr_line hline hnul] at hbuf

/-- From a buffer that starts with a line: without NUL bytes every line is passed
on, with one fewer calls are made than lines come in. -/
theorem read_lines {pieces lines : List (List Byte)} (hlines : ∀ line ∈ lines, FitsBuffer line)
    {buf : List Byte} (h : buf ++ pieces.flatten = asciiStream lines)
    (hbuf : (asciiFramer newline).next buf = none) :
    ((∀ line ∈ lines, 0 ∉ line) →
        ((asciiFramer newline).read keepBuffer buf pieces).1 = lines) ∧
      ((∃ line ∈ lines, 0 ∈ line) →
        ((asciiFramer newline).read keepBuffer buf pieces).1.length < lines.length) := by
  induction pieces generalizing buf lines with
  | nil =>
    rw [List.flatten_nil, List.append_nil] at h
    cases lines with
    | nil =>
      refine ⟨fun _ => rfl, fun hnul => ?_⟩
      obtain ⟨line, hmem, -⟩ := hnul
      cases hmem
    | cons line lines =>
      refine ⟨fun hfree => ?_, fun _ => by simp [Framer.read]⟩
      rw [asciiStream_cons] at h
      have hline := (hlines line List.mem_cons_self).1
      exact absurd (nul_of_undecided hbuf h hline) (hfree line List.mem_cons_self)
  | cons piece pieces ih =>
    have hends := fun line hline => (hlines line hline).1
    rw [List.flatten_cons] at h
    rcases keepBuffer_eq buf with hkeep | ⟨hkeep, hfull⟩
    · rw [← List.append_assoc] at h
      obtain ⟨emitted, later, rfl, hemitted, hcalls, hleft⟩ := scan_prefix hends h
      have hlater := fun line hline => hlines line (List.mem_append_right _ hline)
      obtain ⟨hall, hlost⟩ := ih hlater hleft ((asciiFramer newline).next_scan _)
      simp only [Framer.read, hkeep, hcalls]
      refine ⟨fun hfree => ?_, fun hlose => ?_⟩
      · rw [hall fun line hline => hfree line (List.mem_append_right _ hline)]
      · obtain ⟨line, hmem, hnul⟩ := hlose
        have hin : line ∈ later := by
          refine (List.mem_append.mp hmem).resolve_left fun hline => hemitted line hline hnul
        have := hlost ⟨line, hin, hnul⟩
        simp only [List.length_append]
        omega
    · -- the full buffer is thrown away, and with it the newline of its first line
      obtain ⟨line, more, rfl, hmem⟩ := full_buffer hlines h hfull
      refine ⟨fun hfree => ?_, fun _ => ?_⟩
      · exact absurd (nul_of_undecided hbuf rfl (hends line hmem)) (hfree line hmem)
      · have hsame : (asciiFramer newline).read keepBuffer (line ++ newline :: more) (piece :: pieces) =
            (asciiFramer newline).read keepBuffer [] (piece :: pieces) := by
          rw [Framer.read, Framer.read, hkeep]
          rfl
        have hread := read_count [] (piece :: pieces)
        have hcount := count_asciiStream hends
        rw [← h, List.count_append, List.count_append, List.count_cons_self] at hcount
        rw [hsame]
        rw [List.nil_append, List.flatten_cons] at hread
        omega

/-- **The ASCII framing passes on every line exactly when no line has a NUL byte**,
however the stream is cut. -/
theorem ascii_lossless_iff (lines : List (List Byte)) (hlines : ∀ line ∈ lines, FitsBuffer line)
    {results : List ReadResult} (h : Delivers results (asciiStream lines)) :
    ((pollClient (.ascii newline) [] results).1 = lines ↔ ∀ line ∈ lines, 0 ∉ line) ∧
      ((pollClient (.ascii newline) [] results).1.length = lines.length ↔
        ∀ line ∈ lines, 0 ∉ line) := by
  obtain ⟨pieces, hopen, hstream⟩ := h
  have hnil := (asciiFramer newline).next_nil
  have hstart : [] ++ pieces.flatten = asciiStream lines := hstream
  obtain ⟨hall, hlost⟩ := read_lines hlines hstart hnil
  rw [pollClient_calls rfl results hopen [] hnil]
  have hfewer : ¬ (∀ line ∈ lines, 0 ∉ line) →
      ((asciiFramer newline).read keepBuffer [] pieces).1.length < lines.length := by
    intro hnul
    simp only [not_forall, not_not] at hnul
    obtain ⟨line, hmem, hnul⟩ := hnul
    exact hlost ⟨line, hmem, hnul⟩
  refine ⟨⟨fun heq => ?_, hall⟩, ⟨fun heq => ?_, fun hfree => by rw [hall hfree]⟩⟩
  · by_contra hnul
    have := hfewer hnul
    rw [heq] at this
    exact absurd this (lt_irrefl _)
  · by_contra hnul
    exact absurd heq (hfewer hnul).ne

/-- Two lines in one piece. -/
theorem ascii_lossless_two :
    ((pollClient (.ascii newline) [] [.data [0x2a, newline, 0x3b, newline]]).1 = [[0x2a], [0x3b]] ↔
        ∀ line ∈ [[(0x2a : Byte)], [0x3b]], 0 ∉ line) ∧
      ((pollClient (.ascii newline) [] [.data [0x2a, newline, 0x3b, newline]]).1.length =
          [[(0x2a : Byte)], [0x3b]].length ↔ ∀ line ∈ [[(0x2a : Byte)], [0x3b]], 0 ∉ line) :=
  ascii_lossless_iff [[0x2a], [0x3b]] (by simp [FitsBuffer, clientBufSize, newline]) ⟨[_], rfl, rfl⟩

/-- A line that is a NUL byte takes the line behind it along. -/
theorem ascii_nul_drops_line :
    (∀ line ∈ [[(0 : Byte)], [0x41]], FitsBuffer line) ∧
      Delivers [.data [0, newline, 0x41, newline]] (asciiStream [[0], [0x41]]) ∧
      (pollClient (.ascii newline) [] [.data [0, newline, 0x41, newline]]).1 = [] := by
  refine ⟨by simp [FitsBuffer, clientBufSize, newline], ⟨[_], rfl, rfl⟩, ?_⟩
  have hnext : (asciiFramer newline).next ([] ++ [0, newline, 0x41, newline]) = none := rfl
  have hopen : [ReadResult.data [0, newline, 0x41, newline]].map ReadResult.piece =
      [[0, newline, 0x41, newline]].map some := rfl
  rw [pollClient_calls rfl _ hopen [] (asciiFramer newline).next_nil]
  simp only [Framer.read, show keepBuffer [] = [] from rfl, (asciiFramer newline).scan_of_none hnext,
    List.append_nil]

end RbFeeder.Net
