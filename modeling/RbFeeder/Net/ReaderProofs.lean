import RbFeeder.Net.Reader
import RbFeeder.Lib.Framing

/-! The scanners of `modesReadFromClient` as framers.

A Beast scanner decides byte by byte: garbage before an escape byte is skipped, an
escape byte with another type behind it too, and a complete message is emitted
(`beastFramer`). The ASCII scanner emits what is in front of a separator
(`asciiFramer`). How the loop of `modesReadFromClient` groups the reads does not
matter (`pollClient_calls`), so the calls of the handler are those of a framer that
reads the pieces one after the other. -/
namespace RbFeeder.Net
open ModeS (Byte)
open Framing (Framer)

/-! ### Messages with escapes -/

theorem escapedLength_append {data : List Byte} {n : Nat} (more : List Byte)
    (h : escapedLength data n ≤ data.length) :
    escapedLength (data ++ more) n = escapedLength data n := by
  induction n generalizing data with
  | zero => cases data <;> rfl
  | succ n ih =>
    cases data with
    | nil => simp [escapedLength] at h
    | cons ch rest =>
      simp only [escapedLength, List.cons_append, List.length_cons] at h ⊢
      split
      · next hch =>
        rw [if_pos hch] at h
        cases rest with
        | nil =>
          rw [List.length_nil] at h
          omega
        | cons ch' rest =>
          simp only [List.drop_succ_cons, List.drop_zero, List.cons_append, List.length_cons] at h ⊢
          rw [ih (by omega)]
      · next hch =>
        rw [if_neg hch] at h
        rw [ih (by omega)]

/-- An incomplete message is short. -/
theorem escapedLength_le {data : List Byte} {n : Nat} (h : 2 * n ≤ data.length) :
    escapedLength data n ≤ data.length := by
  induction n generalizing data with
  | zero => simp [escapedLength]
  | succ n ih =>
    cases data with
    | nil => simp at h
    | cons ch rest =>
      simp only [List.length_cons] at h
      simp only [escapedLength, List.length_cons]
      split
      · have hdrop : (rest.drop 1).length = rest.length - 1 := List.length_drop
        have : escapedLength (rest.drop 1) n ≤ (rest.drop 1).length := ih (by omega)
        omega
      · have : escapedLength rest n ≤ rest.length := ih (by omega)
        omega

/-- Escaped bytes are as long as the loop over escapes finds them. -/
theorem escapedLength_escapeBytes (bytes more : List Byte) :
    escapedLength (escapeBytes bytes ++ more) bytes.length = (escapeBytes bytes).length := by
  induction bytes with
  | nil => simp [escapedLength]
  | cons ch bytes ih =>
    by_cases hch : ch = escapeByte
    · simp only [escapeBytes_cons, hch, if_true, List.cons_append, List.nil_append, List.length_cons,
        escapedLength, List.drop_succ_cons, List.drop_zero, ih]
      omega
    · simp only [escapeBytes_cons, hch, if_false, List.cons_append, List.nil_append,
        List.length_cons, escapedLength, ih]
      omega

/-! ### The Beast scanner -/

/-- One decision of the Beast scanner. -/
def beastNext (bodyLength : Byte → Option Nat) : List Byte → Option (List (List Byte) × List Byte)
  | [] => none
  | start :: data =>
    if start ≠ escapeByte then (if escapeByte ∈ data then some ([], data) else none)
    else
      match data with
      | [] => none
      | type :: rest =>
        match bodyLength type with
        | none => some ([], type :: rest)
        | some n =>
          let eom := escapedLength (type :: rest) n
          if eom > (type :: rest).length then none
          else some ([(type :: rest).take eom], (type :: rest).drop eom)

theorem beastNext_stable {bodyLength : Byte → Option Nat} {data left : List Byte}
    {calls : List (List Byte)} (more : List Byte) (h : beastNext bodyLength data = some (calls, left)) :
    beastNext bodyLength (data ++ more) = some (calls, left ++ more) := by
  cases data with
  | nil => cases h
  | cons start data =>
    simp only [beastNext, List.cons_append] at h ⊢
    split at h
    · next hstart =>
      split at h
      · next hmem =>
        cases h
        rw [if_pos hstart, if_pos (List.mem_append_left _ hmem)]
      · cases h
    · next hstart =>
      rw [if_neg hstart]
      cases data with
      | nil => cases h
      | cons type rest =>
        simp only [List.cons_append] at h ⊢
        split at h
        · cases h
          rfl
        · next n hn =>
          split at h
          · cases h
          · next hcomplete =>
            cases h
            have hlen := escapedLength_append more (Nat.le_of_not_lt hcomplete)
            simp only [List.cons_append] at hlen
            rw [hlen, if_neg (by simp at hcomplete ⊢; omega)]
            have hle := Nat.le_of_not_lt hcomplete
            rw [← List.cons_append, List.take_append_of_le_length hle,
              List.drop_append_of_le_length hle]

theorem beastNext_shrinks {bodyLength : Byte → Option Nat} {data left : List Byte}
    {calls : List (List Byte)} (h : beastNext bodyLength data = some (calls, left)) :
    left.length < data.length := by
  cases data with
  | nil => cases h
  | cons start data =>
    simp only [beastNext] at h
    split at h
    · split at h <;> cases h
      simp
    · split at h
      · cases h
      · split at h
        · cases h
          simp
        · split at h <;> cases h
          simp only [List.length_drop, List.length_cons]
          omega

def beastFramer (bodyLength : Byte → Option Nat) : Framer Byte (List Byte) :=
  ⟨beastNext bodyLength, beastNext_stable, beastNext_shrinks⟩

/-- Garbage up to an escape byte is skipped. -/
theorem scan_dropWhile (bodyLength : Byte → Option Nat) {data : List Byte}
    (h : data.dropWhile (· ≠ escapeByte) ≠ []) :
    (beastFramer bodyLength).scan data =
      (beastFramer bodyLength).scan (data.dropWhile (· ≠ escapeByte)) := by
  induction data with
  | nil => rfl
  | cons start data ih =>
    by_cases hstart : start = escapeByte
    · rw [List.dropWhile_cons_of_neg (by simpa using hstart)]
    · rw [List.dropWhile_cons_of_pos (by simpa using hstart)] at h ⊢
      have hmem : escapeByte ∈ data := by
        by_contra hmem
        refine h (List.dropWhile_eq_nil_iff.mpr fun ch hch => ?_)
        exact decide_eq_true fun heq => hmem (heq ▸ hch)
      have hnext : (beastFramer bodyLength).next (start :: data) = some ([], data) := by
        simp [beastFramer, beastNext, hstart, hmem]
      rw [(beastFramer bodyLength).scan_of_some hnext, ih h, List.nil_append]

theorem head_dropWhile {data rest : List Byte} {start : Byte}
    (h : data.dropWhile (· ≠ escapeByte) = start :: rest) : start = escapeByte := by
  have := List.head?_dropWhile_not (· ≠ escapeByte) data
  rw [h] at this
  simpa using this

/-- The loop is the framer's scan. -/
theorem scanBeast_eq (bodyLength : Byte → Option Nat) (data : List Byte) :
    scanBeast bodyLength data = (beastFramer bodyLength).scan data := by
  fun_induction scanBeast bodyLength data with
  | case1 data h =>
    have hnone : (beastFramer bodyLength).next data = none := by
      cases data with
      | nil => rfl
      | cons start data =>
        have hall := List.dropWhile_eq_nil_iff.mp h
        have hstart : start ≠ escapeByte := by simpa using hall start (by simp)
        have hmem : escapeByte ∉ data := fun hmem => by
          simpa using hall escapeByte (List.mem_cons_of_mem _ hmem)
        simp [beastFramer, beastNext, hstart, hmem]
    rw [(beastFramer bodyLength).scan_of_none hnone]
  | case2 data start h =>
    obtain rfl := head_dropWhile h
    rw [scan_dropWhile bodyLength (by rw [h]; simp), h]
    exact ((beastFramer bodyLength).scan_of_none (by simp [beastFramer, beastNext])).symm
  | case3 data start type rest h hbody ih =>
    obtain rfl := head_dropWhile h
    have hnext : (beastFramer bodyLength).next (escapeByte :: type :: rest) =
        some ([], type :: rest) := by
      simp [beastFramer, beastNext, hbody]
    rw [scan_dropWhile bodyLength (by rw [h]; simp), h,
      (beastFramer bodyLength).scan_of_some hnext, ih, List.nil_append]
  | case4 data start type rest h n hbody eom hincomplete =>
    obtain rfl := head_dropWhile h
    have hnext : (beastFramer bodyLength).next (escapeByte :: type :: rest) = none := by
      simp only [beastFramer, beastNext, ne_eq, not_true, if_false, hbody]
      rw [if_pos hincomplete]
    rw [scan_dropWhile bodyLength (by rw [h]; simp), h,
      (beastFramer bodyLength).scan_of_none hnext]
  | case5 data start type rest h n hbody eom hcomplete calls left hrest ih =>
    obtain rfl := head_dropWhile h
    have hnext : (beastFramer bodyLength).next (escapeByte :: type :: rest) =
        some ([(type :: rest).take eom], (type :: rest).drop eom) := by
      simp only [beastFramer, beastNext, ne_eq, not_true, if_false, hbody]
      rw [if_neg hcomplete]
    rw [scan_dropWhile bodyLength (by rw [h]; simp), h,
      (beastFramer bodyLength).scan_of_some hnext, ← ih, hrest]
    rfl

/-! ### The ASCII scanner -/

theorem strstr_append {sep : Byte} {data : List Byte} {p : Nat} (more : List Byte)
    (h : strstr sep data = some p) : strstr sep (data ++ more) = some p := by
  induction data generalizing p with
  | nil => cases h
  | cons ch rest ih =>
    simp only [strstr, List.cons_append] at h ⊢
    split at h
    · cases h
    · next hnul =>
      rw [if_neg hnul]
      split at h
      · next hsep => rw [if_pos hsep, h]
      · next hsep =>
        obtain ⟨q, hq, rfl⟩ := Option.map_eq_some_iff.mp h
        rw [if_neg hsep, ih hq]
        rfl

/-- One decision of the ASCII scanner. -/
def asciiNext (sep : Byte) (data : List Byte) : Option (List (List Byte) × List Byte) :=
  (strstr sep data).map fun p => ([data.take p], data.drop (p + 1))

def asciiFramer (sep : Byte) : Framer Byte (List Byte) where
  next := asciiNext sep
  stable := by
    intro data calls left more h
    obtain ⟨p, hp, heq⟩ := Option.map_eq_some_iff.mp h
    obtain ⟨rfl, rfl⟩ := Prod.mk.inj heq
    have hlt := strstr_lt hp
    rw [asciiNext, strstr_append more hp, Option.map_some,
      List.take_append_of_le_length (Nat.le_of_lt hlt), List.drop_append_of_le_length hlt]
  shrinks := by
    intro data calls left h
    obtain ⟨p, hp, heq⟩ := Option.map_eq_some_iff.mp h
    obtain ⟨-, rfl⟩ := Prod.mk.inj heq
    have hlt := strstr_lt hp
    rw [List.length_drop]
    omega

theorem scanAscii_eq (sep : Byte) (data : List Byte) :
    scanAscii sep data = (asciiFramer sep).scan data := by
  fun_induction scanAscii sep data with
  | case1 data h =>
    have hnone : (asciiFramer sep).next data = none := by simp [asciiFramer, asciiNext, h]
    rw [(asciiFramer sep).scan_of_none hnone]
  | case2 data p h calls left hrest ih =>
    have hnext : (asciiFramer sep).next data = some ([data.take p], data.drop (p + 1)) := by
      simp [asciiFramer, asciiNext, h]
    rw [(asciiFramer sep).scan_of_some hnext, ← ih, hrest]
    rfl

/-! ### The read loop -/

/-- The piece of the stream that a result of `read` carries; `none` ends the
connection. -/
def ReadResult.piece : ReadResult → Option (List Byte)
  | .data bytes => some bytes
  | .again => some []
  | .eof | .error => none

/-- The framer of a read mode, for the modes that have messages. -/
def framerOf : ReadMode → Option (Framer Byte (List Byte))
  | .ignore => none
  | .beast => some (beastFramer beastLength)
  | .beastCommand => some (beastFramer commandLength)
  | .ascii sep => some (asciiFramer sep)

theorem scan_eq {mode : ReadMode} {F : Framer Byte (List Byte)} (h : framerOf mode = some F)
    (data : List Byte) : scan mode data = F.scan data := by
  cases mode with
  | ignore => cases h
  | beast => cases h; exact scanBeast_eq _ _
  | beastCommand => cases h; exact scanBeast_eq _ _
  | ascii sep => cases h; exact scanAscii_eq _ _

theorem keepBuffer_eq (buf : List Byte) : keepBuffer buf = buf ∨
    (keepBuffer buf = [] ∧ clientBufSize ≤ buf.length + 1) := by
  unfold keepBuffer
  split
  · next h => exact .inr ⟨rfl, h⟩
  · exact .inl rfl

theorem next_keepBuffer {F : Framer Byte (List Byte)} {buf : List Byte} (hbuf : F.next buf = none) :
    F.next (keepBuffer buf) = none := by
  rcases keepBuffer_eq buf with h | ⟨h, -⟩ <;> rw [h]
  · exact hbuf
  · exact F.next_nil

section Poll
variable {mode : ReadMode} {F : Framer Byte (List Byte)} (hmode : framerOf mode = some F)
include hmode

/-- A call of `modesReadFromClient` reads the first of the pieces to come, and
perhaps more of them. -/
theorem modesReadFromClient_reads (results : List ReadResult) {pieces : List (List Byte)}
    (hopen : results.map ReadResult.piece = pieces.map some) (buf : List Byte)
    (hbuf : F.next buf = none) :
    ∃ used left, pieces = used ++ left ∧
      (modesReadFromClient mode buf results).results.map ReadResult.piece = left.map some ∧
      (modesReadFromClient mode buf results).closed = false ∧
      F.next (modesReadFromClient mode buf results).buf = none ∧
      F.read keepBuffer buf used =
        ((modesReadFromClient mode buf results).calls, (modesReadFromClient mode buf results).buf) := by
  induction results generalizing buf pieces with
  | nil =>
    obtain rfl : pieces = [] := by simpa using hopen.symm
    exact ⟨[], [], rfl, rfl, rfl, hbuf, rfl⟩
  | cons result results ih =>
    cases pieces with
    | nil => simp at hopen
    | cons piece pieces =>
      obtain ⟨hpiece, hrest⟩ := List.cons.inj hopen
      cases result with
      | eof | error => simp [ReadResult.piece] at hpiece
      | again =>
        obtain rfl : [] = piece := by simpa [ReadResult.piece] using hpiece
        refine ⟨[[]], pieces, rfl, hrest, rfl, next_keepBuffer hbuf, ?_⟩
        simp [Framer.read, F.scan_of_none (next_keepBuffer hbuf), modesReadFromClient]
      | data bytes =>
        obtain rfl : bytes = piece := by simpa [ReadResult.piece] using hpiece
        have hscan := scan_eq hmode (keepBuffer buf ++ bytes)
        simp only [modesReadFromClient, readRound, hscan]
        split
        · obtain ⟨used, left, rfl, hleft, hclosed, hnext, hread⟩ := ih hrest
            (F.scan (keepBuffer buf ++ bytes)).2 (F.next_scan _)
          refine ⟨bytes :: used, left, rfl, hleft, hclosed, hnext, ?_⟩
          simp only [Framer.read, hread]
        · refine ⟨[bytes], pieces, rfl, hrest, rfl, F.next_scan _, ?_⟩
          simp only [Framer.read, List.append_nil]

/-- Polling a client until there is nothing more to read makes the calls of the
framer that reads the pieces one after the other. -/
theorem pollClient_calls (results : List ReadResult) {pieces : List (List Byte)}
    (hopen : results.map ReadResult.piece = pieces.map some) (buf : List Byte)
    (hbuf : F.next buf = none) : pollClient mode buf results = F.read keepBuffer buf pieces := by
  induction hlen : results.length using Nat.strongRecOn generalizing results pieces buf with
  | _ n ih =>
    cases results with
    | nil =>
      obtain rfl : pieces = [] := by simpa using hopen.symm
      rw [pollClient]
      rfl
    | cons result results =>
      obtain ⟨used, left, rfl, hleft, hclosed, hnext, hread⟩ :=
        modesReadFromClient_reads hmode (result :: results) hopen buf hbuf
      have hshorter := modesReadFromClient_results mode buf (result :: results)
      have hlen' : (modesReadFromClient mode buf (result :: results)).results.length < n := by
        rw [List.length_cons] at hlen hshorter
        omega
      rw [pollClient, hclosed, F.read_append, hread, ih _ hlen' _ hleft _ hnext rfl]
      rfl

end Poll

end RbFeeder.Net
