import RbFeeder.Net.Beast

/-! Reading from a network client: `modesReadFromClient` of `net_io.c`.

The client's buffer is the list of its `buflen` bytes. After each `read` a scanner,
chosen by the service's read mode, finds the complete messages in the buffer; what
is left moves to the front. A scanner is given here by the messages it passes to
the read handler, each as the bytes between the handler's pointer and the end of
the message, and by what it leaves. -/
namespace RbFeeder.Net
open ModeS (Byte)

/-- `read_mode_t`; the separator of the ASCII mode is one character. -/
inductive ReadMode
  | ignore
  | beast
  | beastCommand
  | ascii (sep : Byte)
deriving DecidableEq

/-- The separator of the ASCII services, `"\n"`. -/
def newline : Byte := 10

/-! ### The scanners -/

/-- The loop over escapes: `p` and `eom` are the bytes from `p` on and the distance
from `p` to `eom`; the result is the distance from the first `p` to the final `eom`. -/
def escapedLength : List Byte → Nat → Nat
  | _, 0 => 0
  | [], n => n
  | ch :: rest, n + 1 =>
    -- p++ and eom++, then the p++ of the loop
    if ch = escapeByte then 2 + escapedLength (rest.drop 1) n
    else 1 + escapedLength rest n

/-- `eom - p` at the type character of a Beast message. -/
def beastLength (type : Byte) : Option Nat :=
  if type = 0x31 then some (modeacMsgBytes + 8)
  else if type = 0x32 then some (ModeS.shortMsgBytes + 8)
  else if type = 0x33 then some (ModeS.longMsgBytes + 8)
  else if type = 0x34 then some (ModeS.longMsgBytes + 8)
  else if type = 0x35 then some (ModeS.longMsgBytes + 8)
  else none

/-- `eom - p` at the type character of a Beast command. -/
def commandLength (type : Byte) : Option Nat := if type = 0x31 then some 2 else none

/-- The loop of the two Beast modes. The buffer is given from `som` on. -/
def scanBeast (bodyLength : Byte → Option Nat) (data : List Byte) : List (List Byte) × List Byte :=
  match _h : data.dropWhile (· ≠ escapeByte) with
  | [] => ([], data)
  | [start] => ([], [start])
  | start :: type :: rest =>
    match bodyLength type with
    | none => scanBeast bodyLength (type :: rest)
    | some n =>
      let eom := escapedLength (type :: rest) n
      if eom > (type :: rest).length then ([], start :: type :: rest)
      else
        let (calls, left) := scanBeast bodyLength ((type :: rest).drop eom)
        ((type :: rest).take eom :: calls, left)
termination_by data.length
decreasing_by all_goals
  have hle := (List.dropWhile_suffix (l := data) (· ≠ escapeByte)).length_le
  simp_all only [List.length_cons, List.length_drop]
  omega

/-- `strstr(som, sep)`, as the distance to the separator. -/
def strstr (sep : Byte) : List Byte → Option Nat
  | [] => none
  | ch :: rest =>
    if ch = 0 then none
    else if ch = sep then some 0
    else (strstr sep rest).map (· + 1)

theorem strstr_lt {sep : Byte} {data : List Byte} {p : Nat} (h : strstr sep data = some p) :
    p < data.length := by
  induction data generalizing p with
  | nil => cases h
  | cons ch rest ih =>
    simp only [strstr] at h
    split at h
    · cases h
    · split at h
      · cases h
        simp
      · obtain ⟨q, hq, rfl⟩ := Option.map_eq_some_iff.mp h
        simpa using ih hq

/-- The loop of the ASCII mode. -/
def scanAscii (sep : Byte) (data : List Byte) : List (List Byte) × List Byte :=
  match _h : strstr sep data with
  | none => ([], data)
  | some p =>
    let (calls, left) := scanAscii sep (data.drop (p + 1))
    (data.take p :: calls, left)
termination_by data.length
decreasing_by
  have := strstr_lt _h
  rw [List.length_drop]
  omega

/-- The `switch` over the read mode. -/
def scan : ReadMode → List Byte → List (List Byte) × List Byte
  | .ignore, _ => ([], [])
  | .beast, data => scanBeast beastLength data
  | .beastCommand, data => scanBeast commandLength data
  | .ascii sep, data => scanAscii sep data

/-! ### The read loop -/

/-- `MODES_CLIENT_BUF_SIZE`. -/
def clientBufSize : Nat := 1024

/-- The buffer when `read` is called: a full one has been discarded. -/
def keepBuffer (buf : List Byte) : List Byte := if clientBufSize ≤ buf.length + 1 then [] else buf

/-- `left`, the number of bytes that `read` is asked for. -/
def requested (buf : List Byte) : Nat :=
  if clientBufSize ≤ buf.length + 1 then clientBufSize else clientBufSize - buf.length - 1

/-- What a call of `read` returns. -/
inductive ReadResult
  | data (bytes : List Byte)
  | eof
  /-- `EAGAIN` or `EWOULDBLOCK`. -/
  | again
  | error
deriving DecidableEq

/-- One round of the read loop after `read` returned bytes: the handler's calls,
the buffer, and whether the loop goes on. -/
def readRound (mode : ReadMode) (buf bytes : List Byte) : List (List Byte) × List Byte × Bool :=
  let data := keepBuffer buf ++ bytes
  let (calls, left) := scan mode data
  (calls, left, left.length < data.length ∧ bytes.length = requested buf)

/-- What a call of `modesReadFromClient` did, and the results of `read` it left. -/
structure ReadOutcome where
  calls : List (List Byte)
  buf : List Byte
  closed : Bool
  results : List ReadResult

/-- `modesReadFromClient(c)` for a client whose handler returns 0 and leaves the
service as it is. The list holds the results of `read` that are to come. -/
def modesReadFromClient (mode : ReadMode) (buf : List Byte) : List ReadResult → ReadOutcome
  | [] => ⟨[], buf, false, []⟩
  | .eof :: results | .error :: results => ⟨[], keepBuffer buf, true, results⟩
  | .again :: results => ⟨[], keepBuffer buf, false, results⟩
  | .data bytes :: results =>
    let (calls, left, more) := readRound mode buf bytes
    if more then
      let next := modesReadFromClient mode left results
      { next with calls := calls ++ next.calls }
    else ⟨calls, left, false, results⟩

theorem modesReadFromClient_results (mode : ReadMode) (buf : List Byte) (results : List ReadResult) :
    (modesReadFromClient mode buf results).results.length ≤ results.length - 1 := by
  induction results generalizing buf with
  | nil => simp [modesReadFromClient]
  | cons result results ih =>
    cases result with
    | data bytes =>
      simp only [modesReadFromClient]
      split
      · exact (ih _).trans (by simp)
      · simp
    | _ => simp [modesReadFromClient]

/-- The client is polled until every result of `read` is used up or it is closed. -/
def pollClient (mode : ReadMode) (buf : List Byte) (results : List ReadResult) :
    List (List Byte) × List Byte :=
  match results with
  | [] => ([], buf)
  | result :: results =>
    let outcome := modesReadFromClient mode buf (result :: results)
    if outcome.closed then (outcome.calls, outcome.buf)
    else
      let (calls, buf) := pollClient mode outcome.buf outcome.results
      (outcome.calls ++ calls, buf)
termination_by results.length
decreasing_by
  have := modesReadFromClient_results mode buf (result :: results)
  simp only [List.length_cons] at *
  omega

end RbFeeder.Net
