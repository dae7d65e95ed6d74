import RbFeeder.ModeS.Message

/-! The Beast binary format: `writeBeastMessage` and `decodeBinMessage` of `net_io.c`.

A frame is the byte 0x1A, a type character, a timestamp of six bytes, a signal
level of one byte and the message. In everything after the type, a byte 0x1A is
written twice. A `char *` is modelled by the bytes from where it points on. -/
namespace RbFeeder.Net
open ModeS (Byte)

/-- `MODEAC_MSG_BYTES`. -/
def modeacMsgBytes : Nat := 2

/-- The byte that starts a frame and is doubled inside it. -/
def escapeByte : Byte := 0x1A

/-! ### Writing -/

/-- `*p++ = ch; if (0x1A == ch) *p++ = ch;`, for each byte. -/
def escapeBytes (bytes : List Byte) : List Byte :=
  bytes.flatMap fun ch => if ch = escapeByte then [ch, ch] else [ch]

/-- A signal level as `writeBeastMessage` sees it: whether it is positive, and
`round(sqrt(signalLevel) * 255)`. -/
structure SignalLevel where
  positive : Bool
  rounded : Int
deriving DecidableEq

/-- `sig`, clamped and cut to a byte. -/
def SignalLevel.sig (level : SignalLevel) : Byte :=
  let sig := level.rounded
  let sig := if level.positive ∧ sig < 1 then 1 else sig
  let sig := if sig > 255 then 255 else sig
  BitVec.ofInt 8 sig

/-- The type character for a message of this length; there is none for others. -/
def beastType (msgLen : Nat) : Option Byte :=
  if msgLen = ModeS.shortMsgBytes then some 0x32
  else if msgLen = ModeS.longMsgBytes then some 0x33
  else if msgLen = modeacMsgBytes then some 0x31
  else none

/-- The six bytes `timestamp >> 40` to `timestamp`. -/
def timestampBytes (timestamp : BitVec 64) : List Byte :=
  [40, 32, 24, 16, 8, 0].map fun shift => (timestamp >>> shift).setWidth 8

/-- What `writeBeastMessage` puts between `prepareWrite` and `completeWrite`;
`none` if it returns without completing the write. -/
def writeBeastMessage (timestamp : BitVec 64) (signalLevel : SignalLevel) (msg : List Byte) :
    Option (List Byte) :=
  (beastType msg.length).map fun type =>
    escapeByte :: type :: escapeBytes (timestampBytes timestamp ++ [signalLevel.sig] ++ msg)

/-- The length that `writeBeastMessage` reserves. -/
def beastReserve (msgLen : Nat) : Nat := 2 + 2 * (7 + msgLen)

/-! ### Reading -/

/-- `ch = *p++; if (0x1A == ch) p++;`: the byte and where `p` is then. -/
def readByte (p : List Byte) : Byte × List Byte :=
  let ch := p.headD 0
  (ch, if ch = escapeByte then p.drop 2 else p.drop 1)

def readBytes : Nat → List Byte → List Byte × List Byte
  | 0, p => ([], p)
  | n + 1, p =>
    let (ch, p) := readByte p
    let (rest, p) := readBytes n p
    (ch :: rest, p)

/-- What `decodeBinMessage` reads from the buffer: a Mode A/C or Mode S message
with its timestamp and signal byte, or the 21 bytes of a receiver position. -/
inductive BinMessage
  | modeAC (timestampMsg : BitVec 64) (signal : Byte) (msg : List Byte)
  | modeS (timestampMsg : BitVec 64) (signal : Byte) (msg : List Byte)
  | position (msg : List Byte)
  | ignored
deriving DecidableEq

/-- `mm.timestampMsg << 8 | (ch & 255)`, over six bytes. -/
def readTimestamp (bytes : List Byte) : BitVec 64 :=
  bytes.foldl (fun timestamp ch => timestamp <<< 8 ||| ch.setWidth 64) 0#64

/-- The timestamp, the signal byte and `msgLen` bytes of message, from `p` on. -/
def readFields (msgLen : Nat) (p : List Byte) : BitVec 64 × Byte × List Byte :=
  let timestamp := readBytes 6 p
  let signal := readByte timestamp.2
  let msg := readBytes msgLen signal.2
  (readTimestamp timestamp.1, signal.1, msg.1)

/-- The fields of `decodeBinMessage(c, p)`, up to the call of a decoder. What
happens to a Mode S message then is `ModeS.remoteMessage`. -/
def decodeBinMessage (mode_ac : Bool) (p : List Byte) : BinMessage :=
  let ch := p.headD 0
  let p := p.drop 1
  let message := fun (msgLen : Nat) =>
    let fields := readFields msgLen p
    if msgLen = modeacMsgBytes then BinMessage.modeAC fields.1 fields.2.1 fields.2.2
    else .modeS fields.1 fields.2.1 fields.2.2
  if ch = 0x31 ∧ mode_ac then message modeacMsgBytes
  else if ch = 0x32 then message ModeS.shortMsgBytes
  else if ch = 0x33 then message ModeS.longMsgBytes
  else if ch = 0x35 then .position (readBytes 21 p).1
  else .ignored

/-! ### The round trip of one frame -/

@[simp] theorem escapeBytes_nil : escapeBytes [] = [] := rfl

@[simp] theorem escapeBytes_cons (ch : Byte) (bytes : List Byte) :
    escapeBytes (ch :: bytes) =
      (if ch = escapeByte then [ch, ch] else [ch]) ++ escapeBytes bytes := rfl

@[simp] theorem escapeBytes_append (a b : List Byte) :
    escapeBytes (a ++ b) = escapeBytes a ++ escapeBytes b := by
  simp [escapeBytes]

theorem readByte_escape (ch : Byte) (p : List Byte) :
    readByte ((if ch = escapeByte then [ch, ch] else [ch]) ++ p) = (ch, p) := by
  by_cases h : ch = escapeByte <;> simp [readByte, h]

/-- Reading undoes escaping, and reads no further. -/
theorem readBytes_escapeBytes (bytes p : List Byte) :
    readBytes bytes.length (escapeBytes bytes ++ p) = (bytes, p) := by
  induction bytes with
  | nil => rfl
  | cons ch bytes ih =>
    rw [escapeBytes_cons, List.append_assoc, List.length_cons, readBytes, readByte_escape]
    simp only [ih]

theorem length_escapeBytes (bytes : List Byte) : (escapeBytes bytes).length ≤ 2 * bytes.length := by
  induction bytes with
  | nil => simp
  | cons ch bytes ih =>
    rw [escapeBytes_cons, List.length_append, List.length_cons]
    split <;> simp only [List.length_cons, List.length_nil] <;> omega

/-- One byte of the fold: the bits above it, moved up, and the byte itself. -/
theorem shift_byte (timestamp : BitVec 64) (k : Nat) :
    (timestamp >>> (k + 8)) <<< 8 ||| ((timestamp >>> k).setWidth 8).setWidth 64 =
      timestamp >>> k := by
  apply BitVec.eq_of_getLsbD_eq
  intro i hi
  simp only [BitVec.getLsbD_or, BitVec.getLsbD_shiftLeft, BitVec.getLsbD_setWidth,
    BitVec.getLsbD_ushiftRight, hi, decide_true, Bool.true_and]
  by_cases hlow : i < 8
  · simp [hlow]
  · have hk : k + 8 + (i - 8) = k + i := by omega
    simp [hlow, hk]

/-- Six bytes of a timestamp are its low 48 bits. -/
theorem readTimestamp_bytes (timestamp : BitVec 48) :
    readTimestamp (timestampBytes (timestamp.setWidth 64)) = timestamp.setWidth 64 := by
  have htop : timestamp.setWidth 64 >>> 48 = 0#64 := by
    apply BitVec.eq_of_getLsbD_eq
    intro i hi
    simp
  -- The fold starts from the bits above the six bytes, which are zero.
  have hstart : readTimestamp (timestampBytes (timestamp.setWidth 64)) =
      (timestampBytes (timestamp.setWidth 64)).foldl
        (fun (stamp : BitVec 64) (ch : Byte) => stamp <<< 8 ||| ch.setWidth 64)
        (timestamp.setWidth 64 >>> 48) := by
    rw [htop, readTimestamp]
  rw [hstart]
  simp only [timestampBytes, List.map_cons, List.map_nil, List.foldl_cons, List.foldl_nil]
  rw [shift_byte _ 40, shift_byte _ 32, shift_byte _ 24, shift_byte _ 16, shift_byte _ 8,
    shift_byte _ 0, BitVec.ushiftRight_zero]

/-- A message as one side of a connection hands it to `writeBeastMessage`. -/
structure BeastMessage where
  timestamp : BitVec 48
  signal : SignalLevel
  msg : List Byte
  length_msg : msg.length = modeacMsgBytes ∨ msg.length = ModeS.shortMsgBytes ∨
    msg.length = ModeS.longMsgBytes

namespace BeastMessage

/-- The type character of the message's length. -/
def type (m : BeastMessage) : Byte :=
  if m.msg.length = ModeS.shortMsgBytes then 0x32
  else if m.msg.length = ModeS.longMsgBytes then 0x33 else 0x31

/-- The bytes between the type and the end of the frame, unescaped. -/
def payload (m : BeastMessage) : List Byte :=
  timestampBytes (m.timestamp.setWidth 64) ++ [m.signal.sig] ++ m.msg

/-- The frame without its first byte: what the read handler gets. -/
def body (m : BeastMessage) : List Byte := m.type :: escapeBytes m.payload

def frame (m : BeastMessage) : List Byte := escapeByte :: m.body

@[simp] theorem length_payload (m : BeastMessage) : m.payload.length = 7 + m.msg.length := by
  simp [payload, timestampBytes]
  omega

theorem writeBeastMessage_eq (m : BeastMessage) :
    writeBeastMessage (m.timestamp.setWidth 64) m.signal m.msg = some m.frame := by
  have htype : beastType m.msg.length = some m.type := by
    rcases m.length_msg with h | h | h <;> simp only [beastType, type, h] <;> rfl
  rw [writeBeastMessage, htype]
  rfl

/-- A frame fits what `writeBeastMessage` reserves for it. -/
theorem length_frame (m : BeastMessage) : m.frame.length ≤ beastReserve m.msg.length := by
  have := length_escapeBytes m.payload
  rw [length_payload] at this
  simp only [frame, body, beastReserve, List.length_cons]
  omega

/-- What the other side is to make of the frame. A receiver without Mode A/C looks
at no other field of a Mode A/C frame than its type. -/
def received (mode_ac : Bool) (m : BeastMessage) : BinMessage :=
  if m.msg.length ≠ modeacMsgBytes then .modeS (m.timestamp.setWidth 64) m.signal.sig m.msg
  else if mode_ac then .modeAC (m.timestamp.setWidth 64) m.signal.sig m.msg
  else .ignored

theorem readFields_payload (m : BeastMessage) (rest : List Byte) :
    readFields m.msg.length (escapeBytes m.payload ++ rest) =
      (m.timestamp.setWidth 64, m.signal.sig, m.msg) := by
  have hstamp := readBytes_escapeBytes (timestampBytes (m.timestamp.setWidth 64))
    (escapeBytes (m.signal.sig :: m.msg) ++ rest)
  have hlen : (timestampBytes (m.timestamp.setWidth 64)).length = 6 := by
    simp [timestampBytes]
  rw [hlen] at hstamp
  rw [readFields, payload, List.append_assoc, escapeBytes_append, List.append_assoc,
    List.singleton_append, hstamp, escapeBytes_cons, List.append_assoc, readByte_escape,
    readBytes_escapeBytes, readTimestamp_bytes]

/-- `decodeBinMessage` undoes `writeBeastMessage`, whatever follows the frame. -/
theorem decodeBinMessage_body (mode_ac : Bool) (m : BeastMessage) (rest : List Byte) :
    decodeBinMessage mode_ac (m.body ++ rest) = m.received mode_ac := by
  have hfields := m.readFields_payload rest
  rw [body, List.cons_append]
  simp only [decodeBinMessage, List.headD_cons, List.drop_succ_cons, List.drop_zero]
  rcases m.length_msg with h | h | h <;> rw [h] at hfields <;> rw [received, h]
  · have htype : m.type = 0x31 := by rw [type, h]; rfl
    rw [htype]
    cases mode_ac
    · rfl
    · simp [hfields]
  · have htype : m.type = 0x32 := by rw [type, h]; rfl
    rw [htype, hfields]
    rfl
  · have htype : m.type = 0x33 := by rw [type, h]; rfl
    rw [htype, hfields]
    rfl

end BeastMessage

end RbFeeder.Net
