import RbFeeder.ModeS.Score

/-! Decoding a message, and what its two callers make of the result.

`decodeModesMessage` scores a message that has no score yet, rejects it if the
score is low, corrects it and sets the fields that depend on the checksum. The
demodulator scores a message first and decodes it only if it is going to accept
it; the network handlers leave the scoring to the decoder and read its return
code. Both count what becomes of each message. -/
namespace RbFeeder.ModeS
open ScoreRank

/-- The fields of `struct modesMessage` that scoring, correction and checksum decide. -/
structure ModesMessage where
  score : ScoreRank
  verbatim : Buffer
  msg : Buffer
  msgtype : Nat
  msgbits : Nat
  crc : BitVec 32
  correctedbits : Nat
  IID : BitVec 32
deriving DecidableEq

/-- `static struct modesMessage zeroMessage`. -/
def zeroMessage : ModesMessage := ⟨SR_NOT_SET, Buffer.zero, Buffer.zero, 0, 0, 0, 0, 0⟩

/-- The `switch (mm->msgtype)` after the checksum; `none` is `return -2`. -/
def checksumFields (mm : ModesMessage) : Option ModesMessage :=
  match mm.msgtype with
  | 0 | 4 | 5 | 16 | 17 | 18 | 20 | 21 => some mm
  | 11 => some { mm with IID := mm.crc &&& 0x7f }
  | 24 | 25 | 26 | 27 | 28 | 29 | 30 | 31 => some { mm with msgtype := 24 }
  | _ => none

/-- The copies, the type and the checksum, from what `correctMessage` returned. -/
def ModesMessage.corrected (mm : ModesMessage) (inp : Buffer) (c : Corrected) : ModesMessage :=
  let df := downlinkFormat c.out
  { mm with
    verbatim := inp
    msg := c.out
    msgtype := df.toNat
    msgbits := modesMessageLenByType df
    crc := if df &&& 16 ≠ 0 then checkedSyndrome c.long_syndrome c.out longMsgBits
      else checkedSyndrome c.short_syndrome c.out shortMsgBits
    correctedbits := if c.result > 0 then c.result.toNat else 0 }

/-- `decodeModesMessage(mm, in)`: the return value and the message. The fields of
the single formats are left out; decoding them changes none of these and always
ends in `return 0`. `garbage` is what `scoreModesMessage` finds in its buffer. -/
def decodeModesMessage (modes : Modes) (tables : ErrorTables) (filter : IcaoFilter)
    (garbage : Buffer) (mm : ModesMessage) (inp : Buffer) : Int × ModesMessage :=
  let score := if mm.score = SR_NOT_SET
    then scoreModesMessage modes tables filter garbage inp else mm.score
  let mm := { mm with score := score }
  if score < SR_UNKNOWN_THRESHOLD then (-1, mm)
  else if score < SR_ACCEPT_THRESHOLD then (-2, mm)
  else
    let mm := mm.corrected inp (correctMessage modes tables inp mm.msg)
    match checksumFields mm with
    | some mm => (0, mm)
    | none => (-2, mm)

/-! ### The callers -/

/-- The counters of `Modes.stats_current` for single messages. -/
structure Stats where
  demod_rejected_bad : Nat
  demod_rejected_unknown_icao : Nat
  demod_accepted : Nat → Nat
  remote_received_modes : Nat
  remote_rejected_bad : Nat
  remote_rejected_unknown_icao : Nat
  remote_accepted : Nat → Nat

/-- `++counters[i]`. -/
def bump (counters : Nat → Nat) (i : Nat) : Nat → Nat :=
  fun j => if j = i then counters j + 1 else counters j

section Callers
variable (modes : Modes) (tables : ErrorTables) (filter : IcaoFilter) (garbage : Buffer)

/-- What `demodulate2400` does with its best candidate: the counters, and the
message if it is passed on. -/
def demodulateCandidate (stats : Stats) (bestscore : ScoreRank) (bestmsg : Buffer) :
    Stats × Option ModesMessage :=
  if bestscore < SR_ACCEPT_THRESHOLD then
    if ¬ bestscore < SR_UNKNOWN_THRESHOLD then
      ({ stats with demod_rejected_unknown_icao := stats.demod_rejected_unknown_icao + 1 }, none)
    else ({ stats with demod_rejected_bad := stats.demod_rejected_bad + 1 }, none)
  else
    let (result, mm) := decodeModesMessage modes tables filter garbage
      { zeroMessage with score := bestscore } bestmsg
    if result < 0 then
      ({ stats with demod_rejected_bad := stats.demod_rejected_bad + 1 }, none)
    else ({ stats with demod_accepted := bump stats.demod_accepted mm.correctedbits }, some mm)

/-- A single candidate, scored and then judged. -/
def demodulateMessage (stats : Stats) (msg : Buffer) : Stats × Option ModesMessage :=
  demodulateCandidate modes tables filter garbage stats
    (scoreModesMessage modes tables filter garbage msg) msg

/-- The end of `decodeBinMessage` and of both copies of `decodeHexMessage`, for a
Mode S message. -/
def remoteMessage (stats : Stats) (msg : Buffer) : Stats × Option ModesMessage :=
  let stats := { stats with remote_received_modes := stats.remote_received_modes + 1 }
  let (result, mm) := decodeModesMessage modes tables filter garbage zeroMessage msg
  if result < 0 then
    if result = -1 then
      ({ stats with remote_rejected_unknown_icao := stats.remote_rejected_unknown_icao + 1 }, none)
    else ({ stats with remote_rejected_bad := stats.remote_rejected_bad + 1 }, none)
  else ({ stats with remote_accepted := bump stats.remote_accepted mm.correctedbits }, some mm)

end Callers

end RbFeeder.ModeS
