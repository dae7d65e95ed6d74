import Mathlib

/-! Message buffers, as the C code holds them.

A Mode S message lives in an `unsigned char` array: 7 bytes for the short
downlink formats, 14 for the long ones, bit 1 being the most significant bit of
the first byte. `getbit`/`getbits` are the extraction macros of `mode_s.h`;
`flipBit` is the assignment `msg[bit >> 3] ^= 1 << (7 - (bit & 7))` by which
`crc.c` builds single-bit errors and applies corrections. -/
namespace RbFeeder.ModeS

abbrev Byte := BitVec 8

/-- For membership in an array. -/
instance instLawfulBEqByte : LawfulBEq Byte := inferInstance

/-- `MODES_SHORT_MSG_BYTES`. -/
def shortMsgBytes : Nat := 7
/-- `MODES_LONG_MSG_BYTES`. -/
def longMsgBytes : Nat := 14
/-- `MODES_SHORT_MSG_BITS`. -/
def shortMsgBits : Nat := 56
/-- `MODES_LONG_MSG_BITS`. -/
def longMsgBits : Nat := 112

/-- `unsigned char [MODES_LONG_MSG_BYTES]`. -/
structure Buffer where
  bytes : List Byte
  length_bytes : bytes.length = 14
deriving DecidableEq

attribute [simp] Buffer.length_bytes

@[ext] theorem Buffer.ext {a b : Buffer} (h : a.bytes = b.bytes) : a = b := by
  cases a
  cases b
  simpa using h

/-- `memset(msg, 0, sizeof(msg))`. -/
def Buffer.zero : Buffer := ⟨List.replicate 14 0, by simp⟩

/-- `memcpy(dst, src, n)`. -/
def Buffer.memcpy (dst src : Buffer) (n : Nat) : Buffer :=
  ⟨src.bytes.take n ++ dst.bytes.drop n, by simp; omega⟩

/-! ### Bits -/

def byteAt (data : List Byte) (i : Nat) : Byte := data.getD i 0

/-- `getbit(data, bitnum)`; bits are numbered from 1. -/
def getbit (data : List Byte) (bitnum : Nat) : BitVec 32 :=
  let bi := bitnum - 1
  let by' := bi >>> 3
  let mask := 1#32 <<< (7 - (bi &&& 7))
  if (byteAt data by').setWidth 32 &&& mask ≠ 0 then 1 else 0

/-- `getbits(data, firstbit, lastbit)`, up to 32 bits spanning at most 5 bytes. -/
def getbits (data : List Byte) (firstbit lastbit : Nat) : BitVec 32 :=
  let fbi := firstbit - 1
  let lbi := lastbit - 1
  let fby := fbi >>> 3
  let lby := lbi >>> 3
  let nby := (lby - fby) + 1
  let shift := 7 - (lbi &&& 7)
  let topmask : BitVec 32 := 0xFF >>> (fbi &&& 7)
  let byte := fun k => (byteAt data (fby + k)).setWidth 32
  if nby = 5 then
    ((byte 0 &&& topmask) <<< (32 - shift)) ||| (byte 1 <<< (24 - shift)) |||
      (byte 2 <<< (16 - shift)) ||| (byte 3 <<< (8 - shift)) ||| (byte 4 >>> shift)
  else if nby = 4 then
    ((byte 0 &&& topmask) <<< (24 - shift)) ||| (byte 1 <<< (16 - shift)) |||
      (byte 2 <<< (8 - shift)) ||| (byte 3 >>> shift)
  else if nby = 3 then
    ((byte 0 &&& topmask) <<< (16 - shift)) ||| (byte 1 <<< (8 - shift)) ||| (byte 2 >>> shift)
  else if nby = 2 then
    ((byte 0 &&& topmask) <<< (8 - shift)) ||| (byte 1 >>> shift)
  else if nby = 1 then
    (byte 0 &&& topmask) >>> shift
  else 0

/-- Bit `i` of a message, counted from 0 at the most significant bit of byte 0. -/
def bitAt (msg : List Byte) (i : Nat) : Bool := (byteAt msg (i / 8)).getLsbD (7 - i % 8)

/-- `msg[bit >> 3] ^= 1 << (7 - (bit & 7))`. -/
def flipBit (msg : List Byte) (bit : Nat) : List Byte :=
  msg.modify (bit >>> 3) (· ^^^ 1#8 <<< (7 - (bit &&& 7)))

@[simp] theorem length_flipBit (msg : List Byte) (bit : Nat) :
    (flipBit msg bit).length = msg.length := by
  simp [flipBit]

theorem and_seven (n : Nat) : n &&& 7 = n % 8 := Nat.and_two_pow_sub_one_eq_mod n 3

theorem byteAt_flipBit (msg : List Byte) (bit i : Nat) (h : bit < 8 * msg.length) :
    byteAt (flipBit msg bit) i =
      if i = bit / 8 then byteAt msg i ^^^ 1#8 <<< (7 - bit % 8) else byteAt msg i := by
  simp only [byteAt, flipBit, List.getD_eq_getElem?_getD, List.getElem?_modify, and_seven,
    show bit >>> 3 = bit / 8 from Nat.shiftRight_eq_div_pow bit 3]
  by_cases hi : i = bit / 8
  · subst hi
    have hlt : bit / 8 < msg.length := by omega
    simp [hlt]
  · have hi' : ¬ bit / 8 = i := fun he => hi he.symm
    simp [hi, hi']

/-- Flipping a bit changes that bit and no other. -/
theorem bitAt_flipBit (msg : List Byte) (bit i : Nat) (h : bit < 8 * msg.length) :
    bitAt (flipBit msg bit) i = (bitAt msg i ^^ decide (i = bit)) := by
  unfold bitAt
  rw [byteAt_flipBit msg bit _ h]
  by_cases hbyte : i / 8 = bit / 8
  · rw [if_pos hbyte, BitVec.getLsbD_xor]
    congr 1
    rw [← BitVec.twoPow_eq, BitVec.getLsbD_twoPow]
    have : (7 - bit % 8 = 7 - i % 8) ↔ i = bit := by omega
    simp [this]
    omega
  · rw [if_neg hbyte]
    have : i ≠ bit := fun he => hbyte (by rw [he])
    simp [this]

namespace Buffer

def flip (msg : Buffer) (bit : Nat) : Buffer := ⟨flipBit msg.bytes bit, by simp⟩

@[simp] theorem bytes_flip (msg : Buffer) (bit : Nat) : (msg.flip bit).bytes = flipBit msg.bytes bit := rfl

/-- An error pattern, applied. -/
def flips (msg : Buffer) (l : List Nat) : Buffer := l.foldl flip msg

@[simp] theorem flips_nil (msg : Buffer) : msg.flips [] = msg := rfl

@[simp] theorem flips_cons (msg : Buffer) (i : Nat) (l : List Nat) :
    msg.flips (i :: l) = (msg.flip i).flips l := rfl

theorem bitAt_flips (msg : Buffer) {l : List Nat} (hn : l.Nodup) (hl : ∀ i ∈ l, i < 112) (i : Nat) :
    bitAt (msg.flips l).bytes i = (bitAt msg.bytes i ^^ decide (i ∈ l)) := by
  induction l generalizing msg with
  | nil => simp
  | cons j l ih =>
    obtain ⟨hj, hn⟩ := List.nodup_cons.mp hn
    have hj112 := hl j (by simp)
    rw [flips_cons, ih _ hn fun k hk => hl k (by simp [hk]), bytes_flip,
      bitAt_flipBit _ _ _ (by simpa using hj112), Bool.xor_assoc]
    congr 1
    by_cases hij : i = j
    · subst hij
      simp [hj]
    · simp [hij]

end Buffer

end RbFeeder.ModeS
