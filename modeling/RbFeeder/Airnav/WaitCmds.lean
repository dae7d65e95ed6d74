import RbFeeder.ModeS.Message

/-! The receive loop of the server connection: `net_thread_WaitCmds` of `airnav_net.c`.

The thread takes one byte at a time. It looks for the start marker, then for a
big-endian length, and hands the bytes from the marker on to `proccess_packet` when
that many have arrived. The counter of garbage bytes is only ever logged and is left
out; a byte that was seen by the peek is the one that is read. -/
namespace RbFeeder.Airnav
open ModeS (Byte byteAt)

/-- `BUFFLEN`. -/
def bufflen : Nat := 4096

/-- `txstart`: the characters `~` and `#`. -/
def txstart : List Byte := [0x7e, 0x23]

/-- The variables of the loop. -/
structure Receiver where
  /-- The first `buf_idx` bytes of the buffer. The others are zero: whatever lowers
  `buf_idx` clears the buffer first. -/
  buf : List Byte
  packetSize : BitVec 16
  tempSize : BitVec 16
deriving DecidableEq

/-- The arguments of a call of `proccess_packet`. -/
structure Call where
  tmp : List Byte
  pSize : BitVec 16
deriving DecidableEq

/-- The two length characters, which are signed, as `temp_size`. -/
def wireSize (hi lo : Byte) : BitVec 16 :=
  (((hi.signExtend 16).setWidth 32 <<< 8) ||| (0x00ff &&& lo.signExtend 32)).setWidth 16

namespace Receiver

def empty : Receiver := { buf := [], packetSize := 0, tempSize := 0 }

def bufIdx (s : Receiver) : Nat := s.buf.length

/-- The fourth byte completes the length. One that is too small drops the bytes but
not the sizes. -/
def takeSize (s : Receiver) : Receiver :=
  if s.bufIdx = 4 then
    let tempSize := wireSize (byteAt s.buf 2) (byteAt s.buf 3)
    if tempSize ≤ 2 then { s with buf := [], tempSize := tempSize }
    else { s with packetSize := tempSize, tempSize := tempSize }
  else s

/-- Whether all data has been received. -/
def takePacket (s : Receiver) : Receiver × List Call :=
  if 6 < s.bufIdx ∧ s.packetSize.toNat = s.bufIdx - 4 then
    (empty, [{ tmp := s.buf.take (s.packetSize.toNat + 4), pSize := s.packetSize + 4 }])
  else (s, [])

/-- What is done about the byte just stored. -/
def look (s : Receiver) : Receiver × List Call :=
  if 2 ≤ s.bufIdx then
    if s.buf.take 2 = txstart then s.takeSize.takePacket
    else if s.buf.drop (s.bufIdx - 2) = txstart then ({ s with buf := txstart }, [])
    else (s, [])
  else (s, [])

/-- A turn of the loop that finds the buffer full clears everything and leaves the
byte for the next turn. -/
def makeRoom (size : Nat) (s : Receiver) : Receiver := if s.bufIdx < size then s else empty

def store (s : Receiver) (tempChar : Byte) : Receiver := { s with buf := s.buf ++ [tempChar] }

/-- A byte arrives; the buffer has `size` bytes. -/
def receive (size : Nat) (s : Receiver) (tempChar : Byte) : Receiver × List Call :=
  ((s.makeRoom size).store tempChar).look

/-- Bytes arrive: where the loop is after them, and the packets it has handed on. -/
def receiveAll (size : Nat) (s : Receiver) : List Byte → Receiver × List Call
  | [] => (s, [])
  | c :: rest =>
    ((receiveAll size (s.receive size c).1 rest).1,
      (s.receive size c).2 ++ (receiveAll size (s.receive size c).1 rest).2)

theorem receiveAll_append (size : Nat) (s : Receiver) (a b : List Byte) :
    s.receiveAll size (a ++ b) =
      (((s.receiveAll size a).1.receiveAll size b).1,
        (s.receiveAll size a).2 ++ ((s.receiveAll size a).1.receiveAll size b).2) := by
  induction a generalizing s with
  | nil => rfl
  | cons c rest ih => simp only [List.cons_append, receiveAll, ih, List.append_assoc]

theorem makeRoom_of_lt {size : Nat} {s : Receiver} (h : s.buf.length < size) :
    s.makeRoom size = s := if_pos h

theorem makeRoom_of_full {size : Nat} {s : Receiver} (h : size ≤ s.buf.length) :
    s.makeRoom size = empty := if_neg (Nat.not_lt.mpr h)

/-! ### A packet is no longer than what has been received -/

/-- What is buffered and what is handed on have arrived since the buffer was last
empty, so neither is longer than that. -/
structure Within (n : Nat) (result : Receiver × List Call) : Prop where
  buf : result.1.buf.length ≤ n
  calls : ∀ call ∈ result.2, call.tmp.length ≤ n

theorem takePacket_within {s : Receiver} {n : Nat} (h : s.buf.length ≤ n) :
    Within n s.takePacket := by
  unfold takePacket
  split
  · refine ⟨Nat.zero_le n, fun call hcall => ?_⟩
    rw [List.mem_singleton.mp hcall]
    exact (List.length_take_le' _ s.buf).trans h
  · exact ⟨h, fun call hcall => absurd hcall (List.not_mem_nil)⟩

theorem takeSize_length (s : Receiver) : s.takeSize.buf.length ≤ s.buf.length := by
  simp only [takeSize]
  split
  · split
    · exact Nat.zero_le _
    · exact Nat.le_refl _
  · exact Nat.le_refl _

theorem look_within (s : Receiver) : Within s.buf.length s.look := by
  have quiet : ∀ r : Receiver, r.buf.length ≤ s.buf.length → Within s.buf.length (r, []) :=
    fun r h => ⟨h, fun call hcall => absurd hcall (List.not_mem_nil)⟩
  unfold look
  by_cases hlen : 2 ≤ s.bufIdx
  · rw [if_pos hlen]
    split
    · exact takePacket_within s.takeSize_length
    · split
      · exact quiet _ hlen
      · exact quiet s (Nat.le_refl _)
  · rw [if_neg hlen]
    exact quiet s (Nat.le_refl _)

theorem makeRoom_length (size : Nat) (s : Receiver) :
    (s.makeRoom size).buf.length ≤ s.buf.length := by
  unfold makeRoom
  split
  · exact Nat.le_refl _
  · exact Nat.zero_le _

theorem receive_within (size : Nat) (s : Receiver) (c : Byte) :
    Within (s.buf.length + 1) (s.receive size c) := by
  have hstored : ((s.makeRoom size).store c).buf.length ≤ s.buf.length + 1 := by
    have := makeRoom_length size s
    simp only [store, List.length_append, List.length_singleton]
    omega
  obtain ⟨hbuf, hcalls⟩ := look_within ((s.makeRoom size).store c)
  exact ⟨hbuf.trans hstored, fun call hcall => (hcalls call hcall).trans hstored⟩

theorem receiveAll_within (size : Nat) (s : Receiver) (bytes : List Byte) :
    Within (s.buf.length + bytes.length) (s.receiveAll size bytes) := by
  induction bytes generalizing s with
  | nil => exact ⟨Nat.le_refl _, fun call hcall => absurd hcall (List.not_mem_nil)⟩
  | cons c rest ih =>
    obtain ⟨hbuf, hcalls⟩ := receive_within size s c
    obtain ⟨hbuf', hcalls'⟩ := ih (s.receive size c).1
    rw [List.length_cons]
    refine ⟨hbuf'.trans (by omega), fun call hcall => ?_⟩
    obtain hfirst | hrest := List.mem_append.mp hcall
    · exact (hcalls call hfirst).trans (by omega)
    · exact (hcalls' call hrest).trans (by omega)

end Receiver

/-! ### The length field -/

/-- The sign of a length character does not reach the length. -/
theorem wireSize_eq_append (hi lo : Byte) : wireSize hi lo = hi ++ lo := by
  apply BitVec.eq_of_getLsbD_eq
  intro i hi16
  simp only [wireSize, BitVec.getLsbD_setWidth, BitVec.getLsbD_or, BitVec.getLsbD_shiftLeft,
    BitVec.getLsbD_and, BitVec.getLsbD_append, BitVec.getLsbD_signExtend]
  interval_cases i <;> simp

theorem toNat_wireSize (hi lo : Byte) : (wireSize hi lo).toNat = hi.toNat * 256 + lo.toNat := by
  rw [wireSize_eq_append, BitVec.toNat_append, ← Nat.shiftLeft_add_eq_or_of_lt lo.isLt,
    Nat.shiftLeft_eq]

end RbFeeder.Airnav
