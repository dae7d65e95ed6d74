import RbFeeder.ModeS.Message

/-! The Mode S checksum of `crc.c`.

`modesChecksum` folds the message, three bytes short of its end, through a
table of the remainders of single bytes and adds the last three bytes. Every
step is linear over exclusive or, hence so is the checksum (`modesChecksum_xor`),
and flipping a bit adds that bit's syndrome, whatever the message
(`modesChecksum_flip`). -/
namespace RbFeeder.ModeS

/-! ### The lookup tables -/

/-- `MODES_GENERATOR_POLY`. -/
def generatorPoly : BitVec 32 := 0xfff409

/-- One turn of the inner loop of `initLookupTables`. -/
def crcShift (c : BitVec 32) : BitVec 32 :=
  if c &&& 0x800000 ≠ 0 then (c <<< 1) ^^^ generatorPoly else c <<< 1

/-- `crc_table[i]`. -/
def crcTable (i : Byte) : BitVec 32 :=
  Nat.repeat crcShift 8 (i.setWidth 32 <<< 16) &&& 0x00ffffff

/-- The loop body of `modesChecksum`. -/
def crcByte (rem : BitVec 32) (byte : Byte) : BitVec 32 :=
  ((rem <<< 8) ^^^ crcTable (byte ^^^ ((rem &&& 0xff0000) >>> 16).setWidth 8)) &&& 0xffffff

/-- `modesChecksum(message, bits)`; the callers' `bits` is a multiple of 8. -/
def modesChecksum (message : List Byte) (bits : Nat) : BitVec 32 :=
  let n := bits / 8
  let rem := (message.take (n - 3)).foldl crcByte 0
  rem ^^^ ((byteAt message (n - 3)).setWidth 32 <<< 16) ^^^
    ((byteAt message (n - 2)).setWidth 32 <<< 8) ^^^ (byteAt message (n - 1)).setWidth 32

/-- `single_bit_syndrome[i]`. -/
def singleBitSyndrome (i : Nat) : BitVec 32 :=
  modesChecksum (Buffer.zero.flip i).bytes longMsgBits

/-! ### Linearity -/

theorem xor_shuffle (a b c d : BitVec w) : a ^^^ b ^^^ (c ^^^ d) = a ^^^ c ^^^ (b ^^^ d) := by
  ac_rfl

theorem xor_shuffle₄ (a b c d e f g h : BitVec w) :
    a ^^^ b ^^^ (c ^^^ d) ^^^ (e ^^^ f) ^^^ (g ^^^ h) =
      a ^^^ c ^^^ e ^^^ g ^^^ (b ^^^ d ^^^ f ^^^ h) := by
  rw [xor_shuffle a, xor_shuffle (a ^^^ c), xor_shuffle (a ^^^ c ^^^ e)]

theorem and_bit23 (c : BitVec 32) : (c &&& 0x800000 ≠ 0) ↔ c.getLsbD 23 = true := by
  have h := BitVec.and_twoPow c 23
  rw [show BitVec.twoPow 32 23 = 0x800000 by rfl] at h
  rw [h]
  cases c.getLsbD 23 <;> decide

theorem crcShift_xor (a b : BitVec 32) : crcShift (a ^^^ b) = crcShift a ^^^ crcShift b := by
  unfold crcShift
  simp only [and_bit23, BitVec.getLsbD_xor, BitVec.shiftLeft_xor_distrib]
  have hcancel (x y p : BitVec 32) : x ^^^ p ^^^ (y ^^^ p) = x ^^^ y := by
    rw [xor_shuffle, BitVec.xor_self, BitVec.xor_zero]
  cases a.getLsbD 23 <;> cases b.getLsbD 23
  · rfl
  · simp only [Bool.false_xor, if_true, Bool.false_eq_true, if_false, BitVec.xor_assoc]
  · simp only [Bool.true_xor, Bool.not_false, if_true, Bool.false_eq_true, if_false]
    ac_rfl
  · simp only [Bool.true_xor, Bool.not_true, Bool.false_eq_true, if_false, if_true, hcancel]

theorem crcShifts_xor (n : Nat) (a b : BitVec 32) :
    Nat.repeat crcShift n (a ^^^ b) = Nat.repeat crcShift n a ^^^ Nat.repeat crcShift n b := by
  induction n with
  | zero => rfl
  | succ n ih => simp only [Nat.repeat, ih, crcShift_xor]

theorem and_xor (a b m : BitVec w) : (a ^^^ b) &&& m = (a &&& m) ^^^ (b &&& m) := by
  ext i
  simp only [BitVec.getElem_and, BitVec.getElem_xor]
  cases a[i] <;> cases b[i] <;> cases m[i] <;> rfl

theorem crcTable_xor (a b : Byte) : crcTable (a ^^^ b) = crcTable a ^^^ crcTable b := by
  unfold crcTable
  rw [BitVec.setWidth_xor, BitVec.shiftLeft_xor_distrib, crcShifts_xor, and_xor]

theorem crcByte_xor (r s : BitVec 32) (a b : Byte) :
    crcByte (r ^^^ s) (a ^^^ b) = crcByte r a ^^^ crcByte s b := by
  have hindex : ((((r ^^^ s) &&& 0xff0000) >>> 16).setWidth 8 : Byte) =
      ((r &&& 0xff0000) >>> 16).setWidth 8 ^^^ ((s &&& 0xff0000) >>> 16).setWidth 8 := by
    rw [and_xor, BitVec.ushiftRight_xor_distrib, BitVec.setWidth_xor]
  unfold crcByte
  rw [hindex, xor_shuffle a b, crcTable_xor, BitVec.shiftLeft_xor_distrib, xor_shuffle (r <<< 8),
    and_xor]

/-- Bytewise exclusive or of two messages. -/
def xorBytes (a b : List Byte) : List Byte := List.zipWith (· ^^^ ·) a b

theorem foldl_crcByte_xor (a b : List Byte) (h : a.length = b.length) (r s : BitVec 32) :
    (xorBytes a b).foldl crcByte (r ^^^ s) = a.foldl crcByte r ^^^ b.foldl crcByte s := by
  induction a generalizing b r s with
  | nil =>
    cases b with
    | nil => rfl
    | cons y b => simp at h
  | cons x a ih =>
    cases b with
    | nil => simp at h
    | cons y b =>
      simp only [xorBytes, List.zipWith_cons_cons, List.foldl_cons, crcByte_xor]
      exact ih b (by simpa using h) _ _

theorem byteAt_xorBytes (a b : List Byte) (h : a.length = b.length) (i : Nat) :
    byteAt (xorBytes a b) i = byteAt a i ^^^ byteAt b i := by
  simp only [byteAt, xorBytes, List.getD_eq_getElem?_getD, List.getElem?_zipWith]
  by_cases hi : i < a.length
  · simp [hi, h ▸ hi]
  · simp [List.getElem?_eq_none (Nat.le_of_not_lt hi), List.getElem?_eq_none (h ▸ Nat.le_of_not_lt hi)]

/-- The checksum is additive over messages of equal length. -/
theorem modesChecksum_xor (a b : List Byte) (h : a.length = b.length) (bits : Nat) :
    modesChecksum (xorBytes a b) bits = modesChecksum a bits ^^^ modesChecksum b bits := by
  have htake (k : Nat) : (xorBytes a b).take k = xorBytes (a.take k) (b.take k) := by
    simp [xorBytes, List.take_zipWith]
  have hfold := foldl_crcByte_xor (a.take (bits / 8 - 3)) (b.take (bits / 8 - 3))
    (by simp [h]) 0 0
  rw [show (0 : BitVec 32) ^^^ 0 = 0 from rfl] at hfold
  simp only [modesChecksum]
  rw [htake, hfold]
  simp only [byteAt_xorBytes a b h, BitVec.setWidth_xor, BitVec.shiftLeft_xor_distrib]
  exact xor_shuffle₄ ..

/-! ### Flipping bits -/

theorem flipBit_eq_xorBytes (msg : List Byte) (bit : Nat) :
    flipBit msg bit = xorBytes msg (flipBit (List.replicate msg.length 0) bit) := by
  apply List.ext_getElem
  · simp [xorBytes]
  · intro i h₁ h₂
    simp only [flipBit, xorBytes, List.getElem_zipWith, List.getElem_modify, List.getElem_replicate]
    split <;> simp

/-- Flipping any bit adds the checksum of that bit alone. -/
theorem modesChecksum_flip (msg : Buffer) (bit bits : Nat) :
    modesChecksum (msg.flip bit).bytes bits =
      modesChecksum msg.bytes bits ^^^ modesChecksum (Buffer.zero.flip bit).bytes bits := by
  rw [Buffer.bytes_flip, flipBit_eq_xorBytes, modesChecksum_xor _ _ (by simp), msg.length_bytes]
  rfl

/-- A short message is checked as a long one with 7 leading zero bytes, so its
bit `i` has the syndrome of bit `i + 56`. -/
theorem modesChecksum_zero_flip (bits : Nat) (hbits : bits = 56 ∨ bits = 112) (i : Nat) (h : i < bits) :
    modesChecksum (Buffer.zero.flip i).bytes bits = singleBitSyndrome (i + (112 - bits)) := by
  rcases hbits with rfl | rfl
  · have : ∀ i : Fin 56, modesChecksum (Buffer.zero.flip i).bytes 56 =
        singleBitSyndrome (i + 56) := by decide +kernel
    exact this ⟨i, h⟩
  · rfl

end RbFeeder.ModeS
