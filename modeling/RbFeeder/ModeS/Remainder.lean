import RbFeeder.ModeS.CorrectProofs
import RbFeeder.Lib.LongDivision

/-! The table-driven checksum is a polynomial remainder.

`modesChecksum` runs in 32 bits, with a generator constant that has lost its
leading term and shifts whose overflow is masked away afterwards. Its low 24 bits
are the register of long division by table, and nothing stands above them
(`foldl_crcByte`), so the checksum is the remainder of the message's bits
divided by `x ^ 24` plus the generator (`modesChecksum_remainder`). -/
namespace RbFeeder.ModeS
open LongDivision Polynomial

/-- The low terms of the generator. -/
def generator : BitVec 24 := generatorPoly.setWidth 24

/-- The bits of a message, in the order they are sent. -/
def messageBits (message : List Byte) : List Bool :=
  (List.range (8 * message.length)).map (bitAt message)

theorem messageBits_eq_flatMap (message : List Byte) : messageBits message = message.flatMap bits := by
  induction message with
  | nil => rfl
  | cons byte message ih =>
    have hfirst : (List.range 8).map (bitAt (byte :: message)) = bits byte := by
      apply List.map_congr_left
      intro i hi
      have hi8 := List.mem_range.mp hi
      simp [bitAt, byteAt, BitVec.getMsbD, hi8, Nat.div_eq_of_lt hi8, Nat.mod_eq_of_lt hi8]
    have hrest (i : Nat) : bitAt (byte :: message) (8 + i) = bitAt message i := by
      simp [bitAt, byteAt, Nat.add_div_left]
    rw [List.flatMap_cons, ← ih, messageBits, List.length_cons, Nat.mul_succ, Nat.add_comm,
      List.range_add, List.map_append, hfirst, List.map_map]
    congr 1
    exact List.map_congr_left fun i _ => hrest i

theorem messageBits_append (a b : List Byte) :
    messageBits (a ++ b) = messageBits a ++ messageBits b := by
  simp only [messageBits_eq_flatMap, List.flatMap_append]

/-! ### The register behind the 32 bits -/

theorem and_mask24 (x : BitVec 32) : x &&& 0xffffff = (x.setWidth 24).setWidth 32 := by
  apply BitVec.eq_of_getLsbD_eq
  intro i hi
  rw [show (0xffffff : BitVec 32) = (BitVec.allOnes 24).setWidth 32 by decide, BitVec.getLsbD_and]
  simp only [BitVec.getLsbD_setWidth, BitVec.getLsbD_allOnes, hi]
  by_cases h : i < 24 <;> simp [h]

/-- The constant without its leading term serves as well: the term would be masked away. -/
theorem crcShift_setWidth (c : BitVec 32) :
    (crcShift c).setWidth 24 = step generator (c.setWidth 24) false := by
  have hshift : (c <<< 1).setWidth 24 = (c.setWidth 24).shiftConcat false := by
    apply BitVec.eq_of_getLsbD_eq
    intro i hi
    rw [BitVec.getLsbD_setWidth, BitVec.getLsbD_shiftLeft, BitVec.getLsbD_shiftConcat,
      BitVec.getLsbD_setWidth]
    by_cases h0 : i = 0
    · subst h0
      simp
    · simp [hi, h0, show i < 32 by omega, show i - 1 < 24 by omega]
  have hmsb : (c.setWidth 24).msb = c.getLsbD 23 := by
    rw [BitVec.msb_eq_getLsbD_last, BitVec.getLsbD_setWidth]
    rfl
  unfold crcShift step
  simp only [and_bit23, hmsb]
  cases c.getLsbD 23 with
  | false => exact hshift
  | true => simp only [if_true, BitVec.setWidth_xor, hshift]; rfl

theorem crcShifts_setWidth (n : Nat) (c : BitVec 32) :
    (Nat.repeat crcShift n c).setWidth 24 = Nat.repeat (step generator · false) n (c.setWidth 24) := by
  induction n with
  | zero => rfl
  | succ n ih => rw [Nat.repeat, crcShift_setWidth, ih, Nat.repeat]

theorem crcTable_eq_table (i : Byte) : crcTable i = (table generator i).setWidth 32 := by
  have hplace : (i.setWidth 32 <<< 16).setWidth 24 = i.setWidth 24 <<< (24 - 8) := by
    apply BitVec.eq_of_getLsbD_eq
    intro j hj
    simp only [BitVec.getLsbD_setWidth, BitVec.getLsbD_shiftLeft]
    by_cases h16 : j < 16
    · simp [h16]
    · simp [hj, h16, show j < 32 by omega, show j - 16 < 32 by omega, show j - 16 < 24 by omega]
  rw [crcTable, show (0x00ffffff : BitVec 32) = 0xffffff from rfl, and_mask24, crcShifts_setWidth, hplace]
  rfl

/-- One turn of the loop is one step of the division by table. -/
theorem crcByte_eq_feed (r : BitVec 24) (byte : Byte) :
    crcByte (r.setWidth 32) byte = (feed generator r byte).setWidth 32 := by
  have htop : ((r.setWidth 32 &&& 0xff0000) >>> 16).setWidth 8 = (r >>> (24 - 8)).setWidth 8 := by
    apply BitVec.eq_of_getLsbD_eq
    intro i hi
    rw [show (0xff0000 : BitVec 32) = (BitVec.allOnes 8).setWidth 32 <<< 16 by decide]
    simp only [BitVec.getLsbD_setWidth, BitVec.getLsbD_ushiftRight, BitVec.getLsbD_and,
      BitVec.getLsbD_shiftLeft, BitVec.getLsbD_allOnes, hi]
    simp [hi, show 16 + i < 32 by omega, show i < 32 by omega]
  have hnarrow (x : BitVec 24) : (x.setWidth 32).setWidth 24 = x := by simp
  unfold crcByte
  rw [htop, and_mask24, BitVec.setWidth_xor, BitVec.setWidth_shiftLeft_of_le (by decide),
    crcTable_eq_table, hnarrow, hnarrow]
  rfl

theorem foldl_crcByte (message : List Byte) (r : BitVec 24) :
    message.foldl crcByte (r.setWidth 32) = (message.foldl (feed generator) r).setWidth 32 := by
  induction message generalizing r with
  | nil => rfl
  | cons byte message ih => rw [List.foldl_cons, crcByte_eq_feed, ih, List.foldl_cons]

/-- The last three bytes are added to the register as they stand. -/
theorem modesChecksum_append (message : List Byte) (a b c : Byte) :
    modesChecksum (message ++ [a, b, c]) (8 * (message ++ [a, b, c]).length) =
      (message.foldl (feed generator) 0 ^^^ (a ++ b ++ c)).setWidth 32 := by
  have hlast (i : Nat) : byteAt (message ++ [a, b, c]) (message.length + i) = byteAt [a, b, c] i := by
    simp [byteAt, List.getElem?_append_right]
  have htail : (a.setWidth 32 <<< 16) ^^^ (b.setWidth 32 <<< 8) ^^^ c.setWidth 32 =
      (a ++ b ++ c).setWidth 32 := by
    apply BitVec.eq_of_getLsbD_eq
    intro i hi
    simp only [BitVec.getLsbD_xor, BitVec.getLsbD_shiftLeft, BitVec.getLsbD_setWidth,
      BitVec.getLsbD_append, hi, decide_true, Bool.true_and]
    by_cases h8 : i < 8
    · simp [h8, show i < 16 by omega]
    · by_cases h16 : i < 16
      · simp [h8, h16, show i - 8 < 8 by omega, show i - 8 < 32 by omega, BitVec.getLsbD_of_ge c i (by omega)]
      · simp [h8, h16, show ¬ i - 8 < 8 by omega, show i - 8 - 8 = i - 16 by omega,
          show i - 16 < 32 by omega, show i - 8 < 32 by omega, BitVec.getLsbD_of_ge c i (by omega),
          BitVec.getLsbD_of_ge b (i - 8) (by omega)]
  have hfold : message.foldl crcByte 0 = (message.foldl (feed generator) 0).setWidth 32 :=
    foldl_crcByte message 0
  have hn : 8 * (message ++ [a, b, c]).length / 8 = message.length + 3 := by simp
  simp only [modesChecksum, hn]
  rw [show message.length + 3 - 3 = message.length + 0 by rfl,
    show message.length + 3 - 2 = message.length + 1 by rfl,
    show message.length + 3 - 1 = message.length + 2 by rfl, hlast, hlast, hlast, Nat.add_zero,
    List.take_left, hfold, BitVec.setWidth_xor, ← htail]
  simp only [BitVec.xor_assoc]
  rfl

/-- The checksum is the register of bit-by-bit division. -/
theorem modesChecksum_eq_remainder (message : List Byte) (h : 3 ≤ message.length) :
    modesChecksum message (8 * message.length) =
      (remainder generator (messageBits message)).setWidth 32 := by
  obtain ⟨front, a, b, c, rfl⟩ : ∃ front a b c, message = front ++ [a, b, c] := by
    obtain ⟨a, b, c, hlast⟩ : ∃ a b c, message.drop (message.length - 3) = [a, b, c] := by
      apply List.length_eq_three.mp
      rw [List.length_drop]
      omega
    exact ⟨message.take (message.length - 3), a, b, c, by rw [← hlast, List.take_append_drop]⟩
  rw [modesChecksum_append]
  apply congrArg
  apply eq_of_residue generator
  have hfront := residue_feeds (show 0 < 24 by decide) (show 8 ≤ 24 by decide) generator front
  rw [residue_remainder (by decide), poly_xor, map_add, hfront, ← map_add]
  apply congrArg
  have hlast : dividend (messageBits [a, b, c]) = poly (a ++ b ++ c) := by
    simp only [messageBits_eq_flatMap, List.flatMap_cons, List.flatMap_nil, List.append_nil,
      dividend_append, dividend_bits, List.length_append, length_bits, poly_append]
    ring
  rw [messageBits_append, dividend_append, hlast, messageBits_eq_flatMap front]
  rfl

/-! ### Damage -/

/-- `damaged` is `message` with the bits at the positions in `E` flipped. -/
structure Flipped (message : List Byte) (E : Finset Nat) (damaged : List Byte) : Prop where
  length_eq : damaged.length = message.length
  inside : ∀ i ∈ E, i < 8 * message.length
  bits : ∀ i < 8 * message.length, bitAt damaged i = (bitAt message i ^^ decide (i ∈ E))

/-- A message is its bits. -/
theorem eq_of_bitAt {a b : List Byte} (hlen : a.length = b.length)
    (h : ∀ i < 8 * b.length, bitAt a i = bitAt b i) : a = b := by
  apply List.ext_getElem hlen
  intro n hna hnb
  apply BitVec.eq_of_getLsbD_eq
  intro j hj
  have hbit := h (8 * n + (7 - j)) (by omega)
  simp only [bitAt, byteAt, show (8 * n + (7 - j)) / 8 = n by omega,
    show 7 - (8 * n + (7 - j)) % 8 = j by omega] at hbit
  simpa [hna, hnb] using hbit

theorem length_foldl_flipBit (message : List Byte) (l : List Nat) :
    (l.foldl flipBit message).length = message.length := by
  induction l generalizing message with
  | nil => rfl
  | cons i l ih => rw [List.foldl_cons, ih, length_flipBit]

theorem bitAt_foldl_flipBit (message : List Byte) {l : List Nat} (hn : l.Nodup)
    (hl : ∀ i ∈ l, i < 8 * message.length) (i : Nat) :
    bitAt (l.foldl flipBit message) i = (bitAt message i ^^ decide (i ∈ l)) := by
  induction l generalizing message with
  | nil => simp
  | cons j l ih =>
    obtain ⟨hj, hn⟩ := List.nodup_cons.mp hn
    rw [List.foldl_cons, ih _ hn fun k hk => by simpa using hl k (by simp [hk]),
      bitAt_flipBit _ _ _ (hl j (by simp)), Bool.xor_assoc]
    congr 1
    by_cases hij : i = j
    · subst hij
      simp [hj]
    · simp [hij]

/-- Damage is flipping bit after bit. -/
theorem Flipped.eq_foldl {message damaged : List Byte} {E : Finset Nat} (h : Flipped message E damaged) :
    damaged = E.toList.foldl flipBit message := by
  have hinside (i : Nat) (hi : i ∈ E.toList) : i < 8 * message.length :=
    h.inside i (Finset.mem_toList.mp hi)
  apply eq_of_bitAt
  · rw [h.length_eq, length_foldl_flipBit]
  · intro i hi
    rw [length_foldl_flipBit] at hi
    rw [h.bits i hi, bitAt_foldl_flipBit message E.nodup_toList hinside, decide_eq_decide.mpr Finset.mem_toList]

theorem modesChecksum_flipBit (message : List Byte) (h : message.length = 7 ∨ message.length = 14) {i : Nat}
    (hi : i < 8 * message.length) :
    modesChecksum (flipBit message i) (8 * message.length) =
      modesChecksum message (8 * message.length) ^^^ singleBitSyndrome (i + (112 - 8 * message.length)) := by
  have hbits : 8 * message.length = 56 ∨ 8 * message.length = 112 := by omega
  have hzero : (Buffer.zero.flip i).bytes.take message.length = flipBit (List.replicate message.length 0) i := by
    rw [Buffer.bytes_flip, Buffer.zero, flipBit, flipBit, List.take_modify, List.take_replicate,
      Nat.min_eq_left (by omega)]
  rw [flipBit_eq_xorBytes, modesChecksum_xor _ _ (by simp), ← modesChecksum_zero_flip _ hbits i hi]
  congr 1
  apply modesChecksum_congr (by omega)
  rw [Nat.mul_div_cancel_left _ (by decide), hzero, List.take_of_length_le (by simp)]

theorem modesChecksum_foldl_flipBit (message : List Byte) (h : message.length = 7 ∨ message.length = 14)
    {l : List Nat} (hl : ∀ i ∈ l, i < 8 * message.length) :
    modesChecksum (l.foldl flipBit message) (8 * message.length) =
      l.foldl (fun acc i => acc ^^^ singleBitSyndrome (i + (112 - 8 * message.length)))
        (modesChecksum message (8 * message.length)) := by
  induction l generalizing message with
  | nil => rfl
  | cons i l ih =>
    have hrest := ih (flipBit message i) (by simpa using h) fun j hj => by simpa using hl j (by simp [hj])
    rw [length_flipBit] at hrest
    rw [List.foldl_cons, hrest, modesChecksum_flipBit message h (hl i (by simp)), List.foldl_cons]

/-- **Main theorem.** The checksum is the remainder of the message divided by
`x ^ 24` plus the generator. So it is additive, and flipping bits adds their syndromes. -/
theorem modesChecksum_remainder (message : List Byte) (h : 3 ≤ message.length) :
    modesChecksum message (8 * message.length) =
        (remainder generator (messageBits message)).setWidth 32 ∧
      poly (remainder generator (messageBits message)) =
        (X ^ 24 * dividend (messageBits (message.take (message.length - 3))) +
          dividend (messageBits (message.drop (message.length - 3)))) %ₘ (X ^ 24 + poly generatorPoly) ∧
      (∀ other : List Byte, other.length = message.length →
        modesChecksum (xorBytes message other) (8 * message.length) =
          modesChecksum message (8 * message.length) ^^^ modesChecksum other (8 * message.length)) ∧
      (message.length = 7 ∨ message.length = 14 → ∀ (E : Finset Nat) (damaged : List Byte),
        Flipped message E damaged →
        modesChecksum damaged (8 * message.length) =
          modesChecksum message (8 * message.length) ^^^
            XorSum.xorSum (fun i => singleBitSyndrome (i + (112 - 8 * message.length))) E) := by
  refine ⟨modesChecksum_eq_remainder message h, ?_, ?_, ?_⟩
  · have hgenerator : poly generatorPoly = poly generator :=
      poly_setWidth (w := 32) generator (by decide)
    have hlast : (messageBits (message.drop (message.length - 3))).length = 24 := by
      simp only [messageBits, List.length_map, List.length_range, List.length_drop]
      omega
    have hsplit := dividend_append (messageBits (message.take (message.length - 3)))
      (messageBits (message.drop (message.length - 3)))
    rw [← messageBits_append, List.take_append_drop, hlast] at hsplit
    rw [poly_remainder (by decide), hgenerator, hsplit]
    rfl
  · intro other hother
    exact modesChecksum_xor message other hother.symm _
  · intro hlen E damaged hflip
    have hinside (i : Nat) (hi : i ∈ E.toList) : i < 8 * message.length :=
      hflip.inside i (Finset.mem_toList.mp hi)
    rw [hflip.eq_foldl, modesChecksum_foldl_flipBit message hlen hinside,
      XorSum.xorSum_toFinset _ _ E.nodup_toList, Finset.toList_toFinset]

/-- An identification message, as sent: it divides evenly. -/
def identification : List Byte :=
  [0x8d, 0x48, 0x40, 0xd6, 0x20, 0x2c, 0xc3, 0x71, 0xc3, 0x2c, 0xe0, 0x57, 0x60, 0x98]

theorem flipped_identification : Flipped identification {40} (flipBit identification 40) where
  length_eq := length_flipBit identification 40
  inside := by decide
  bits := fun i _ => by rw [bitAt_flipBit identification 40 i (by decide)]; simp

theorem modesChecksum_remainder_identification :
    (remainder generator (messageBits identification)).setWidth 32 = (0 : BitVec 32) ∧
      modesChecksum (flipBit identification 40) 112 = XorSum.xorSum singleBitSyndrome {40} := by
  have hzero : modesChecksum identification 112 = 0 := by decide +kernel
  obtain ⟨hdivision, -, -, hflips⟩ := modesChecksum_remainder identification (by decide)
  have hflip := hflips (Or.inr rfl) {40} (flipBit identification 40) flipped_identification
  refine ⟨?_, ?_⟩
  · rw [← hdivision]
    exact hzero
  · have hsum : (0 : BitVec 32) ^^^ XorSum.xorSum singleBitSyndrome {40} =
        XorSum.xorSum singleBitSyndrome {40} := BitVec.zero_xor
    rw [← hsum, ← hzero]
    exact hflip

end RbFeeder.ModeS
