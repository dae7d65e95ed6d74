import RbFeeder.ModeS.Checksum
import RbFeeder.Lib.XorSum

/-! The distance of the Mode S code.

No nonempty pattern of fewer than six of the 112 message bits has syndrome zero
(`syndrome_separated`). Every single-bit syndrome has odd parity, so only
patterns of two and of four bits are in question. Moving a pattern one bit
towards the end of the message divides its syndrome by `x`, so a pattern that
cancels can be moved until it contains the last bit, whose syndrome is 1; what
is left is that no two syndromes of other bits add to one plus a third, which the
kernel checks over all pairs with the sums `1 + s` kept as a bit set. -/
namespace RbFeeder.ModeS
open XorSum

/-- The single-bit syndromes, from the first bit of a long message to its last. -/
def syndromeTable : List Nat :=
  [ 0x3935ea, 0x1c9af5, 0xf1b77e, 0x78dbbf, 0xc397db, 0x9e31e9, 0xb0e2f0, 0x587178, 0x2c38bc,
    0x161c5e, 0x0b0e2f, 0xfa7d13, 0x82c48d, 0xbe9842, 0x5f4c21, 0xd05c14, 0x682e0a, 0x341705,
    0xe5f186, 0x72f8c3, 0xc68665, 0x9cb936, 0x4e5c9b, 0xd8d449, 0x939020, 0x49c810, 0x24e408,
    0x127204, 0x093902, 0x049c81, 0xfdb444, 0x7eda22, 0x3f6d11, 0xe04c8c, 0x702646, 0x381323,
    0xe3f395, 0x8e03ce, 0x4701e7, 0xdc7af7, 0x91c77f, 0xb719bb, 0xa476d9, 0xadc168, 0x56e0b4,
    0x2b705a, 0x15b82d, 0xf52612, 0x7a9309, 0xc2b380, 0x6159c0, 0x30ace0, 0x185670, 0x0c2b38,
    0x06159c, 0x030ace, 0x018567, 0xff38b7, 0x80665f, 0xbfc92b, 0xa01e91, 0xaff54c, 0x57faa6,
    0x2bfd53, 0xea04ad, 0x8af852, 0x457c29, 0xdd4410, 0x6ea208, 0x375104, 0x1ba882, 0x0dd441,
    0xf91024, 0x7c8812, 0x3e4409, 0xe0d800, 0x706c00, 0x383600, 0x1c1b00, 0x0e0d80, 0x0706c0,
    0x038360, 0x01c1b0, 0x00e0d8, 0x00706c, 0x003836, 0x001c1b, 0xfff409, 0x800000, 0x400000,
    0x200000, 0x100000, 0x080000, 0x040000, 0x020000, 0x010000, 0x008000, 0x004000, 0x002000,
    0x001000, 0x000800, 0x000400, 0x000200, 0x000100, 0x000080, 0x000040, 0x000020, 0x000010,
    0x000008, 0x000004, 0x000002, 0x000001]

theorem map_singleBitSyndrome :
    (List.range 112).map (fun i => (singleBitSyndrome i).toNat) = syndromeTable := by
  decide +kernel

theorem getElem_syndromeTable (i : Nat) (h : i < syndromeTable.length) :
    syndromeTable[i] = (singleBitSyndrome i).toNat := by
  simp only [← map_singleBitSyndrome, List.getElem_map, List.getElem_range]

theorem singleBitSyndrome_eq (i : Nat) (h : i < 112) :
    singleBitSyndrome i = BitVec.ofNat 32 (syndromeTable.getD i 0) := by
  have hi : i < syndromeTable.length := h
  rw [List.getD_eq_getElem _ _ hi, getElem_syndromeTable i hi, BitVec.ofNat_toNat,
    BitVec.setWidth_eq]

/-! ### Moving a pattern towards the end of the message -/

/-- Multiplication by `x` modulo the generator, on 24-bit remainders. -/
def timesX (c : BitVec 32) : BitVec 32 := crcShift c &&& 0xffffff

theorem timesX_xor (a b : BitVec 32) : timesX (a ^^^ b) = timesX a ^^^ timesX b := by
  unfold timesX
  rw [crcShift_xor, and_xor]

theorem eq_zero_of_timesX (c : BitVec 32) (hc : c &&& 0xffffff = c) (h : timesX c = 0#32) :
    c = 0#32 := by
  have hbits (i : Nat) : (timesX c).getLsbD i = false := by rw [h]; simp
  unfold timesX crcShift at hbits
  simp only [and_bit23] at hbits
  cases h23 : c.getLsbD 23
  · simp only [h23, Bool.false_eq_true, if_false] at hbits
    apply BitVec.eq_of_getLsbD_eq
    intro i hi
    rw [BitVec.getLsbD_zero]
    by_cases h24 : i < 24
    · by_cases hlast : i = 23
      · rw [hlast, h23]
      · have := hbits (i + 1)
        have hmask : (0xffffff : BitVec 32).getLsbD (i + 1) = true := by
          rw [show (0xffffff : BitVec 32) = BitVec.ofNat 32 (2 ^ 24 - 1) from rfl,
            BitVec.getLsbD_ofNat, Nat.testBit_two_pow_sub_one]
          simp
          omega
        rw [BitVec.getLsbD_and, hmask, Bool.and_true, BitVec.getLsbD_shiftLeft] at this
        simpa [show i + 1 < 32 by omega] using this
    · rw [← hc, BitVec.getLsbD_and, show (0xffffff : BitVec 32) = BitVec.ofNat 32 (2 ^ 24 - 1) from rfl,
        BitVec.getLsbD_ofNat, Nat.testBit_two_pow_sub_one]
      simp [h24]
  · -- The shifted-out bit brings in the generator, whose constant term is 1.
    have := hbits 0
    simp only [h23, if_true, BitVec.getLsbD_and, BitVec.getLsbD_xor, BitVec.getLsbD_shiftLeft] at this
    simp [generatorPoly] at this

/-- Read off the table: the entries follow from the last one, have 24 bits, are of odd weight, and are not repeated
at the end. -/
theorem syndromeTable_entries :
    (∀ i : Fin 111, timesX (BitVec.ofNat 32 (syndromeTable.getD (i + 1) 0)) =
        BitVec.ofNat 32 (syndromeTable.getD i 0)) ∧
      (∀ i : Fin 112, BitVec.ofNat 32 (syndromeTable.getD i 0) &&& 0xffffff =
        BitVec.ofNat 32 (syndromeTable.getD i 0)) ∧
      (∀ i : Fin 112, parity (BitVec.ofNat 32 (syndromeTable.getD i 0)) = true) ∧
      ∀ i : Fin 111, BitVec.ofNat 32 (syndromeTable.getD i 0) ≠ 1 := by
  decide +kernel

theorem singleBitSyndrome_step : ∀ i < 111, timesX (singleBitSyndrome (i + 1)) = singleBitSyndrome i := by
  intro i hi
  rw [singleBitSyndrome_eq i (by omega), singleBitSyndrome_eq (i + 1) (by omega)]
  exact syndromeTable_entries.1 ⟨i, hi⟩

theorem singleBitSyndrome_mask : ∀ i < 112, singleBitSyndrome i &&& 0xffffff = singleBitSyndrome i := by
  intro i hi
  rw [singleBitSyndrome_eq i hi]
  exact syndromeTable_entries.2.1 ⟨i, hi⟩

theorem singleBitSyndrome_parity : ∀ i < 112, parity (singleBitSyndrome i) = true := by
  intro i hi
  rw [singleBitSyndrome_eq i hi]
  exact syndromeTable_entries.2.2.1 ⟨i, hi⟩

theorem xorSum_mask {S : Finset Nat} (hS : S ⊆ Finset.range 112) :
    xorSum singleBitSyndrome S &&& 0xffffff = xorSum singleBitSyndrome S := by
  rw [map_xorSum singleBitSyndrome (· &&& 0xffffff) (by decide) (fun a b => and_xor a b _)]
  exact xorSum_congr fun i hi => singleBitSyndrome_mask i (Finset.mem_range.mp (hS hi))

/-- A pattern that cancels and leaves room still cancels one bit further on. -/
theorem xorSum_image_succ {S : Finset Nat} (hS : S ⊆ Finset.range 111)
    (h : xorSum singleBitSyndrome S = 0#32) :
    xorSum singleBitSyndrome (S.image (· + 1)) = 0#32 := by
  have hsub : S.image (· + 1) ⊆ Finset.range 112 := by
    intro j hj
    obtain ⟨i, hi, rfl⟩ := Finset.mem_image.mp hj
    have := Finset.mem_range.mp (hS hi)
    exact Finset.mem_range.mpr (by omega)
  apply eq_zero_of_timesX _ (xorSum_mask hsub)
  rw [xorSum_image _ _ (add_left_injective 1), map_xorSum _ timesX (by decide) timesX_xor, ← h]
  exact xorSum_congr fun i hi => singleBitSyndrome_step i (Finset.mem_range.mp (hS hi))

/-- A pattern that cancels can be moved until it contains the last bit. -/
theorem exists_last_of_cancels (n : Nat) {S : Finset Nat} (hle : ∀ i ∈ S, i + n ≤ 111)
    (hmax : 111 - n ∈ S) (h : xorSum singleBitSyndrome S = 0#32) :
    ∃ T ⊆ Finset.range 112, T.card = S.card ∧ 111 ∈ T ∧ xorSum singleBitSyndrome T = 0#32 := by
  induction n generalizing S with
  | zero =>
    refine ⟨S, fun i hi => Finset.mem_range.mpr ?_, rfl, hmax, h⟩
    have := hle i hi
    omega
  | succ n ih =>
    have hroom : S ⊆ Finset.range 111 := by
      intro i hi
      have := hle i hi
      exact Finset.mem_range.mpr (by omega)
    have hmax' := hle _ hmax
    obtain ⟨T, hT, hcard, hlast, hzero⟩ := ih (S := S.image (· + 1))
      (by
        intro j hj
        obtain ⟨i, hi, rfl⟩ := Finset.mem_image.mp hj
        have := hle i hi
        omega)
      (Finset.mem_image.mpr ⟨111 - (n + 1), hmax, by omega⟩)
      (xorSum_image_succ hroom h)
    rw [Finset.card_image_of_injective _ (add_left_injective 1)] at hcard
    exact ⟨T, hT, hcard, hlast, hzero⟩

/-! ### The patterns that contain the last bit -/

/-- The sums of 1 and one other syndrome, as a bit set modulo 68240. -/
def lastBitSums : Nat :=
  (syndromeTable.take 111).foldl (fun acc x => acc ||| 1 <<< ((1 ^^^ x) % 68240)) 0

/-- It has them, and no sum of two other syndromes. -/
theorem lastBitSums_entries :
    (∀ x ∈ syndromeTable.take 111, lastBitSums.testBit ((1 ^^^ x) % 68240) = true) ∧
      (syndromeTable.take 111).Pairwise fun x y => lastBitSums.testBit ((x ^^^ y) % 68240) = false := by
  decide +kernel

theorem singleBitSyndrome_mem (i : Nat) (h : i < 111) :
    (singleBitSyndrome i).toNat ∈ syndromeTable.take 111 := by
  rw [← getElem_syndromeTable i (show i < 112 by omega)]
  exact List.mem_take_iff_getElem.mpr ⟨i, by simp [syndromeTable]; omega, rfl⟩

theorem lastBit_pair (i j : Nat) (hij : i < j) (hj : j < 111) :
    lastBitSums.testBit ((singleBitSyndrome i ^^^ singleBitSyndrome j).toNat % 68240) = false := by
  have hlen : (syndromeTable.take 111).length = 111 := rfl
  have := List.pairwise_iff_getElem.mp lastBitSums_entries.2 i j (by omega) (by omega) hij
  simpa only [List.getElem_take, getElem_syndromeTable, ← BitVec.toNat_xor] using this

theorem lastBit_sum (i : Nat) (h : i < 111) :
    lastBitSums.testBit ((1 ^^^ singleBitSyndrome i).toNat % 68240) = true := by
  rw [BitVec.toNat_xor]
  exact lastBitSums_entries.1 _ (singleBitSyndrome_mem i h)

theorem singleBitSyndrome_last : singleBitSyndrome 111 = 1 := singleBitSyndrome_eq 111 (by decide)

theorem singleBitSyndrome_ne_last : ∀ i < 111, singleBitSyndrome i ≠ 1 := by
  intro i hi
  rw [singleBitSyndrome_eq i (by omega)]
  exact syndromeTable_entries.2.2.2 ⟨i, hi⟩

theorem lastBit_pair_ne (i j k : Nat) (hi : i < 111) (hj : j < 111) (hk : k < 111) (hij : i ≠ j) :
    singleBitSyndrome i ^^^ singleBitSyndrome j ≠ 1 ^^^ singleBitSyndrome k := by
  intro h
  have hsum := lastBit_sum k hk
  rw [← h] at hsum
  rcases Nat.lt_or_gt_of_ne hij with hlt | hgt
  · exact absurd (lastBit_pair i j hlt hj) (by rw [hsum]; decide)
  · rw [BitVec.xor_comm] at hsum
    exact absurd (lastBit_pair j i hgt hi) (by rw [hsum]; decide)

theorem last_not_cancels {T : Finset Nat} (hT : T ⊆ Finset.range 112) (hlast : 111 ∈ T)
    (hcard : T.card = 2 ∨ T.card = 4) : xorSum singleBitSyndrome T ≠ 0#32 := by
  intro hzero
  rw [← Finset.insert_erase hlast, xorSum_insert _ (Finset.notMem_erase _ _), xor_eq_zero_iff,
    singleBitSyndrome_last] at hzero
  have hrest : ∀ i ∈ T.erase 111, i < 111 := by
    intro i hi
    obtain ⟨hne, hi⟩ := Finset.mem_erase.mp hi
    have := Finset.mem_range.mp (hT hi)
    omega
  have hone := Finset.card_erase_of_mem hlast
  rcases hcard with h2 | h4
  · obtain ⟨i, hi⟩ := Finset.card_eq_one.mp (hone.trans (by rw [h2]))
    rw [hi, xorSum_singleton] at hzero
    exact singleBitSyndrome_ne_last i (hrest i (by simp [hi])) hzero.symm
  · obtain ⟨i, j, k, hij, hik, hjk, he⟩ := Finset.card_eq_three.mp (hone.trans (by rw [h4]))
    have hsum : xorSum singleBitSyndrome (T.erase 111) =
        singleBitSyndrome i ^^^ singleBitSyndrome j ^^^ singleBitSyndrome k := by
      rw [he, xorSum_insert _ (by simp [hij, hik]), xorSum_insert _ (by simp [hjk]),
        xorSum_singleton, BitVec.xor_assoc]
    rw [hsum] at hzero
    apply lastBit_pair_ne i j k (hrest i (by simp [he])) (hrest j (by simp [he]))
      (hrest k (by simp [he])) hij
    rw [hzero, BitVec.xor_assoc, BitVec.xor_self, BitVec.xor_zero]

/-- **The code has distance six**: no nonempty pattern of at most five bits of a
long message has syndrome zero. -/
theorem syndrome_separated : Separated singleBitSyndrome (Finset.range 112) 6 := by
  apply separated_of_parity fun i hi => singleBitSyndrome_parity i (Finset.mem_range.mp hi)
  intro S hS hne hcard heven hzero
  have hpos := hne.card_pos
  have hmax := Finset.mem_range.mp (hS (S.max'_mem hne))
  obtain ⟨T, hT, hcardT, hlast, hzeroT⟩ := exists_last_of_cancels (111 - S.max' hne)
    (fun i hi => by have := S.le_max' i hi; omega)
    (by rw [show 111 - (111 - S.max' hne) = S.max' hne by omega]; exact S.max'_mem hne) hzero
  exact last_not_cancels hT hlast (by omega) hzeroT

end RbFeeder.ModeS
