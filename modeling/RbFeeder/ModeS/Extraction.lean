import RbFeeder.ModeS.Bits

/-! `getbits` against C's rules for shifts, and against its specification.

`getbits` names five branches by the number of bytes a field spans, each shifting
its bytes by amounts that depend on where the field ends. `getbitsChecked` is the
same function with what C asks of it checked on the way: the three assertions,
every read inside the array, every shift by less than 32, and every left shift
exact in the type of its operand. A field of at most 32 bits passes all checks,
and its value has the field's bits as binary digits (`getbits_digits`). -/
namespace RbFeeder.ModeS

/-! ### Checked shifts -/

/-- `x << n`, where the amount is legal and no bit is lost. An operand has 32 value
bits when it is `unsigned` (a byte under `topmask`) and 31 when it is a promoted byte. -/
def shiftLeftChecked (valueBits : Nat) (x : BitVec 32) (n : Nat) : Option (BitVec 32) :=
  if n < 32 ∧ x.toNat * 2 ^ n < 2 ^ valueBits then some (x <<< n) else none

/-- `x >> n`, where the amount is legal. -/
def shiftRightChecked (x : BitVec 32) (n : Nat) : Option (BitVec 32) :=
  if n < 32 then some (x >>> n) else none

/-- `data[i]`, inside the array, promoted. -/
def readChecked (data : List Byte) (i : Nat) : Option (BitVec 32) :=
  data[i]?.map (BitVec.setWidth 32)

/-- `getbits`, every read, shift and assertion checked. -/
def getbitsChecked (data : List Byte) (firstbit lastbit : Nat) : Option (BitVec 32) := do
  let fbi := firstbit - 1
  let lbi := lastbit - 1
  let nbi := lastbit - firstbit + 1
  let fby := fbi >>> 3
  let lby := lbi >>> 3
  let nby := (lby - fby) + 1
  let shift := 7 - (lbi &&& 7)
  let topmask ← shiftRightChecked 0xFF (fbi &&& 7)
  guard (fbi ≤ lbi)
  guard (nbi ≤ 32)
  guard (nby ≤ 5)
  if nby = 5 then
    let byte0 ← shiftLeftChecked 32 ((← readChecked data fby) &&& topmask) (32 - shift)
    let byte1 ← shiftLeftChecked 31 (← readChecked data (fby + 1)) (24 - shift)
    let byte2 ← shiftLeftChecked 31 (← readChecked data (fby + 2)) (16 - shift)
    let byte3 ← shiftLeftChecked 31 (← readChecked data (fby + 3)) (8 - shift)
    let byte4 ← shiftRightChecked (← readChecked data (fby + 4)) shift
    return byte0 ||| byte1 ||| byte2 ||| byte3 ||| byte4
  else if nby = 4 then
    let byte0 ← shiftLeftChecked 32 ((← readChecked data fby) &&& topmask) (24 - shift)
    let byte1 ← shiftLeftChecked 31 (← readChecked data (fby + 1)) (16 - shift)
    let byte2 ← shiftLeftChecked 31 (← readChecked data (fby + 2)) (8 - shift)
    let byte3 ← shiftRightChecked (← readChecked data (fby + 3)) shift
    return byte0 ||| byte1 ||| byte2 ||| byte3
  else if nby = 3 then
    let byte0 ← shiftLeftChecked 32 ((← readChecked data fby) &&& topmask) (16 - shift)
    let byte1 ← shiftLeftChecked 31 (← readChecked data (fby + 1)) (8 - shift)
    let byte2 ← shiftRightChecked (← readChecked data (fby + 2)) shift
    return byte0 ||| byte1 ||| byte2
  else if nby = 2 then
    let byte0 ← shiftLeftChecked 32 ((← readChecked data fby) &&& topmask) (8 - shift)
    let byte1 ← shiftRightChecked (← readChecked data (fby + 1)) shift
    return byte0 ||| byte1
  else if nby = 1 then
    shiftRightChecked ((← readChecked data fby) &&& topmask) shift
  else
    return 0

theorem shiftLeftChecked_some {valueBits a n : Nat} {x : BitVec 32} (hx : x.toNat < 2 ^ a) (hn : n < 32)
    (hfits : a + n ≤ valueBits) : shiftLeftChecked valueBits x n = some (x <<< n) := by
  refine if_pos ⟨hn, ?_⟩
  calc x.toNat * 2 ^ n < 2 ^ a * 2 ^ n := Nat.mul_lt_mul_of_pos_right hx (Nat.two_pow_pos n)
    _ = 2 ^ (a + n) := (Nat.pow_add ..).symm
    _ ≤ 2 ^ valueBits := Nat.pow_le_pow_right (by decide) hfits

theorem shiftRightChecked_some {x : BitVec 32} {n : Nat} (hn : n < 32) :
    shiftRightChecked x n = some (x >>> n) := if_pos hn

theorem readChecked_some {data : List Byte} {i : Nat} (hi : i < data.length) :
    readChecked data i = some ((byteAt data i).setWidth 32) := by
  simp [readChecked, byteAt, hi]

theorem byte_lt (byte : Byte) : (byte.setWidth 32).toNat < 2 ^ 8 := by
  rw [BitVec.toNat_setWidth_of_le (by decide)]
  exact byte.isLt

/-- The first byte without the bits before the field. -/
theorem masked_lt (byte : Byte) {k : Nat} (hk : k < 8) :
    (byte.setWidth 32 &&& ((255 / 2 ^ k : Nat) : BitVec 32)).toNat < 2 ^ (8 - k) := by
  have hmask : 255 / 2 ^ k < 2 ^ (8 - k) := by
    refine Nat.div_lt_of_lt_mul ?_
    rw [← Nat.pow_add, Nat.add_sub_cancel' hk.le]
    decide
  rw [BitVec.toNat_and]
  refine Nat.lt_of_le_of_lt Nat.and_le_right ?_
  exact Nat.lt_of_le_of_lt (Nat.mod_le _ _) hmask

theorem topmask_eq (k : Nat) : (0xFF : BitVec 32) >>> k = ((255 / 2 ^ k : Nat) : BitVec 32) := by
  apply BitVec.eq_of_toNat_eq
  rw [BitVec.toNat_ushiftRight, Nat.shiftRight_eq_div_pow, BitVec.natCast_eq_ofNat, BitVec.toNat_ofNat,
    Nat.mod_eq_of_lt (Nat.lt_of_le_of_lt (Nat.div_le_self ..) (by decide))]
  rfl

/-- A field inside the array, of at most 32 bits, passes every check. -/
theorem getbitsChecked_some (data : List Byte) {firstbit lastbit : Nat} (hfirst : 1 ≤ firstbit)
    (hle : firstbit ≤ lastbit) (hinside : lastbit ≤ 8 * data.length) (hwidth : lastbit - firstbit + 1 ≤ 32) :
    getbitsChecked data firstbit lastbit = some (getbits data firstbit lastbit) := by
  have hj : (firstbit - 1) % 8 < 8 := Nat.mod_lt _ (by decide)
  have hread (k : Nat) (hk : (firstbit - 1) / 8 + k ≤ (lastbit - 1) / 8) :
      readChecked data ((firstbit - 1) / 8 + k) =
        some ((byteAt data ((firstbit - 1) / 8 + k)).setWidth 32) :=
    readChecked_some (by omega)
  have hbyte (k : Nat) : ((byteAt data k).setWidth 32).toNat < 2 ^ 8 := byte_lt _
  have htop (k : Nat) : ((byteAt data k).setWidth 32 &&&
      ((255 / 2 ^ ((firstbit - 1) % 8) : Nat) : BitVec 32)).toNat < 2 ^ (8 - (firstbit - 1) % 8) :=
    masked_lt _ hj
  have hmask : shiftRightChecked 0xFF ((firstbit - 1) % 8) =
      some ((255 / 2 ^ ((firstbit - 1) % 8) : Nat) : BitVec 32) := by
    rw [shiftRightChecked_some (by omega), topmask_eq]
  have hshift (k : Nat) : shiftRightChecked ((byteAt data k).setWidth 32) (7 - (lastbit - 1) % 8) =
      some ((byteAt data k).setWidth 32 >>> (7 - (lastbit - 1) % 8)) := shiftRightChecked_some (by omega)
  have hmid (k n : Nat) (hn : n ≤ 23) : shiftLeftChecked 31 ((byteAt data k).setWidth 32) n =
      some ((byteAt data k).setWidth 32 <<< n) :=
    shiftLeftChecked_some (hbyte k) (by omega) (by omega)
  have hleft (k n : Nat) (hn : n < 32) (hfits : 8 - (firstbit - 1) % 8 + n ≤ 32) :
      shiftLeftChecked 32 ((byteAt data k).setWidth 32 &&&
          ((255 / 2 ^ ((firstbit - 1) % 8) : Nat) : BitVec 32)) n =
        some (((byteAt data k).setWidth 32 &&&
          ((255 / 2 ^ ((firstbit - 1) % 8) : Nat) : BitVec 32)) <<< n) :=
    shiftLeftChecked_some (htop k) hn hfits
  have hspan : (lastbit - 1) / 8 - (firstbit - 1) / 8 + 1 ≤ 5 := by omega
  have hfirstRead := hread 0 (by omega)
  rw [Nat.add_zero] at hfirstRead
  unfold getbitsChecked getbits
  simp only [and_seven, Nat.shiftRight_eq_div_pow, Nat.reducePow, hfirstRead, hmask, hwidth, hspan,
    show firstbit - 1 ≤ lastbit - 1 by omega, guard, if_true, Option.bind_eq_bind, Option.bind_some,
    Option.pure_def]
  generalize hnby : (lastbit - 1) / 8 - (firstbit - 1) / 8 + 1 = nby
  obtain rfl | rfl | rfl | rfl | rfl : nby = 5 ∨ nby = 4 ∨ nby = 3 ∨ nby = 2 ∨ nby = 1 := by omega
  · rw [if_pos rfl, if_pos rfl, hleft _ _ (by omega) (by omega), Option.bind_some, hread 1 (by omega),
      Option.bind_some, hmid _ _ (by omega), Option.bind_some, hread 2 (by omega), Option.bind_some,
      hmid _ _ (by omega), Option.bind_some, hread 3 (by omega), Option.bind_some, hmid _ _ (by omega),
      Option.bind_some, hread 4 (by omega), Option.bind_some, hshift, Option.bind_some]
    rfl
  · show (Option.bind _ _) = some (_ ||| _)
    rw [hleft _ _ (by omega) (by omega), Option.bind_some, hread 1 (by omega), Option.bind_some,
      hmid _ _ (by omega), Option.bind_some, hread 2 (by omega), Option.bind_some, hmid _ _ (by omega),
      Option.bind_some, hread 3 (by omega), Option.bind_some, hshift, Option.bind_some]
    rfl
  · show (Option.bind _ _) = some (_ ||| _)
    rw [hleft _ _ (by omega) (by omega), Option.bind_some, hread 1 (by omega), Option.bind_some,
      hmid _ _ (by omega), Option.bind_some, hread 2 (by omega), Option.bind_some, hshift, Option.bind_some]
    rfl
  · show (Option.bind _ _) = some (_ ||| _)
    rw [hleft _ _ (by omega) (by omega), Option.bind_some, hread 1 (by omega), Option.bind_some, hshift,
      Option.bind_some]
    rfl
  · show shiftRightChecked _ _ = _
    rw [shiftRightChecked_some (by omega)]
    rfl

/-! ### Binary digits -/

/-- The digits of a field, the last bit first. -/
def fieldDigits (data : List Byte) (firstbit lastbit : Nat) : List Nat :=
  ((List.range' firstbit (lastbit - firstbit + 1)).map fun bitnum => (getbit data bitnum).toNat).reverse

/-- `getbit` reads the bit with its number, counted from 1. -/
theorem toNat_getbit (data : List Byte) (bitnum : Nat) :
    (getbit data bitnum).toNat = (bitAt data (bitnum - 1)).toNat := by
  have hbit : ((byteAt data ((bitnum - 1) / 8)).setWidth 32 &&& 1#32 <<< (7 - (bitnum - 1) % 8) ≠ 0) ↔
      bitAt data (bitnum - 1) = true := by
    have hplace : 7 - (bitnum - 1) % 8 < 32 := by omega
    have hpow : BitVec.twoPow 32 (7 - (bitnum - 1) % 8) ≠ 0 := by
      intro h
      have hzero := congrArg BitVec.toNat h
      rw [BitVec.toNat_twoPow_of_lt hplace] at hzero
      exact (Nat.two_pow_pos _).ne' hzero
    rw [← BitVec.twoPow_eq, BitVec.and_twoPow, BitVec.getLsbD_setWidth, decide_eq_true hplace, Bool.true_and]
    unfold bitAt
    by_cases hset : (byteAt data ((bitnum - 1) / 8)).getLsbD (7 - (bitnum - 1) % 8) = true
    · rw [if_pos hset]
      exact iff_of_true hpow hset
    · rw [if_neg hset]
      exact iff_of_false (fun h => h rfl) hset
  simp only [getbit, and_seven, Nat.shiftRight_eq_div_pow, Nat.reducePow, hbit]
  cases bitAt data (bitnum - 1) <;> rfl

/-- The binary digits of a number are its bits. -/
theorem testBit_ofDigits (bits : List Bool) (i : Nat) :
    (Nat.ofDigits 2 (bits.map Bool.toNat)).testBit i = bits.getD i false := by
  induction bits generalizing i with
  | nil => simp
  | cons b bits ih =>
    rw [List.map_cons, Nat.ofDigits_cons, Nat.add_comm, ← Nat.bit_val]
    cases i with
    | zero => simp
    | succ i => rw [Nat.testBit_bit_succ, ih, List.getD_cons_succ]

/-- **Main theorem.** A field of at most 32 bits inside the array is extracted without
an illegal shift or a lost bit, and its value has the field's bits as binary digits. -/
theorem getbits_digits (data : List Byte) {firstbit lastbit : Nat} (hfirst : 1 ≤ firstbit)
    (hle : firstbit ≤ lastbit) (hinside : lastbit ≤ 8 * data.length) (hwidth : lastbit - firstbit + 1 ≤ 32) :
    getbitsChecked data firstbit lastbit = some (getbits data firstbit lastbit) ∧
      (getbits data firstbit lastbit).toNat = Nat.ofDigits 2 (fieldDigits data firstbit lastbit) := by
  refine ⟨getbitsChecked_some data hfirst hle hinside hwidth, ?_⟩
  have hdigits : fieldDigits data firstbit lastbit =
      ((List.range (lastbit - firstbit + 1)).map fun i => bitAt data (lastbit - 1 - i)).map Bool.toNat := by
    apply List.ext_getElem
    · simp [fieldDigits]
    · intro i hi _
      have hi' : i < lastbit - firstbit + 1 := by simpa [fieldDigits] using hi
      simp only [fieldDigits, List.getElem_reverse, List.getElem_map, List.getElem_range',
        List.getElem_range, List.length_map, List.length_range', toNat_getbit]
      congr 2
      omega
  rw [hdigits]
  apply Nat.eq_of_testBit_eq
  intro i
  rw [BitVec.testBit_toNat, getLsbD_getbits data hfirst hle (by omega), testBit_ofDigits]
  by_cases hi : i ≤ lastbit - firstbit
  · simp [hi, Nat.lt_succ_of_le hi]
  · simp [hi, show ¬ i < lastbit - firstbit + 1 by omega]

/-- A field of 32 bits over five bytes. -/
theorem getbits_digits_five :
    getbitsChecked [0x8d, 0x48, 0x40, 0xd6, 0x20] 4 35 = some 0x6a4206b1 ∧
      Nat.ofDigits 2 (fieldDigits [0x8d, 0x48, 0x40, 0xd6, 0x20] 4 35) = 0x6a4206b1 := by
  have hvalue : getbits [0x8d, 0x48, 0x40, 0xd6, 0x20] 4 35 = 0x6a4206b1 := by decide
  obtain ⟨hchecked, hdigits⟩ := @getbits_digits [0x8d, 0x48, 0x40, 0xd6, 0x20] 4 35
    (by decide) (by decide) (by decide) (by decide)
  rw [hvalue] at hchecked hdigits
  exact ⟨hchecked, hdigits.symm⟩

end RbFeeder.ModeS
