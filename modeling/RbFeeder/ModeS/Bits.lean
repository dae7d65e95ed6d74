import RbFeeder.ModeS.Message

/-! What `getbits(data, first, last)` computes: its bits are those of the message
(`getLsbD_getbits`), so that it fits into `last - first + 1` bits (`getbits_lt`). -/
namespace RbFeeder.ModeS

theorem shiftRight_lt {x : BitVec 32} {a k n : Nat} (hx : x.toNat < 2 ^ a) (h : a ≤ n + k) :
    (x >>> k).toNat < 2 ^ n := by
  rw [BitVec.toNat_ushiftRight, Nat.shiftRight_eq_div_pow]
  refine Nat.div_lt_of_lt_mul (Nat.lt_of_lt_of_le hx ?_)
  rw [← Nat.pow_add, Nat.add_comm]
  exact Nat.pow_le_pow_right (by decide) h

theorem or_lt {x y : BitVec 32} {n : Nat} (hx : x.toNat < 2 ^ n) (hy : y.toNat < 2 ^ n) :
    (x ||| y).toNat < 2 ^ n := by
  rw [BitVec.toNat_or]
  exact Nat.or_lt_two_pow hx hy

/-! ### The bits of a field -/

theorem getLsbD_byteAt (data : List Byte) (n m : Nat) :
    (byteAt data n).getLsbD m = (decide (m < 8) && bitAt data (8 * n + 7 - m)) := by
  by_cases hm : m < 8
  · have hbyte : (8 * n + 7 - m) / 8 = n := by omega
    have hbit : 7 - (8 * n + 7 - m) % 8 = m := by omega
    rw [bitAt, hbyte, hbit, decide_eq_true hm, Bool.true_and]
  · rw [decide_eq_false hm, Bool.false_and]
    exact BitVec.getLsbD_of_ge _ _ (not_lt.mp hm)

/-- A byte of a field, shifted to its place. -/
theorem getLsbD_byte_shiftLeft (data : List Byte) (n s i p : Nat)
    (hp : s ≤ i → i < s + 8 → 8 * n + 7 - (i - s) = p) :
    ((byteAt data n).setWidth 32 <<< s).getLsbD i =
      (decide (i < 32 ∧ s ≤ i ∧ i < s + 8) && bitAt data p) := by
  rw [BitVec.getLsbD_shiftLeft, BitVec.getLsbD_setWidth, getLsbD_byteAt]
  by_cases hplace : i < 32 ∧ s ≤ i ∧ i < s + 8
  · obtain ⟨h32, hlow, hhigh⟩ := hplace
    rw [hp hlow hhigh]
    simp [h32, hlow, hhigh, show i - s < 32 by omega, show i - s < 8 by omega]
  · rw [decide_eq_false hplace, Bool.false_and]
    by_contra h
    simp at h
    omega

/-- The last byte. -/
theorem getLsbD_byte_shiftRight (data : List Byte) (n s i p : Nat) (hp : s + i < 8 → 8 * n + 7 - (s + i) = p) :
    ((byteAt data n).setWidth 32 >>> s).getLsbD i = (decide (s + i < 8) && bitAt data p) := by
  rw [BitVec.getLsbD_ushiftRight, BitVec.getLsbD_setWidth, getLsbD_byteAt]
  by_cases hplace : s + i < 8
  · rw [hp hplace]
    simp [hplace, show s + i < 32 by omega]
  · simp [hplace]

/-- The first byte, without the bits before the field. -/
theorem getLsbD_topmask (data : List Byte) (n j m : Nat) :
    ((byteAt data n).setWidth 32 &&& ((255 / 2 ^ j : Nat) : BitVec 32)).getLsbD m =
      (((byteAt data n).setWidth 32).getLsbD m && decide (m + j < 8)) := by
  rw [BitVec.getLsbD_and]
  cases hbit : ((byteAt data n).setWidth 32).getLsbD m
  · rw [Bool.false_and, Bool.false_and]
  have hm : m < 8 := by
    rw [BitVec.getLsbD_setWidth, getLsbD_byteAt] at hbit
    simp at hbit
    exact hbit.2.1
  rw [BitVec.natCast_eq_ofNat, BitVec.getLsbD_ofNat, Nat.testBit_div_two_pow, decide_eq_true (by omega : m < 32),
    Bool.true_and, show (255 : Nat) = 2 ^ 8 - 1 by decide, Nat.testBit_two_pow_sub_one]

theorem getLsbD_topmask_shiftLeft (data : List Byte) (n j s i p : Nat)
    (hp : s ≤ i → i < s + 8 → 8 * n + 7 - (i - s) = p) :
    (((byteAt data n).setWidth 32 &&& ((255 / 2 ^ j : Nat) : BitVec 32)) <<< s).getLsbD i =
      (decide (i < 32 ∧ s ≤ i ∧ i + j < s + 8) && bitAt data p) := by
  have hbyte := getLsbD_byte_shiftLeft data n s i p hp
  rw [BitVec.getLsbD_shiftLeft] at hbyte ⊢
  rw [getLsbD_topmask, ← Bool.and_assoc, hbyte, Bool.and_right_comm]
  congr 1
  rw [← Bool.decide_and, decide_eq_decide]
  omega

theorem getLsbD_topmask_shiftRight (data : List Byte) (n j s i p : Nat)
    (hp : s + i < 8 → 8 * n + 7 - (s + i) = p) :
    (((byteAt data n).setWidth 32 &&& ((255 / 2 ^ j : Nat) : BitVec 32)) >>> s).getLsbD i =
      (decide (s + i + j < 8) && bitAt data p) := by
  have hbyte := getLsbD_byte_shiftRight data n s i p hp
  rw [BitVec.getLsbD_ushiftRight] at hbyte ⊢
  rw [getLsbD_topmask, hbyte, Bool.and_right_comm]
  congr 1
  rw [← Bool.decide_and, decide_eq_decide]
  omega

/-- **The bits of a field are those of the message**, the last one first. -/
theorem getLsbD_getbits (data : List Byte) {firstbit lastbit : Nat} (hfirst : 0 < firstbit)
    (hle : firstbit ≤ lastbit) (hwidth : lastbit - firstbit < 32) (i : Nat) :
    (getbits data firstbit lastbit).getLsbD i =
      (decide (i ≤ lastbit - firstbit) && bitAt data (lastbit - 1 - i)) := by
  simp only [getbits, and_seven, Nat.shiftRight_eq_div_pow]
  split_ifs with h5 h4 h3 h2 h1
  · simp only [BitVec.getLsbD_or]
    rw [getLsbD_topmask_shiftLeft data _ _ _ i (lastbit - 1 - i) (by omega),
      getLsbD_byte_shiftLeft data _ _ i (lastbit - 1 - i) (by omega),
      getLsbD_byte_shiftLeft data _ _ i (lastbit - 1 - i) (by omega),
      getLsbD_byte_shiftLeft data _ _ i (lastbit - 1 - i) (by omega),
      getLsbD_byte_shiftRight data _ _ i (lastbit - 1 - i) (by omega)]
    simp only [← Bool.and_or_distrib_right, ← Bool.decide_or]
    congr 1
    rw [decide_eq_decide]
    omega
  · simp only [BitVec.getLsbD_or]
    rw [getLsbD_topmask_shiftLeft data _ _ _ i (lastbit - 1 - i) (by omega),
      getLsbD_byte_shiftLeft data _ _ i (lastbit - 1 - i) (by omega),
      getLsbD_byte_shiftLeft data _ _ i (lastbit - 1 - i) (by omega),
      getLsbD_byte_shiftRight data _ _ i (lastbit - 1 - i) (by omega)]
    simp only [← Bool.and_or_distrib_right, ← Bool.decide_or]
    congr 1
    rw [decide_eq_decide]
    omega
  · simp only [BitVec.getLsbD_or]
    rw [getLsbD_topmask_shiftLeft data _ _ _ i (lastbit - 1 - i) (by omega),
      getLsbD_byte_shiftLeft data _ _ i (lastbit - 1 - i) (by omega),
      getLsbD_byte_shiftRight data _ _ i (lastbit - 1 - i) (by omega)]
    simp only [← Bool.and_or_distrib_right, ← Bool.decide_or]
    congr 1
    rw [decide_eq_decide]
    omega
  · simp only [BitVec.getLsbD_or]
    rw [getLsbD_topmask_shiftLeft data _ _ _ i (lastbit - 1 - i) (by omega),
      getLsbD_byte_shiftRight data _ _ i (lastbit - 1 - i) (by omega)]
    simp only [← Bool.and_or_distrib_right, ← Bool.decide_or]
    congr 1
    rw [decide_eq_decide]
    omega
  · rw [getLsbD_topmask_shiftRight data _ _ _ i (lastbit - 1 - i) (by omega)]
    congr 1
    rw [decide_eq_decide]
    omega
  · omega

/-- **A field fits into its bits.** -/
theorem getbits_lt (data : List Byte) {firstbit lastbit : Nat} (hfirst : 0 < firstbit)
    (hle : firstbit ≤ lastbit) : (getbits data firstbit lastbit).toNat < 2 ^ (lastbit - firstbit + 1) := by
  by_cases hwidth : lastbit - firstbit < 32
  · apply Nat.lt_pow_two_of_testBit
    intro i hi
    rw [BitVec.testBit_toNat, getLsbD_getbits data hfirst hle hwidth, decide_eq_false (by omega), Bool.false_and]
  · exact Nat.lt_of_lt_of_le (getbits data firstbit lastbit).isLt (Nat.pow_le_pow_right (by decide) (by omega))

end RbFeeder.ModeS
