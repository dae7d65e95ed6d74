import Mathlib

/-! The reflected binary code.

Consecutive numbers have codes that differ in one bit (`gray_succ`). When each bit of a
word has a pattern of its own, and a word is the exclusive or of the patterns of its bits
(`wired`), consecutive codes differ by one pattern (`wired_gray_succ`). -/
namespace GrayCode

/-- The code of a number. -/
def gray (n : Nat) : Nat := n ^^^ n / 2

theorem testBit_gray (n i : Nat) : (gray n).testBit i = (n.testBit i ^^ n.testBit (i + 1)) := by
  rw [gray, Nat.testBit_xor, Nat.testBit_succ]

theorem gray_lt {n width : Nat} (h : n < 2 ^ width) : gray n < 2 ^ width :=
  Nat.xor_lt_two_pow h (Nat.lt_of_le_of_lt (Nat.div_le_self n 2) h)

theorem testBit_zero_succ (n : Nat) : (n + 1).testBit 0 = !n.testBit 0 := by
  rw [Nat.testBit_zero, Nat.testBit_zero, ← decide_not]
  exact decide_eq_decide.mpr (by omega)

/-- From an even number on, the lowest bit changes. -/
theorem gray_even (k : Nat) : gray (2 * k) ^^^ gray (2 * k + 1) = 2 ^ 0 := by
  apply Nat.eq_of_testBit_eq
  intro i
  have hhalf : (2 * k + 1) / 2 = 2 * k / 2 := by omega
  rw [Nat.testBit_xor, testBit_gray, testBit_gray, Nat.testBit_two_pow]
  cases i with
  | zero => rw [testBit_zero_succ, Nat.testBit_succ, Nat.testBit_succ, hhalf]; simp
  | succ i => simp [Nat.testBit_succ, hhalf]

/-- From an odd number on, what changes is what changes in the number without its lowest bit. -/
theorem gray_odd (k : Nat) : gray (2 * k + 1) ^^^ gray (2 * k + 2) = 2 * (gray k ^^^ gray (k + 1)) := by
  apply Nat.eq_of_testBit_eq
  intro i
  have hhalf : (2 * k + 1) / 2 = k := by omega
  have hhalf' : (2 * k + 2) / 2 = k + 1 := by omega
  rw [Nat.testBit_xor, testBit_gray, testBit_gray]
  cases i with
  | zero =>
    rw [Nat.testBit_succ, Nat.testBit_succ, hhalf, hhalf', testBit_zero_succ (2 * k + 1), testBit_zero_succ (2 * k),
      testBit_zero_succ k]
    simp
  | succ i =>
    have hdouble : 2 * (gray k ^^^ gray (k + 1)) / 2 = gray k ^^^ gray (k + 1) := by omega
    simp only [Nat.testBit_succ, hhalf, hhalf', hdouble, Nat.testBit_xor, testBit_gray]

/-- **One bit changes** from each number to the next. -/
theorem gray_succ (n : Nat) : ∃ k, gray n ^^^ gray (n + 1) = 2 ^ k := by
  induction n using Nat.strongRecOn with
  | ind n ih =>
    obtain ⟨k, rfl | rfl⟩ := Nat.even_or_odd' n
    · exact ⟨0, gray_even k⟩
    · obtain ⟨i, hi⟩ := ih k (by omega)
      refine ⟨i + 1, ?_⟩
      rw [gray_odd, hi, Nat.pow_succ, Nat.mul_comm]

/-! ### Patterns -/

section Wired
variable {w : Nat} (pattern : Nat → BitVec w)

/-- The patterns of the lowest bits of a word, together. -/
def wired : Nat → Nat → BitVec w
  | 0, _ => 0
  | width + 1, g => (if g.testBit width then pattern width else 0) ^^^ wired width g

theorem wired_xor (width a b : Nat) : wired pattern width (a ^^^ b) = wired pattern width a ^^^ wired pattern width b := by
  induction width with
  | zero => exact BitVec.xor_zero.symm
  | succ width ih =>
    rw [wired, wired, wired, ih, Nat.testBit_xor]
    apply BitVec.eq_of_getLsbD_eq
    intro i _
    simp only [BitVec.getLsbD_xor]
    cases a.testBit width <;> cases b.testBit width <;> simp <;> grind

theorem wired_two_pow (width k : Nat) : wired pattern width (2 ^ k) = if k < width then pattern k else 0 := by
  induction width with
  | zero => rfl
  | succ width ih =>
    rw [wired, ih, Nat.testBit_two_pow]
    by_cases hk : k = width
    · subst hk
      simp
    · rw [if_neg (by simpa using hk)]
      exact BitVec.zero_xor.trans (if_congr (by omega) rfl rfl)

/-- **One pattern changes** from each number to the next. -/
theorem wired_gray_succ {width n : Nat} (h : n + 1 < 2 ^ width) :
    ∃ k < width, wired pattern width (gray n) ^^^ wired pattern width (gray (n + 1)) = pattern k := by
  obtain ⟨k, hk⟩ := gray_succ n
  have hlt : k < width := by
    rw [← Nat.pow_lt_pow_iff_right (a := 2) (by decide), ← hk]
    exact Nat.xor_lt_two_pow (gray_lt (by omega)) (gray_lt h)
  refine ⟨k, hlt, ?_⟩
  rw [← wired_xor, hk, wired_two_pow, if_pos hlt]

/-! Patterns of one bit each. -/

theorem getLsbD_one_shift (p j : Nat) : (1#w <<< p).getLsbD j = decide (j < w ∧ p = j) := by
  rw [← BitVec.twoPow_eq, BitVec.getLsbD_twoPow, ← Bool.decide_and]
  exact decide_eq_decide.mpr ⟨fun h => ⟨h.2 ▸ h.1, h.2⟩, fun h => ⟨h.2 ▸ h.1, h.2⟩⟩

variable {place : Nat → Nat}

theorem getLsbD_wired_ne {width j : Nat} (g : Nat) (hj : ∀ i < width, place i ≠ j) :
    (wired (fun k => 1#w <<< place k) width g).getLsbD j = false := by
  induction width with
  | zero => exact BitVec.getLsbD_zero
  | succ width ih =>
    rw [wired, BitVec.getLsbD_xor, ih fun i hi => hj i (Nat.lt_succ_of_lt hi), Bool.xor_false]
    split
    · rw [getLsbD_one_shift]
      exact decide_eq_false fun h => hj width (Nat.lt_succ_self width) h.2
    · exact BitVec.getLsbD_zero

/-- Each bit is at its place. -/
theorem getLsbD_wired {width k : Nat} (g : Nat) (hk : k < width) (hw : place k < w)
    (hinjective : ∀ i < width, place i = place k → i = k) :
    (wired (fun k => 1#w <<< place k) width g).getLsbD (place k) = g.testBit k := by
  induction width with
  | zero => exact absurd hk (Nat.not_lt_zero k)
  | succ width ih =>
    rw [wired, BitVec.getLsbD_xor]
    obtain rfl | hlt := Nat.eq_or_lt_of_le (Nat.lt_succ_iff.mp hk)
    · rw [getLsbD_wired_ne g fun i hi heq => Nat.ne_of_lt hi (hinjective i (Nat.lt_succ_of_lt hi) heq), Bool.xor_false]
      cases g.testBit k with
      | false => simp
      | true =>
        rw [if_pos rfl, getLsbD_one_shift]
        exact decide_eq_true ⟨hw, rfl⟩
    · rw [ih hlt fun i hi => hinjective i (Nat.lt_succ_of_lt hi)]
      have hother : place width ≠ place k := fun heq =>
        Nat.ne_of_gt hlt (hinjective width (Nat.lt_succ_self width) heq)
      have hzero : (if g.testBit width then 1#w <<< place width else 0).getLsbD (place k) = false := by
        split
        · rw [getLsbD_one_shift]
          exact decide_eq_false fun h => hother h.2
        · exact BitVec.getLsbD_zero
      rw [hzero, Bool.false_xor]

end Wired

/-! ### Decoding -/

section Decode
variable {w : Nat}

/-- A bit of the code and all those below it. -/
def below (k : Nat) : BitVec w := BitVec.ofNat w (2 ^ (k + 1) - 1)

/-- The exclusive or of the bits of a code from one on. -/
def suffix (g : Nat) : Nat → Nat → Bool
  | 0, _ => false
  | width + 1, j => (decide (j ≤ width) && g.testBit width) ^^ suffix g width j

theorem getLsbD_wired_below (width g : Nat) {j : Nat} (hj : j < w) :
    (wired (below : Nat → BitVec w) width g).getLsbD j = suffix g width j := by
  induction width with
  | zero => exact BitVec.getLsbD_zero
  | succ width ih =>
    rw [wired, BitVec.getLsbD_xor, ih, suffix]
    congr 1
    cases g.testBit width with
    | false => simp
    | true =>
      rw [if_pos rfl, below, BitVec.getLsbD_ofNat, Nat.testBit_two_pow_sub_one, Bool.and_true, decide_eq_true hj,
        Bool.true_and]
      exact decide_eq_decide.mpr Nat.lt_succ_iff

theorem suffix_of_le {g width j : Nat} (h : width ≤ j) : suffix g width j = false := by
  induction width with
  | zero => rfl
  | succ width ih =>
    rw [suffix, ih (Nat.le_of_succ_le h), decide_eq_false (Nat.not_le.mpr h)]
    rfl

theorem suffix_succ {g width j : Nat} (h : j < width) : suffix g width j = (g.testBit j ^^ suffix g width (j + 1)) := by
  induction width with
  | zero => exact absurd h (Nat.not_lt_zero j)
  | succ width ih =>
    rw [suffix, suffix, decide_eq_true (Nat.lt_succ_iff.mp h), Bool.true_and]
    obtain rfl | hlt := Nat.eq_or_lt_of_le (Nat.lt_succ_iff.mp h)
    · rw [suffix_of_le (Nat.le_refl j), suffix_of_le (Nat.le_succ j), decide_eq_false (Nat.not_succ_le_self j),
        Bool.false_and, Bool.xor_self, Bool.xor_false]
    · rw [ih hlt, decide_eq_true (Nat.succ_le_of_lt hlt), Bool.true_and, Bool.xor_left_comm]

theorem suffix_gray {n width j : Nat} (h : j ≤ width) :
    suffix (gray n) width j = (n.testBit j ^^ n.testBit width) := by
  induction width with
  | zero =>
    obtain rfl := Nat.le_zero.mp h
    exact (Bool.xor_self _).symm
  | succ width ih =>
    obtain rfl | hlt := Nat.eq_or_lt_of_le h
    · rw [suffix_of_le (Nat.le_refl _), Bool.xor_self]
    · have hle := Nat.lt_succ_iff.mp hlt
      rw [suffix, ih hle, testBit_gray, decide_eq_true hle, Bool.true_and]
      cases n.testBit width <;> cases n.testBit (width + 1) <;> simp

/-- The number of a code. -/
def ungray (width g : Nat) : Nat := (wired (below : Nat → BitVec width) width g).toNat

theorem testBit_ungray {width g j : Nat} (hj : j < width) : (ungray width g).testBit j = suffix g width j := by
  rw [ungray, BitVec.testBit_toNat, getLsbD_wired_below width g hj]

theorem ungray_lt (width g : Nat) : ungray width g < 2 ^ width := BitVec.isLt _

/-- **A code is decoded to its number.** -/
theorem ungray_gray {width n : Nat} (h : n < 2 ^ width) : ungray width (gray n) = n := by
  apply Nat.eq_of_testBit_eq
  intro j
  by_cases hj : j < width
  · rw [testBit_ungray hj, suffix_gray (Nat.le_of_lt hj), Nat.testBit_lt_two_pow h, Bool.xor_false]
  · have hle : 2 ^ width ≤ 2 ^ j := Nat.pow_le_pow_right (by decide) (Nat.not_lt.mp hj)
    rw [Nat.testBit_lt_two_pow (Nat.lt_of_lt_of_le (ungray_lt ..) hle), Nat.testBit_lt_two_pow (Nat.lt_of_lt_of_le h hle)]

/-- And each word is a code. -/
theorem gray_ungray {width g : Nat} (h : g < 2 ^ width) : gray (ungray width g) = g := by
  apply Nat.eq_of_testBit_eq
  intro j
  by_cases hj : j < width
  · have hnext : (ungray width g).testBit (j + 1) = suffix g width (j + 1) := by
      by_cases hlt : j + 1 < width
      · exact testBit_ungray hlt
      · obtain rfl : j + 1 = width := by omega
        rw [suffix_of_le (Nat.le_refl _), Nat.testBit_lt_two_pow (ungray_lt ..)]
    rw [testBit_gray, testBit_ungray hj, hnext, suffix_succ hj, Bool.xor_assoc, Bool.xor_self, Bool.xor_false]
  · have hle : 2 ^ width ≤ 2 ^ j := Nat.pow_le_pow_right (by decide) (Nat.not_lt.mp hj)
    rw [Nat.testBit_lt_two_pow (Nat.lt_of_lt_of_le (gray_lt (ungray_lt ..)) hle),
      Nat.testBit_lt_two_pow (Nat.lt_of_lt_of_le h hle)]

end Decode

end GrayCode
