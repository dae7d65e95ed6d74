import RbFeeder.Lib.GrayCode
import RbFeeder.ModeS.Altitude

/-! The Gillham code of altitudes.

The pulses of a Mode C reply are two codes in one: eight pulses for the five hundreds of
feet, in reflected binary, and the three C pulses for the hundreds, up and down in turn.
`gillham` is the code of an altitude; `internalModeAToModeC` decodes exactly these codes
(`modeC_iff`), and from each altitude to the next one pulse changes (`modeC_succ`). -/
namespace RbFeeder.ModeS
open GrayCode

/-! ### Codes -/

/-- The places of the pulses of the five hundreds: B4, B2, B1, A4, A2, A1, D4 and D2. -/
def fiveBit : Nat → Nat
  | 0 => 10
  | 1 => 9
  | 2 => 8
  | 3 => 14
  | 4 => 13
  | 5 => 12
  | 6 => 2
  | _ => 1

def fivePulse (k : Nat) : BitVec 32 := 1#32 <<< fiveBit k

/-- The pulses of the hundreds from 1 to 5: C4, C2 with it, C2, C1 with it, C1. -/
def hundredPulses : Nat → BitVec 32
  | 1 => 0x0040
  | 2 => 0x0060
  | 3 => 0x0020
  | 4 => 0x0030
  | _ => 0x0010

/-- The hundreds as they are sent, which go down where the five hundreds are odd. -/
def sentHundreds (n : Nat) : Nat := if n / 5 % 2 = 1 then 5 - n % 5 else n % 5 + 1

/-- The code of the altitude of `n` hundred feet above -1200 feet. -/
def gillham (n : Nat) : BitVec 32 := wired fivePulse 8 (gray (n / 5)) ^^^ hundredPulses (sentHundreds n)

/-! ### The decoder -/

/-- `FiveHundreds`. -/
def fiveHundreds (ModeA : BitVec 32) : BitVec 32 :=
  let FiveHundreds := flipIf ModeA 0x0004 0x07F (flipIf ModeA 0x0002 0x0FF 0)
  let FiveHundreds := flipIf ModeA 0x4000 0x00F
    (flipIf ModeA 0x2000 0x01F (flipIf ModeA 0x1000 0x03F FiveHundreds))
  flipIf ModeA 0x0400 0x001 (flipIf ModeA 0x0200 0x003 (flipIf ModeA 0x0100 0x007 FiveHundreds))

/-- `OneHundreds`, without its 7s. -/
def oneHundreds (ModeA : BitVec 32) : BitVec 32 :=
  let OneHundreds := flipIf ModeA 0x0040 0x001 (flipIf ModeA 0x0020 0x003 (flipIf ModeA 0x0010 0x007 0))
  if OneHundreds &&& 5 = 5 then OneHundreds ^^^ 2 else OneHundreds

theorem internalModeAToModeC_eq (ModeA : BitVec 32) :
    internalModeAToModeC ModeA =
      if ModeA &&& 0xFFFF8889 ≠ 0 ∨ ModeA &&& 0x000000F0 = 0 then invalidAltitude
      else if oneHundreds ModeA > 5 then invalidAltitude
      else
        (fiveHundreds ModeA).toNat * 5 +
          (if fiveHundreds ModeA &&& 1 ≠ 0 then 6 - oneHundreds ModeA else oneHundreds ModeA).toNat - 13 := rfl

theorem and_bit_ne_zero (a : BitVec 32) {k : Nat} (hk : k < 32) : a &&& 1#32 <<< k ≠ 0 ↔ a.getLsbD k = true := by
  have hbits : ∀ i, (a &&& 1#32 <<< k).getLsbD i = (a.getLsbD i && decide (i < 32 ∧ k = i)) := by
    intro i
    rw [BitVec.getLsbD_and, getLsbD_one_shift]
  constructor
  · intro hne
    by_contra hbit
    refine hne (BitVec.eq_of_getLsbD_eq fun i _ => ?_)
    rw [hbits i]
    refine Eq.trans ?_ BitVec.getLsbD_zero.symm
    by_cases h : k = i
    · rw [← h, eq_false_of_ne_true hbit, Bool.false_and]
    · rw [decide_eq_false fun hand => h hand.2, Bool.and_false]
  · intro hbit hzero
    have hset := hbits k
    rw [hzero, hbit, decide_eq_true ⟨hk, rfl⟩] at hset
    cases BitVec.getLsbD_zero.symm.trans hset

/-- A bit that a mask has, of a word that has none of the mask's. -/
theorem getLsbD_of_and {a mask : BitVec 32} (h : a &&& mask = 0) {i : Nat} (hi : mask.getLsbD i = true) :
    a.getLsbD i = false := by
  have hbit := congrArg (fun x => x.getLsbD i) h
  rw [BitVec.getLsbD_and, hi, Bool.and_true] at hbit
  exact hbit.trans BitVec.getLsbD_zero

/-- A flip adds its bits to the exclusive or, when its pulse is there. -/
theorem flipIf_bit (ModeA bits code : BitVec 32) {k : Nat} (hk : k < 32) :
    flipIf ModeA (1#32 <<< k) bits code = (if ModeA.getLsbD k then bits else 0) ^^^ code := by
  unfold flipIf
  by_cases h : ModeA.getLsbD k = true
  · rw [if_pos ((and_bit_ne_zero ModeA hk).mpr h), if_pos h, BitVec.xor_comm]
  · rw [if_neg (fun hne => h ((and_bit_ne_zero ModeA hk).mp hne)), if_neg h]
    exact BitVec.zero_xor.symm

/-- The eight pulses as a word. -/
def fives (ModeA : BitVec 32) : Nat := Nat.ofBits fun i : Fin 8 => ModeA.getLsbD (fiveBit i)

theorem testBit_fives (ModeA : BitVec 32) {k : Nat} (hk : k < 8) :
    (fives ModeA).testBit k = ModeA.getLsbD (fiveBit k) := Nat.testBit_ofBits_lt _ k hk

theorem fives_lt (ModeA : BitVec 32) : fives ModeA < 2 ^ 8 := Nat.ofBits_lt_two_pow _

theorem fiveHundreds_eq (ModeA : BitVec 32) : fiveHundreds ModeA = wired below 8 (fives ModeA) := by
  have hflip {k : Nat} (hk : k < 8) (bits code : BitVec 32) : flipIf ModeA (fivePulse k) bits code =
      (if (fives ModeA).testBit k then bits else 0) ^^^ code := by
    have hbit : fiveBit k < 32 := by
      interval_cases k <;> decide
    rw [testBit_fives ModeA hk]
    exact flipIf_bit ModeA bits code hbit
  have hchain : fiveHundreds ModeA = flipIf ModeA (fivePulse 0) (below 0) (flipIf ModeA (fivePulse 1) (below 1)
      (flipIf ModeA (fivePulse 2) (below 2) (flipIf ModeA (fivePulse 3) (below 3) (flipIf ModeA (fivePulse 4) (below 4)
        (flipIf ModeA (fivePulse 5) (below 5) (flipIf ModeA (fivePulse 6) (below 6)
          (flipIf ModeA (fivePulse 7) (below 7) 0))))))) := rfl
  rw [hchain]
  simp only [hflip (by decide : 0 < 8), hflip (by decide : 1 < 8), hflip (by decide : 2 < 8), hflip (by decide : 3 < 8),
    hflip (by decide : 4 < 8), hflip (by decide : 5 < 8), hflip (by decide : 6 < 8), hflip (by decide : 7 < 8), wired]
  ac_rfl

theorem toNat_fiveHundreds (ModeA : BitVec 32) : (fiveHundreds ModeA).toNat = ungray 8 (fives ModeA) := by
  have hlow : ∀ i, (fiveHundreds ModeA).getLsbD i = suffix (fives ModeA) 8 i := by
    intro i
    rw [fiveHundreds_eq]
    by_cases hi : i < 32
    · exact getLsbD_wired_below 8 _ hi
    · rw [BitVec.getLsbD_of_ge _ _ (Nat.not_lt.mp hi), suffix_of_le (by omega)]
  apply Nat.eq_of_testBit_eq
  intro i
  rw [BitVec.testBit_toNat, hlow]
  by_cases hi : i < 8
  · exact (testBit_ungray hi).symm
  · have hle : 2 ^ 8 ≤ 2 ^ i := Nat.pow_le_pow_right (by decide) (Nat.not_lt.mp hi)
    rw [suffix_of_le (Nat.not_lt.mp hi), Nat.testBit_lt_two_pow (Nat.lt_of_lt_of_le (ungray_lt 8 _) hle)]

/-- The hundreds by the pulses C1, C2 and C4. -/
def hundredsOf (c1 c2 c4 : Bool) : BitVec 32 :=
  let OneHundreds := (if c4 then 1 else 0) ^^^ ((if c2 then 3 else 0) ^^^ ((if c1 then 7 else 0) ^^^ 0))
  if OneHundreds &&& 5 = 5 then OneHundreds ^^^ 2 else OneHundreds

theorem oneHundreds_eq (ModeA : BitVec 32) :
    oneHundreds ModeA = hundredsOf (ModeA.getLsbD 4) (ModeA.getLsbD 5) (ModeA.getLsbD 6) := by
  have hchain : flipIf ModeA 0x0040 0x001 (flipIf ModeA 0x0020 0x003 (flipIf ModeA 0x0010 0x007 0)) =
      flipIf ModeA (1#32 <<< 6) 0x001 (flipIf ModeA (1#32 <<< 5) 0x003 (flipIf ModeA (1#32 <<< 4) 0x007 0)) := rfl
  unfold oneHundreds
  rw [hchain, flipIf_bit _ _ _ (by decide), flipIf_bit _ _ _ (by decide), flipIf_bit _ _ _ (by decide)]
  rfl

/-! ### Round trips -/

/-- What a code must not have. -/
def NoOthers (a : BitVec 32) : Prop := a &&& 0xFFFF8889 = 0

/-- Every other place is that of a pulse. -/
theorem place_cases : ∀ i < 32, (0xFFFF8889 : BitVec 32).getLsbD i = true ∨ (∃ k < 8, fiveBit k = i) ∨ i = 4 ∨ i = 5 ∨ i = 6 := by
  decide

theorem fiveBit_lt {k : Nat} : fiveBit k < 32 := by
  unfold fiveBit
  split <;> decide

theorem fiveBit_injective {i k : Nat} (hi : i < 8) (hk : k < 8) (h : fiveBit i = fiveBit k) : i = k := by
  interval_cases i <;> interval_cases k <;> first | rfl | exact absurd h (by decide)

section Gillham
variable {n : Nat} (hn : n < 1280)

theorem getLsbD_five {k : Nat} (hk : k < 8) (n : Nat) : (gillham n).getLsbD (fiveBit k) = (gray (n / 5)).testBit k := by
  have hhundred : (hundredPulses (sentHundreds n)).getLsbD (fiveBit k) = false := by
    unfold hundredPulses
    interval_cases k <;> split <;> decide
  rw [gillham, BitVec.getLsbD_xor, hhundred, Bool.xor_false]
  exact getLsbD_wired _ hk fiveBit_lt fun i hi => fiveBit_injective hi hk

theorem getLsbD_other {i : Nat} (hi : ∀ k < 8, fiveBit k ≠ i) (n : Nat) :
    (gillham n).getLsbD i = (hundredPulses (sentHundreds n)).getLsbD i := by
  rw [gillham, BitVec.getLsbD_xor]
  exact (congrArg (Bool.xor · _) (getLsbD_wired_ne _ hi)).trans (Bool.false_xor _)

theorem noOthers_gillham (n : Nat) : NoOthers (gillham n) := by
  have hmask : ∀ i < 32, (0xFFFF8889 : BitVec 32).getLsbD i = true → (∀ k < 8, fiveBit k ≠ i) ∧
      ∀ s < 6, (hundredPulses s).getLsbD i = false := by
    decide
  apply BitVec.eq_of_getLsbD_eq
  intro i hi
  rw [BitVec.getLsbD_and]
  refine Eq.trans ?_ BitVec.getLsbD_zero.symm
  cases hset : (0xFFFF8889 : BitVec 32).getLsbD i with
  | false => exact Bool.and_false _
  | true =>
    obtain ⟨hfive, hhundred⟩ := hmask i hi hset
    have hsent : sentHundreds n < 6 := by
      unfold sentHundreds
      split <;> omega
    rw [getLsbD_other hfive, hhundred _ hsent]
    rfl

theorem oneHundreds_gillham (n : Nat) : oneHundreds (gillham n) = BitVec.ofNat 32 (sentHundreds n) := by
  have hother : ∀ i ∈ [4, 5, 6], ∀ k < 8, fiveBit k ≠ i := by decide
  have hall : ∀ s < 6, 0 < s → hundredsOf ((hundredPulses s).getLsbD 4) ((hundredPulses s).getLsbD 5)
      ((hundredPulses s).getLsbD 6) = BitVec.ofNat 32 s := by
    decide
  rw [oneHundreds_eq, getLsbD_other (hother 4 (by decide)), getLsbD_other (hother 5 (by decide)),
    getLsbD_other (hother 6 (by decide))]
  refine hall _ ?_ ?_
  · unfold sentHundreds
    split <;> omega
  · unfold sentHundreds
    split <;> omega

include hn

theorem fives_gillham : fives (gillham n) = gray (n / 5) := by
  have hlt : gray (n / 5) < 2 ^ 8 := gray_lt (by omega)
  apply Nat.eq_of_testBit_eq
  intro i
  by_cases hi : i < 8
  · rw [testBit_fives _ hi, getLsbD_five hi]
  · have hle : 2 ^ 8 ≤ 2 ^ i := Nat.pow_le_pow_right (by decide) (Nat.not_lt.mp hi)
    rw [Nat.testBit_lt_two_pow (Nat.lt_of_lt_of_le (fives_lt _) hle), Nat.testBit_lt_two_pow (Nat.lt_of_lt_of_le hlt hle)]

end Gillham

/-- The altitude of a code, by its two parts. -/
theorem modeC_value {a : BitVec 32} {one : Nat} (hothers : NoOthers a) (hc : a &&& 0x000000F0 ≠ 0)
    (hone : oneHundreds a = BitVec.ofNat 32 one) (hpos : 0 < one) (hle : one ≤ 5) :
    internalModeAToModeC a = ((ungray 8 (fives a) * 5 +
      (if ungray 8 (fives a) % 2 = 1 then 6 - one else one) : Nat) : Int) - 13 := by
  have hodd : fiveHundreds a &&& 1 ≠ 0 ↔ ungray 8 (fives a) % 2 = 1 := by
    rw [← toNat_fiveHundreds]
    refine (and_bit_ne_zero (fiveHundreds a) (by decide : 0 < 32)).trans ?_
    rw [← BitVec.testBit_toNat, Nat.testBit_zero, decide_eq_true_eq]
  have hsmall : ¬ BitVec.ofNat 32 one > 5 := by
    rw [gt_iff_lt, BitVec.lt_def, BitVec.toNat_ofNat, Nat.mod_eq_of_lt (by omega)]
    exact Nat.not_lt.mpr hle
  have htoNat : (if fiveHundreds a &&& 1 ≠ 0 then 6 - BitVec.ofNat 32 one else BitVec.ofNat 32 one).toNat =
      if ungray 8 (fives a) % 2 = 1 then 6 - one else one := by
    rw [if_congr hodd rfl rfl]
    interval_cases one <;> split <;> rfl
  have hallowed : ¬ (a &&& 0xFFFF8889 ≠ 0 ∨ a &&& 0x000000F0 = 0) := not_or.mpr ⟨not_not.mpr hothers, hc⟩
  rw [internalModeAToModeC_eq, if_neg hallowed, hone, if_neg hsmall, htoNat,
    toNat_fiveHundreds]
  push_cast
  rfl

/-- Without C pulses there are no hundreds. -/
theorem hundreds_of_off {a : BitVec 32} (hc : a &&& 0x000000F0 = 0) : oneHundreds a = 0 := by
  rw [oneHundreds_eq, getLsbD_of_and hc (by decide), getLsbD_of_and hc (by decide), getLsbD_of_and hc (by decide)]
  rfl

/-- One of the C pulses is on, where the only other bit of their digit is off. -/
theorem hundreds_on {a : BitVec 32} (hothers : NoOthers a) (hc : a &&& 0x000000F0 ≠ 0) :
    (a.getLsbD 4 || a.getLsbD 5 || a.getLsbD 6) = true := by
  by_contra hnone
  simp only [Bool.or_eq_true, not_or, Bool.not_eq_true] at hnone
  obtain ⟨⟨h4, h5⟩, h6⟩ := hnone
  have hcovered : ∀ i < 32, (0x000000F0 : BitVec 32).getLsbD i = true →
      i = 4 ∨ i = 5 ∨ i = 6 ∨ (0xFFFF8889 : BitVec 32).getLsbD i = true := by
    decide
  refine hc (BitVec.eq_of_getLsbD_eq fun i hi => ?_)
  rw [BitVec.getLsbD_and]
  refine Eq.trans ?_ BitVec.getLsbD_zero.symm
  cases hset : (0x000000F0 : BitVec 32).getLsbD i with
  | false => exact Bool.and_false _
  | true =>
    rw [Bool.and_true]
    rcases hcovered i hi hset with rfl | rfl | rfl | hother
    · exact h4
    · exact h5
    · exact h6
    · exact getLsbD_of_and hothers hother

/-- The C pulses of good hundreds are those that send them. -/
theorem hundredPulses_of_good (c1 c2 c4 : Bool) (hon : (c1 || c2 || c4) = true) (hgood : ¬ hundredsOf c1 c2 c4 > 5) :
    ∃ s, 0 < s ∧ s ≤ 5 ∧ (hundredPulses s).getLsbD 4 = c1 ∧ (hundredPulses s).getLsbD 5 = c2 ∧
      (hundredPulses s).getLsbD 6 = c4 := by
  revert hon hgood
  cases c1 <;> cases c2 <;> cases c4 <;> intro hon hgood
  · exact absurd hon (by decide)
  · exact ⟨1, by decide, by decide, by decide, by decide, by decide⟩
  · exact ⟨3, by decide, by decide, by decide, by decide, by decide⟩
  · exact ⟨2, by decide, by decide, by decide, by decide, by decide⟩
  · exact ⟨5, by decide, by decide, by decide, by decide, by decide⟩
  · exact absurd (by decide) hgood
  · exact ⟨4, by decide, by decide, by decide, by decide, by decide⟩
  · exact absurd (by decide) hgood

/-- The code of an altitude is decoded to it. -/
theorem modeC_gillham {n : Nat} (hn : n < 1280) : internalModeAToModeC (gillham n) = (n : Int) - 12 := by
  have hsent : 0 < sentHundreds n ∧ sentHundreds n ≤ 5 := by
    unfold sentHundreds
    split <;> omega
  have hc : gillham n &&& 0x000000F0 ≠ 0 := by
    intro hzero
    have hone := (hundreds_of_off hzero).symm.trans (oneHundreds_gillham n)
    have htoNat := congrArg BitVec.toNat hone
    rw [BitVec.toNat_ofNat, Nat.mod_eq_of_lt (by omega)] at htoNat
    exact Nat.ne_of_lt hsent.1 htoNat
  rw [modeC_value (noOthers_gillham n) hc (oneHundreds_gillham n) hsent.1 hsent.2, fives_gillham hn,
    ungray_gray (by omega)]
  unfold sentHundreds
  split <;> omega

/-- A code is known by its five hundreds and its C pulses. -/
theorem eq_gillham_of_pulses {a : BitVec 32} {n : Nat} (hothers : NoOthers a) (hfive : fives a = gray (n / 5))
    (h4 : (hundredPulses (sentHundreds n)).getLsbD 4 = a.getLsbD 4)
    (h5 : (hundredPulses (sentHundreds n)).getLsbD 5 = a.getLsbD 5)
    (h6 : (hundredPulses (sentHundreds n)).getLsbD 6 = a.getLsbD 6) : a = gillham n := by
  have hother : ∀ i ∈ [4, 5, 6], ∀ k < 8, fiveBit k ≠ i := by decide
  apply BitVec.eq_of_getLsbD_eq
  intro i hi
  obtain hmask | ⟨k, hk, rfl⟩ | hplace := place_cases i hi
  · rw [getLsbD_of_and hothers hmask, getLsbD_of_and (noOthers_gillham n) hmask]
  · rw [getLsbD_five hk, ← hfive, testBit_fives a hk]
  · rcases hplace with rfl | rfl | rfl
    · rw [getLsbD_other (hother 4 (by decide)), h4]
    · rw [getLsbD_other (hother 5 (by decide)), h5]
    · rw [getLsbD_other (hother 6 (by decide)), h6]

/-- What is decoded is the code of an altitude. -/
theorem eq_gillham {a : BitVec 32} (h : internalModeAToModeC a ≠ invalidAltitude) : ∃ n < 1280, a = gillham n := by
  rw [internalModeAToModeC_eq] at h
  split at h
  · exact absurd rfl h
  next hallowed =>
  obtain ⟨hothers, hc⟩ := not_or.mp hallowed
  rw [not_not] at hothers
  split at h
  · exact absurd rfl h
  next hle =>
  rw [oneHundreds_eq] at hle
  obtain ⟨s, hpos, hs, h4, h5, h6⟩ := hundredPulses_of_good _ _ _ (hundreds_on hothers hc) hle
  have hfive : ungray 8 (fives a) < 2 ^ 8 := ungray_lt 8 _
  obtain ⟨n, hn⟩ : ∃ n, n = ungray 8 (fives a) * 5 + ((if ungray 8 (fives a) % 2 = 1 then 6 - s else s) - 1) := ⟨_, rfl⟩
  have hdiv : n / 5 = ungray 8 (fives a) := by
    rw [hn]
    split <;> omega
  have hsent : sentHundreds n = s := by
    rw [sentHundreds, hdiv]
    split at hn
    · next hodd =>
      rw [if_pos hodd]
      omega
    · next heven =>
      rw [if_neg heven]
      omega
  refine ⟨n, ?_, eq_gillham_of_pulses hothers ?_ ?_ ?_ ?_⟩
  · rw [hn]
    split <;> omega
  · rw [hdiv, gray_ungray (fives_lt a)]
  · rw [hsent, h4]
  · rw [hsent, h5]
  · rw [hsent, h6]

/-- **Main theorem.** The codes that are decoded are those of the altitudes from -1200 to 126700 feet, each to its
altitude. -/
theorem modeC_iff (a : BitVec 32) (modeC : Int) : internalModeAToModeC a = modeC ∧ modeC ≠ invalidAltitude ↔
    ∃ n < 1280, a = gillham n ∧ modeC = (n : Int) - 12 := by
  constructor
  · intro h
    obtain ⟨rfl, hvalid⟩ := h
    obtain ⟨n, hn, rfl⟩ := eq_gillham hvalid
    exact ⟨n, hn, rfl, modeC_gillham hn⟩
  · intro h
    obtain ⟨n, hn, rfl, rfl⟩ := h
    refine ⟨modeC_gillham hn, fun hinvalid => ?_⟩
    rw [invalidAltitude] at hinvalid
    omega

/-! ### One pulse at a time -/

/-- From one number of hundreds to the next one C pulse changes. -/
theorem hundredPulses_succ : ∀ s ∈ [1, 2, 3, 4], ∃ k ∈ [4, 5, 6],
    hundredPulses s ^^^ hundredPulses (s + 1) = 1#32 <<< k := by
  decide

theorem xor_cancel_right (a b c : BitVec 32) : (a ^^^ c) ^^^ (b ^^^ c) = a ^^^ b := by
  rw [BitVec.xor_assoc, BitVec.xor_comm b c, ← BitVec.xor_assoc c, BitVec.xor_self]
  exact congrArg _ BitVec.zero_xor

/-- From each altitude to the next one pulse changes. -/
theorem gillham_succ {n : Nat} (hn : n + 1 < 1280) : ∃ k < 15, gillham n ^^^ gillham (n + 1) = 1#32 <<< k := by
  by_cases hlast : n % 5 = 4
  · -- the five hundreds change, and the hundreds turn
    have hdiv : (n + 1) / 5 = n / 5 + 1 := by omega
    have hturn : sentHundreds (n + 1) = sentHundreds n := by
      unfold sentHundreds
      split <;> split <;> omega
    obtain ⟨k, hk, hchange⟩ := wired_gray_succ fivePulse (show n / 5 + 1 < 2 ^ 8 by omega)
    refine ⟨fiveBit k, ?_, ?_⟩
    · interval_cases k <;> decide
    · rw [gillham, gillham, hdiv, hturn, xor_cancel_right, hchange]
      rfl
  · have hdiv : (n + 1) / 5 = n / 5 := by omega
    have hstep : (sentHundreds n ∈ [1, 2, 3, 4] ∧ sentHundreds (n + 1) = sentHundreds n + 1) ∨
        (sentHundreds (n + 1) ∈ [1, 2, 3, 4] ∧ sentHundreds n = sentHundreds (n + 1) + 1) := by
      simp only [List.mem_cons, List.not_mem_nil, or_false]
      unfold sentHundreds
      split <;> split <;> omega
    have hsame : gillham n ^^^ gillham (n + 1) =
        hundredPulses (sentHundreds n) ^^^ hundredPulses (sentHundreds (n + 1)) := by
      rw [gillham, gillham, hdiv, BitVec.xor_comm _ (hundredPulses (sentHundreds n)),
        BitVec.xor_comm _ (hundredPulses (sentHundreds (n + 1))), xor_cancel_right]
    have hplaces : ∀ k ∈ [4, 5, 6], k < 15 := by decide
    obtain ⟨hmem, hnext⟩ | ⟨hmem, hnext⟩ := hstep
    · obtain ⟨k, hk, hchange⟩ := hundredPulses_succ _ hmem
      exact ⟨k, hplaces k hk, by rw [hsame, hnext, hchange]⟩
    · obtain ⟨k, hk, hchange⟩ := hundredPulses_succ _ hmem
      exact ⟨k, hplaces k hk, by rw [hsame, hnext, BitVec.xor_comm, hchange]⟩

/-- **Main theorem.** Two codes that are decoded to neighbouring altitudes differ in one pulse. -/
theorem modeC_succ {a b : BitVec 32} (hnext : internalModeAToModeC b = internalModeAToModeC a + 1) :
    ∃ k < 15, a ^^^ b = 1#32 <<< k := by
  have hlow : ∀ c, internalModeAToModeC c ≠ invalidAltitude → -12 ≤ internalModeAToModeC c := by
    intro c hvalid
    obtain ⟨n, hn, rfl⟩ := eq_gillham hvalid
    rw [modeC_gillham hn]
    omega
  have hinvalid : invalidAltitude = -9999 := rfl
  have ha : internalModeAToModeC a ≠ invalidAltitude := fun h => by
    have hb := hlow b (by omega)
    omega
  have hb : internalModeAToModeC b ≠ invalidAltitude := fun h => by
    have ha := hlow a ha
    omega
  obtain ⟨n, hn, rfl⟩ := eq_gillham ha
  obtain ⟨m, hm, rfl⟩ := eq_gillham hb
  rw [modeC_gillham hn, modeC_gillham hm] at hnext
  obtain rfl : m = n + 1 := by omega
  exact gillham_succ hm

/-- From -800 to -700 feet the five hundreds change, and the hundreds turn. -/
theorem modeC_succ_turn : internalModeAToModeC 0x0410 = internalModeAToModeC 0x0010 + 1 ∧
    ∃ k < 15, (0x0010 : BitVec 32) ^^^ 0x0410 = 1#32 <<< k :=
  ⟨by decide, modeC_succ (by decide)⟩

end RbFeeder.ModeS
