import RbFeeder.Demod.Reading
import RbFeeder.ModeS.Remainder

/-! The signal of a transponder, as the demodulator sees it.

A message is a preamble of four pulses and then one pulse a bit, in the first or in the
second half of the bit. With five ticks a sample and six ticks a pulse, a sample of a clean
signal is a floor and one step for each of its ticks that is in a pulse (`ticks`). `Heard`
allows every sample a noise of less than one step, a fifth of the height of a pulse.

At the phase of the message, the slices are the message (`Heard.sliceMessage`); and if the
floor is not higher than three steps, the preamble is found (`Heard.isPreamble`). -/
namespace RbFeeder.Demod
open ModeS
open Sdr (Sample)

/-! ### Pulses -/

/-- Whether the transmitter is on, `t` ticks after the start of a message: pulses at 0, 1,
3.5 and 4.5 μs, and the bits from 8 μs on. -/
def pulse (frame : List Byte) (t : Nat) : Bool :=
  if t < 96 then decide (t / 6 ∈ [0, 2, 7, 9])
  else decide ((t - 96) / 12 < 8 * frame.length) && (decide ((t - 96) % 12 < 6) == bitAt frame ((t - 96) / 12))

/-- One in the ticks of a pulse of a message that starts at a tick. -/
def onAir (frame : List Byte) (start t : Nat) : Nat := if start ≤ t ∧ pulse frame (t - start) then 1 else 0

/-- How many ticks of a sample are in a pulse. -/
def ticks (frame : List Byte) (start k : Nat) : Nat :=
  onAir frame start (5 * k) + onAir frame start (5 * k + 1) + onAir frame start (5 * k + 2) +
    onAir frame start (5 * k + 3) + onAir frame start (5 * k + 4)

/-- Where a message starts that is found at a sample, at a phase: its first bit is 96 ticks later. -/
def startTick (j try_phase : Nat) : Nat := 5 * j + try_phase - 1

/-- From a sample to the end of a message that starts there, nothing else is on the air. -/
structure Heard (m : Nat → Sample) (j try_phase : Nat) (frame : List Byte) (base step : Nat) : Prop where
  near : ∀ k, j ≤ k → 5 * k < startTick j try_phase + 96 + 96 * frame.length →
    base + step * ticks frame (startTick j try_phase) k < (m k).toNat + step ∧
      (m k).toNat < base + step * ticks frame (startTick j try_phase) k + step

theorem onAir_le_one (frame : List Byte) (start t : Nat) : onAir frame start t ≤ 1 := by
  unfold onAir
  split <;> decide

/-- The two halves of a bit. -/
theorem onAir_symbol {frame : List Byte} {i u : Nat} (hi : i < 8 * frame.length) (hu : u < 12) (start : Nat) :
    onAir frame start (start + 96 + 12 * i + u) = if decide (u < 6) = bitAt frame i then 1 else 0 := by
  have hage : start + 96 + 12 * i + u - start = 96 + 12 * i + u := by omega
  have hsymbol : (96 + 12 * i + u - 96) / 12 = i := by omega
  have hplace : (96 + 12 * i + u - 96) % 12 = u := by omega
  have hdata : ¬ 96 + 12 * i + u < 96 := by omega
  rw [onAir, hage, pulse, if_neg hdata, hsymbol, hplace, decide_eq_true hi, Bool.true_and]
  simp [show start ≤ start + 96 + 12 * i + u by omega]

/-! ### Bits -/

/-- A correlation function tells the two kinds of symbol apart, whatever is next to it. `y` is what each tick
adds, from the first sample of the symbol on. -/
theorem slicePhase_sign {p : Nat} (base step : Nat) (hp : p < 5) {m : Nat → Sample} {q : Nat} (y : Nat → Nat) {b : Bool}
    (hle : ∀ t, y t ≤ step) (hsymbol : ∀ u < 12, y (p + u) = if decide (u < 6) = b then step else 0)
    (hnear : ∀ k, 5 * k < p + 12 →
      base + (y (5 * k) + y (5 * k + 1) + y (5 * k + 2) + y (5 * k + 3) + y (5 * k + 4)) <
          (m (q + k)).toNat + step ∧
        (m (q + k)).toNat <
          base + (y (5 * k) + y (5 * k + 1) + y (5 * k + 2) + y (5 * k + 3) + y (5 * k + 4)) + step) :
    ∃ v, slicePhase p (View.into m q) = some v ∧ (0 < v ↔ b = true) := by
  have hbound : ∀ t < 20, y t ≤ step := fun t _ => hle t
  have h0 := hnear 0
  have h1 := hnear 1
  have h2 := hnear 2
  have h3 := hnear 3
  simp only [Nat.forall_lt_succ_left, Nat.not_lt_zero, IsEmpty.forall_iff, implies_true, and_true, Nat.reduceMul,
    Nat.reduceAdd] at hsymbol hbound h0 h1 h2 h3
  interval_cases p <;> refine ⟨_, rfl, ?_⟩ <;> cases b
  all_goals
    simp only [level]
    simp at hsymbol h0 h1 h2 h3 ⊢
    omega

section Heard
variable {m : Nat → Sample} {j try_phase base step : Nat} {frame : List Byte}

/-- Each symbol has the sign of its bit. -/
theorem Heard.slicePhase (h : Heard m j try_phase frame base step) (hphase : 0 < try_phase) {i : Nat}
    (hi : i < 8 * frame.length) :
    ∃ v, slicePhase ((try_phase + 12 * i) % 5) (View.into m (j + 19 + (try_phase + 12 * i) / 5)) = some v ∧
      (0 < v ↔ bitAt frame i = true) := by
  generalize hp : (try_phase + 12 * i) % 5 = p
  generalize hq : j + 19 + (try_phase + 12 * i) / 5 = q
  have hstart : startTick j try_phase + 96 + 12 * i = 5 * q + p := by
    unfold startTick
    omega
  refine slicePhase_sign base step (by omega) (fun t => step * onAir frame (startTick j try_phase) (5 * q + t))
    (fun t => ?_) (fun u hu => ?_) fun k hk => ?_
  · exact mul_le_of_le_one_right (Nat.zero_le _) (onAir_le_one ..)
  · have hon := onAir_symbol hi hu (startTick j try_phase)
    rw [hstart] at hon
    rw [← Nat.add_assoc, hon]
    split <;> simp
  · have hnear := h.near (q + k) (by omega) (by omega)
    simp only [ticks, Nat.mul_add, Nat.add_assoc] at hnear ⊢
    exact hnear

/-- **Main theorem.** What is sliced at the phase of a message is the message. -/
theorem Heard.sliceMessage (h : Heard m j try_phase frame base step) (hphase : 0 < try_phase) {sets : Bitsets}
    (hlength : frame.length = sets.bytelen (byteAt frame 0)) :
    sliceMessage sets try_phase (View.into m j) = some frame := by
  obtain ⟨bytes, hbytes, -, hlen, hbits, -⟩ := slicing_exact sets m j try_phase
  have hbit : ∀ i < 8 * bytes.length, i < 8 * frame.length → bitAt bytes i = bitAt frame i := by
    intro i hi hi'
    obtain ⟨v, hv, hsign⟩ := h.slicePhase hphase hi'
    rw [Bool.eq_iff_iff, hbits i hi, ← hsign]
    constructor
    · intro hpositive
      obtain ⟨v', hv', hpos⟩ := hpositive
      rw [hv] at hv'
      exact Option.some.inj hv' ▸ hpos
    · exact fun hpos => ⟨v, hv, hpos⟩
  have hpos := bytelen_pos sets (byteAt frame 0)
  have hpos' := bytelen_pos sets (byteAt bytes 0)
  -- the first byte decides the length
  have hfirst : byteAt bytes 0 = byteAt frame 0 := by
    apply BitVec.eq_of_getLsbD_eq
    intro n hn
    have hsame := hbit (7 - n) (by omega) (by omega)
    rwa [bitAt, bitAt, show (7 - n) / 8 = 0 by omega, show 7 - (7 - n) % 8 = n by omega] at hsame
  have hsame : bytes.length = frame.length := by rw [hlen, hfirst, ← hlength]
  rw [hbytes, eq_of_bitAt hsame fun i hi => hbit i (hsame ▸ hi) hi]

end Heard

/-! ### Preambles -/

/-- The preamble is the same for all messages. -/
theorem ticks_preamble (frame : List Byte) {j try_phase k : Nat} (hphase : 4 ≤ try_phase) (hk : k < 19) :
    ticks frame (startTick j try_phase) (j + k) = ticks [] (try_phase - 1) k := by
  have hon : ∀ i < 5, onAir frame (startTick j try_phase) (5 * (j + k) + i) = onAir [] (try_phase - 1) (5 * k + i) := by
    intro i hi
    have hstarted : startTick j try_phase ≤ 5 * (j + k) + i ↔ try_phase - 1 ≤ 5 * k + i := by
      unfold startTick
      omega
    have hage : 5 * (j + k) + i - startTick j try_phase = 5 * k + i - (try_phase - 1) := by
      unfold startTick
      omega
    have hearly : 5 * k + i - (try_phase - 1) < 96 := by omega
    simp only [onAir, hstarted, hage, pulse, if_pos hearly]
  have hfirst := hon 0 (by decide)
  rw [Nat.add_zero, Nat.add_zero] at hfirst
  simp only [ticks, hfirst, hon 1 (by decide), hon 2 (by decide), hon 3 (by decide), hon 4 (by decide)]

/-- The levels of the 19 samples of a preamble, by phase. -/
def preambleLevels : Nat → List Nat
  | 4 => [2, 4, 0, 5, 1, 0, 0, 0, 0, 5, 1, 3, 3, 0, 0, 0, 0, 0, 0]
  | 5 => [1, 5, 0, 4, 2, 0, 0, 0, 0, 4, 2, 2, 4, 0, 0, 0, 0, 0, 0]
  | 6 => [0, 5, 1, 3, 3, 0, 0, 0, 0, 3, 3, 1, 5, 0, 0, 0, 0, 0, 0]
  | 7 => [0, 4, 2, 2, 4, 0, 0, 0, 0, 2, 4, 0, 5, 1, 0, 0, 0, 0, 0]
  | _ => [0, 3, 3, 1, 5, 0, 0, 0, 0, 1, 5, 0, 4, 2, 0, 0, 0, 0, 0]

theorem preambleLevels_eq : ∀ try_phase ∈ [4, 5, 6, 7, 8], ∀ k < 19,
    (preambleLevels try_phase).getD k 0 = ticks [] (try_phase - 1) k := by
  decide

/-- Samples at these levels above the floor, in steps, with less than a step of noise. -/
def Near (base step : Nat) (p : Nat → Nat) (levels : List Nat) : Prop :=
  ∀ k < 19, base + step * levels.getD k 0 < p k + step ∧ p k < base + step * levels.getD k 0 + step

section Near
variable {base step : Nat} {p : Nat → Nat}

theorem isPreamble_of_peaks {high base_signal base_noise : Nat} (h : peaks p = some ⟨high, base_signal, base_noise⟩)
    (hquiet : ∀ k ∈ [5, 6, 7, 8, 14, 15, 16, 17, 18], p k < base + step) (hhigh : base + step ≤ high)
    (hsignal : 3 * base_noise ≤ base_signal * 2) : isPreamble p = true := by
  rw [isPreamble, h]
  dsimp only
  rw [decide_eq_false (Nat.not_lt.mpr hsignal), Bool.not_false, Bool.true_and, List.all_eq_true]
  intro k hk
  have hlt : ¬ p k ≥ high := Nat.not_le.mpr (Nat.lt_of_lt_of_le (hquiet k hk) hhigh)
  rw [decide_eq_false hlt, Bool.not_false]

/-! The patterns of `peaks`, each with what it takes to be a preamble. -/

theorem first_pattern (hrise : p 0 < p 1 ∧ p 12 > p 13)
    (h : p 1 > p 2 ∧ p 2 < p 3 ∧ p 3 > p 4 ∧ p 8 < p 9 ∧ p 9 > p 10 ∧ p 10 < p 11)
    (hquiet : ∀ k ∈ [5, 6, 7, 8, 14, 15, 16, 17, 18], p k < base + step)
    (hhigh : (base + step) * 4 ≤ p 1 + p 3 + p 9 + p 11 + p 12)
    (hsignal : 3 * (p 5 + p 6 + p 7) ≤ (p 1 + p 3 + p 9) * 2) : isPreamble p = true := by
  refine isPreamble_of_peaks ?_ hquiet ((Nat.le_div_iff_mul_le (by decide)).mpr hhigh) hsignal
  rw [peaks, if_neg (not_not.mpr hrise), if_pos h]

theorem second_pattern (hrise : p 0 < p 1 ∧ p 12 > p 13)
    (h : p 1 > p 2 ∧ p 2 < p 3 ∧ p 3 > p 4 ∧ p 8 < p 9 ∧ p 9 > p 10 ∧ ¬ p 10 < p 11 ∧ p 11 < p 12)
    (hquiet : ∀ k ∈ [5, 6, 7, 8, 14, 15, 16, 17, 18], p k < base + step)
    (hhigh : (base + step) * 4 ≤ p 1 + p 3 + p 9 + p 12)
    (hsignal : 3 * (p 5 + p 6 + p 7 + p 8) ≤ (p 1 + p 3 + p 9 + p 12) * 2) : isPreamble p = true := by
  refine isPreamble_of_peaks ?_ hquiet ((Nat.le_div_iff_mul_le (by decide)).mpr hhigh) hsignal
  rw [peaks, if_neg (not_not.mpr hrise), if_neg (by omega), if_pos (by omega)]

theorem third_pattern (hrise : p 0 < p 1 ∧ p 12 > p 13)
    (h : p 1 > p 2 ∧ p 2 < p 3 ∧ ¬ (p 3 > p 4 ∧ p 9 > p 10) ∧ p 4 > p 5 ∧ p 8 < p 9 ∧ p 10 > p 11 ∧ p 11 < p 12)
    (hquiet : ∀ k ∈ [5, 6, 7, 8, 14, 15, 16, 17, 18], p k < base + step)
    (hhigh : (base + step) * 4 ≤ p 1 + p 3 + p 4 + p 9 + p 10 + p 12)
    (hsignal : 3 * (p 6 + p 7) ≤ (p 1 + p 12) * 2) : isPreamble p = true := by
  refine isPreamble_of_peaks ?_ hquiet ((Nat.le_div_iff_mul_le (by decide)).mpr hhigh) hsignal
  rw [peaks, if_neg (not_not.mpr hrise), if_neg (by omega), if_neg (by omega), if_pos (by omega)]

theorem fourth_pattern (hrise : p 0 < p 1 ∧ p 12 > p 13)
    (h : p 1 > p 2 ∧ ¬ p 2 < p 3 ∧ p 3 < p 4 ∧ p 4 > p 5 ∧ p 9 < p 10 ∧ p 10 > p 11 ∧ p 11 < p 12)
    (hquiet : ∀ k ∈ [5, 6, 7, 8, 14, 15, 16, 17, 18], p k < base + step)
    (hhigh : (base + step) * 4 ≤ p 1 + p 4 + p 10 + p 12)
    (hsignal : 3 * (p 5 + p 6 + p 7 + p 8) ≤ (p 1 + p 4 + p 10 + p 12) * 2) : isPreamble p = true := by
  refine isPreamble_of_peaks ?_ hquiet ((Nat.le_div_iff_mul_le (by decide)).mpr hhigh) hsignal
  rw [peaks, if_neg (not_not.mpr hrise), if_neg (by omega), if_neg (by omega), if_neg (by omega), if_pos (by omega)]

theorem fifth_pattern (hrise : p 0 < p 1 ∧ p 12 > p 13)
    (h : ¬ p 1 > p 2 ∧ p 2 > p 3 ∧ p 3 < p 4 ∧ p 4 > p 5 ∧ p 9 < p 10 ∧ p 10 > p 11 ∧ p 11 < p 12)
    (hquiet : ∀ k ∈ [5, 6, 7, 8, 14, 15, 16, 17, 18], p k < base + step)
    (hhigh : (base + step) * 4 ≤ p 1 + p 2 + p 4 + p 10 + p 12)
    (hsignal : 3 * (p 6 + p 7 + p 8) ≤ (p 4 + p 10 + p 12) * 2) : isPreamble p = true := by
  refine isPreamble_of_peaks ?_ hquiet ((Nat.le_div_iff_mul_le (by decide)).mpr hhigh) hsignal
  rw [peaks, if_neg (not_not.mpr hrise), if_neg (by omega), if_neg (by omega), if_neg (by omega), if_neg (by omega),
    if_pos (by omega)]

theorem Near.quiet {levels : List Nat} (h : Near base step p levels) {k : Nat} (hk : k < 19)
    (hlevel : levels.getD k 0 = 0) : p k < base + step := by
  have hnear := (h k hk).2
  rwa [hlevel, Nat.mul_zero, Nat.add_zero] at hnear

/-- At every phase one of the patterns fits; which one can depend on the noise where two levels are the same. -/
theorem isPreamble_of_near {try_phase : Nat} (hphase : try_phase ∈ [4, 5, 6, 7, 8]) (hbase : base ≤ 3 * step)
    (h : Near base step p (preambleLevels try_phase)) : isPreamble p = true := by
  have hquiet : ∀ k ∈ [5, 6, 7, 8, 14, 15, 16, 17, 18], p k < base + step := by
    intro k hk
    have hzero : ∀ t ∈ [4, 5, 6, 7, 8], ∀ k ∈ [5, 6, 7, 8, 14, 15, 16, 17, 18],
        k < 19 ∧ (preambleLevels t).getD k 0 = 0 := by decide
    obtain ⟨hlt, hlevel⟩ := hzero try_phase hphase k hk
    exact h.quiet hlt hlevel
  simp only [List.mem_cons, List.not_mem_nil, or_false] at hphase
  rcases hphase with rfl | rfl | rfl | rfl | rfl
  all_goals
    simp only [Near, preambleLevels, Nat.forall_lt_succ_left, Nat.not_lt_zero, IsEmpty.forall_iff, implies_true,
      and_true, Nat.reduceAdd, List.getD_cons_zero, List.getD_cons_succ] at h
  · exact first_pattern (by omega) (by omega) hquiet (by omega) (by omega)
  · by_cases htie : p 10 < p 11
    · exact first_pattern (by omega) (by omega) hquiet (by omega) (by omega)
    · exact second_pattern (by omega) (by omega) hquiet (by omega) (by omega)
  · by_cases htie : p 3 > p 4 ∧ p 9 > p 10
    · exact second_pattern (by omega) (by omega) hquiet (by omega) (by omega)
    · exact third_pattern (by omega) (by omega) hquiet (by omega) (by omega)
  · by_cases htie : p 2 < p 3
    · exact third_pattern (by omega) (by omega) hquiet (by omega) (by omega)
    · exact fourth_pattern (by omega) (by omega) hquiet (by omega) (by omega)
  · by_cases htie : p 1 > p 2
    · exact fourth_pattern (by omega) (by omega) hquiet (by omega) (by omega)
    · exact fifth_pattern (by omega) (by omega) hquiet (by omega) (by omega)

end Near

theorem readSamples_into (m : Nat → Sample) (j n : Nat) :
    readSamples (View.into m j) n = some ((List.range n).map fun k => m (j + k)) :=
  mapM_some fun _ _ => rfl

/-- **Main theorem.** The preamble of a message is found, at each of the five phases. -/
theorem Heard.isPreamble {m : Nat → Sample} {j try_phase base step : Nat} {frame : List Byte}
    (h : Heard m j try_phase frame base step) (hphase : try_phase ∈ [4, 5, 6, 7, 8]) (hbase : base ≤ 3 * step)
    {preamble : List Sample} (hread : readSamples (View.into m j) 19 = some preamble) :
    isPreamble (fun k => (preamble.getD k 0).toNat) = true := by
  have hfour : 4 ≤ try_phase := by
    simp only [List.mem_cons, List.not_mem_nil, or_false] at hphase
    omega
  rw [readSamples_into] at hread
  obtain rfl := Option.some.inj hread
  refine isPreamble_of_near hphase hbase fun k hk => ?_
  have hnear := h.near (j + k) (by omega) (by unfold startTick; omega)
  rw [ticks_preamble frame hfour hk, ← preambleLevels_eq try_phase hphase k hk] at hnear
  have hsample : ((List.range 19).map fun k => m (j + k)).getD k 0 = m (j + k) := by
    rw [List.getD_eq_getElem _ _ (by simpa using hk), List.getElem_map, List.getElem_range]
  rwa [hsample]

/-! ### A message on a quiet channel -/

/-- A message alone, in samples of one per tick. -/
def alone (frame : List Byte) (start : Nat) : Nat → Sample := fun k => BitVec.ofNat 16 (ticks frame start k)

theorem ticks_le (frame : List Byte) (start k : Nat) : ticks frame start k ≤ 5 := by
  have hon := onAir_le_one frame start
  exact Nat.add_le_add (Nat.add_le_add (Nat.add_le_add (Nat.add_le_add (hon _) (hon _)) (hon _)) (hon _)) (hon _)

theorem heard_alone (frame : List Byte) (j try_phase : Nat) :
    Heard (alone frame (startTick j try_phase)) j try_phase frame 0 1 := by
  refine ⟨fun k _ _ => ?_⟩
  have hle := ticks_le frame (startTick j try_phase) k
  rw [alone, BitVec.toNat_ofNat, Nat.mod_eq_of_lt (by omega)]
  omega

/-- A reply to an all-call interrogation. -/
def allCallReply : List Byte := [0x5d, 0x48, 0x40, 0xd6, 0xf8, 0x74, 0x0f]

theorem bytelen_allCallReply : allCallReply.length = (init_bitsets plainModes).bytelen (byteAt allCallReply 0) := by
  decide +kernel

theorem sliceMessage_alone :
    sliceMessage (init_bitsets plainModes) 4 (View.into (alone allCallReply (startTick 0 4)) 0) = some allCallReply :=
  (heard_alone allCallReply 0 4).sliceMessage (by decide) bytelen_allCallReply

theorem isPreamble_alone :
    isPreamble (fun k => (((List.range 19).map fun k => alone allCallReply (startTick 0 4) (0 + k)).getD k 0).toNat) =
      true :=
  (heard_alone allCallReply 0 4).isPreamble (by decide) (by decide) (readSamples_into _ 0 19)

end RbFeeder.Demod
