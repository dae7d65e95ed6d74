import RbFeeder.Demod.ModeAC
import RbFeeder.Lib.ShiftRegister

/-! Mode A/C replies, from the air to the messages.

A reply is a row of pulses of 27 ticks, 87 ticks apart, and each tick of 60 MHz adds the
same to its sample. A sample is 25 ticks long, so a pulse fills two of them; where it is
estimated up to five ticks off it still fills more than half of one of the two samples
that are looked at, and less than a third of the third one. With thresholds between, the
slices are the places (`Replied.sliceBit`), and the reply is received (`Replied.replyAt`),
unless one from in front of it hides it (`demodulate2400AC_hears`). -/
namespace RbFeeder.Demod
open ModeS (setIf)
open Sdr (Sample Block)
open ShiftRegister

/-! ### Places -/

/-- The bits of a code, by the places they have in a row of slices. -/
def replyPlaces : List (Nat × Nat) :=
  [(18, 4), (17, 12), (16, 5), (15, 13), (14, 6), (13, 14), (11, 8), (10, 0), (9, 9), (8, 1), (7, 10), (6, 2), (2, 7)]

theorem replyBits_eq : replyBits = replyPlaces.map fun p => (1#32 <<< p.1, 1#32 <<< p.2) := by decide

theorem setIf_place (field code : BitVec 32) (i j : Nat) :
    setIf field (1#32 <<< i) (1#32 <<< j) code = if field.getLsbD i then code ||| 1#32 <<< j else code := by
  unfold setIf
  refine if_congr ?_ rfl rfl
  rw [← BitVec.twoPow_eq, BitVec.and_twoPow]
  split
  · next hset =>
    refine iff_of_true (fun hzero => ?_) hset
    have hbit : (BitVec.twoPow 32 i).getLsbD i = (0#32).getLsbD i := congrArg (fun x => x.getLsbD i) hzero
    have hlt : i < 32 := BitVec.lt_of_getLsbD hset
    rw [BitVec.getLsbD_twoPow, BitVec.getLsbD_zero, decide_eq_true hlt, decide_eq_true rfl] at hbit
    cases hbit
  · next hclear => exact iff_of_false (fun h => h rfl) hclear

theorem modeacOf_eq (bits : BitVec 32) : modeacOf bits = wire replyPlaces bits 0 := by
  rw [modeacOf, replyBits_eq, List.foldl_map, wire]
  simp only [setIf_place]

/-- A row of slices that says a code. -/
def sentBits (code : BitVec 32) : BitVec 32 := wire (replyPlaces.map Prod.swap) code 0x80020

/-- Whether there is a pulse at a place. -/
def place (code : BitVec 32) (i : Nat) : Bool := (sentBits code).getLsbD (19 - i)

theorem getLsbD_sentBits (code : BitVec 32) {i : Nat} (hi : i < 32) (hfree : ∀ p ∈ replyPlaces, p.1 ≠ i) :
    (sentBits code).getLsbD i = (0x80020#32).getLsbD i := by
  rw [sentBits, getLsbD_wire _ _ _ hi, List.any_map]
  have hnone : replyPlaces.any ((fun p => decide (p.2 = i) && code.getLsbD p.1) ∘ Prod.swap) = false := by
    refine List.any_eq_false.mpr fun p hp hset => ?_
    simp only [Function.comp_apply, Prod.fst_swap, Prod.snd_swap, Bool.and_eq_true, decide_eq_true_eq] at hset
    exact hfree p hp hset.1
  rw [hnone, Bool.or_false]
  rfl

/-- The framing bits are on and the quiet bits are off, whatever the code. -/
theorem sentBits_and (mask : BitVec 32) (hmask : ∀ i < 32, mask.getLsbD i = true → ∀ p ∈ replyPlaces, p.1 ≠ i)
    (code : BitVec 32) : sentBits code &&& mask = 0x80020#32 &&& mask := by
  apply BitVec.eq_of_getLsbD_eq
  intro i hi
  rw [BitVec.getLsbD_and, BitVec.getLsbD_and]
  cases hbit : mask.getLsbD i with
  | true => rw [getLsbD_sentBits code hi (hmask i hi hbit)]
  | false => rw [Bool.and_false, Bool.and_false]

theorem modeacOf_sentBits {code : BitVec 32} (hcode : code &&& 0x77F7 = code) : modeacOf (sentBits code) = code := by
  rw [modeacOf_eq, sentBits]
  refine wire_swap (by decide) (by decide) (by decide) fun i hi hset => ?_
  rw [← hcode, BitVec.getLsbD_and, Bool.and_eq_true] at hset
  have hknown : ∀ i < 32, (0x77F7#32).getLsbD i = true → ∃ p ∈ replyPlaces, p.2 = i := by decide
  exact hknown i hi hset.2

theorem shiftIns_place (code : BitVec 32) : shiftIns (place code) 20 = sentBits code := by
  apply BitVec.eq_of_getLsbD_eq
  intro i hi
  rw [getLsbD_shiftIns _ (by decide)]
  by_cases hlt : i < 20
  · rw [decide_eq_true hlt, Bool.true_and, place]
    congr 1
    omega
  · have hfree : ∀ i < 32, ¬ i < 20 → (∀ p ∈ replyPlaces, p.1 ≠ i) ∧ (0x80020#32).getLsbD i = false := by decide
    obtain ⟨hplaces, hoff⟩ := hfree i hi hlt
    rw [decide_eq_false hlt, Bool.false_and, getLsbD_sentBits code hi hplaces, hoff]

theorem accepted_sent {code : BitVec 32} (hcode : code &&& 0x77F7 = code) :
    accepted ⟨shiftIns (place code) 20, 0, 0⟩ = some code := by
  have hframing := sentBits_and 0x80020 (by decide) code
  have hquiet := sentBits_and 0x0101B (by decide) code
  rw [accepted]
  dsimp only
  rw [shiftIns_place, if_neg (by rw [hframing]; decide), if_neg (by rw [hquiet]; decide), if_neg (by decide),
    modeacOf_sentBits hcode]

/-! ### On the air -/

/-- Whether the reply is on at a tick of 60 MHz, and F1 starts at `start`. -/
def replyOnAir (code : BitVec 32) (start t : Nat) : Nat :=
  if start ≤ t ∧ (t - start) % 87 < 27 ∧ (t - start) / 87 < 20 ∧ place code ((t - start) / 87) then 1 else 0

/-- The ticks of a sample at which it is on. -/
def replyTicks (code : BitVec 32) (start k : Nat) : Nat :=
  ((List.range 25).map fun u => replyOnAir code start (25 * k + u)).sum

/-- The numbers of a range that lie in an interval. -/
theorem sum_between (n lo hi : Nat) :
    ((List.range n).map fun u => if lo ≤ u ∧ u < hi then 1 else 0).sum = min n hi - lo := by
  induction n with
  | zero => simp
  | succ n ih =>
    rw [List.range_succ, List.map_append, List.sum_append, ih]
    simp only [List.map_cons, List.map_nil, List.sum_cons, List.sum_nil]
    split <;> omega

/-- Around a place there are no other pulses. -/
theorem replyOnAir_place (code : BitVec 32) {start i t : Nat} (hi : i < 20) (hfront : start + 87 * i ≤ t + 60)
    (hbehind : t < start + 87 * i + 87) :
    replyOnAir code start t =
      if place code i then if start + 87 * i ≤ t ∧ t < start + 87 * i + 27 then 1 else 0 else 0 := by
  rw [← ite_and, replyOnAir]
  refine if_congr ?_ rfl rfl
  by_cases hlate : start + 87 * i ≤ t
  · have hplace : (t - start) / 87 = i := by omega
    rw [hplace]
    constructor
    · intro h
      exact ⟨h.2.2.2, hlate, by omega⟩
    · intro h
      exact ⟨by omega, by omega, hi, h.1⟩
  · exact iff_of_false (fun h => by omega) fun h => hlate h.2.1

theorem replyTicks_place (code : BitVec 32) {start i k : Nat} (hi : i < 20) (hfront : start + 87 * i ≤ 25 * k + 60)
    (hbehind : 25 * k + 25 ≤ start + 87 * i + 87) :
    replyTicks code start k =
      if place code i then min 25 (start + 87 * i + 27 - 25 * k) - (start + 87 * i - 25 * k) else 0 := by
  have hticks : ∀ u ∈ List.range 25, replyOnAir code start (25 * k + u) =
      if place code i then if start + 87 * i - 25 * k ≤ u ∧ u < start + 87 * i + 27 - 25 * k then 1 else 0
        else 0 := by
    intro u hu
    have hlt := List.mem_range.mp hu
    rw [replyOnAir_place code hi (by omega) (by omega)]
    exact if_congr Iff.rfl (if_congr (by omega) rfl rfl) rfl
  rw [replyTicks, List.map_congr_left hticks]
  split
  · exact sum_between 25 _ _
  · decide

/-! ### Samples -/

/-- The samples of a reply whose F1 starts `d` ticks into a sample: each tick adds `step` to `base`, and what else there
is adds or takes less than `step`. Neither F1 nor F2 reaches a third sample. -/
structure Replied (m : Nat → Sample) (code : BitVec 32) (f1_sample d base step : Nat) : Prop where
  sent : code &&& 0x77F7 = code
  f1 : d ≤ 23
  f2 : (d + 18) % 25 ≤ 23
  near : ∀ k, f1_sample ≤ k + 1 → k < f1_sample + 70 →
    base + step * replyTicks code (25 * f1_sample + d) k < (m k).toNat + step ∧
      (m k).toNat < base + step * replyTicks code (25 * f1_sample + d) k + step

/-- What is estimated from these samples: the clock at most five ticks off, the right sample for F2, and thresholds
between the pulses and what is next to them. -/
structure Measured (floats : Floats) (noise_level : BitVec 32) (m : Nat → Sample) (f1_sample d base step : Nat) :
    Prop where
  early : 25 * f1_sample + d ≤ floats.f1_clock f1_sample (m f1_sample) (m (f1_sample + 1)) + 5
  late : floats.f1_clock f1_sample (m f1_sample) (m (f1_sample + 1)) ≤ 25 * f1_sample + d + 5
  f2 : (floats.f1_clock f1_sample (m f1_sample) (m (f1_sample + 1)) + 87 * 14) / 25 =
    (25 * f1_sample + d + 87 * 14) / 25
  strong : (noise_level * 2).toNat ≤ base + 12 * step
  signal : ∀ level, base + 12 * step ≤ level → level ≤ base + 15 * step →
    base + 7 * step ≤ floats.signal_threshold (noise_level * BitVec.ofNat 32 level) ∧
      floats.signal_threshold (noise_level * BitVec.ofNat 32 level) ≤ base + 13 * step
  noise : ∀ level, base + 12 * step ≤ level → level ≤ base + 15 * step →
    base + step ≤ floats.noise_threshold (noise_level * BitVec.ofNat 32 level)

section Replied
variable {floats : Floats} {noise_level : BitVec 32} {m : Nat → Sample} {code : BitVec 32}
  {f1_sample d base step : Nat} {p : View}

theorem place_framing (code : BitVec 32) : place code 0 = true ∧ place code 14 = true :=
  ⟨getLsbD_sentBits code (by decide) (by decide), getLsbD_sentBits code (by decide) (by decide)⟩

/-- A pulse passes the tests on a framing pulse at its sample. -/
theorem Replied.framing (h : Replied m code f1_sample d base step) (hp : p.Agree (View.into m 0) (f1_sample + 70))
    (hstrong : (noise_level * 2).toNat ≤ base + 12 * step) {i k e : Nat} (hi : i < 20) (hon : place code i = true)
    (hk : 25 * f1_sample + d + 87 * i = 25 * k + e) (he : e ≤ 23) (hfirst : 1 ≤ f1_sample) (hfront : f1_sample ≤ k)
    (hbehind : k + 3 ≤ f1_sample + 70) :
    ∃ level, framing noise_level p k = some (some level) ∧ base + 12 * step ≤ level ∧ level ≤ base + 15 * step := by
  have hread : ∀ j, j < f1_sample + 70 → p j = some (m j) := fun j hj => by
    rw [hp j hj, View.into, Nat.zero_add]
  have hticks : ∀ j, 25 * k ≤ 25 * j + 25 → j < k + 3 → replyTicks code (25 * f1_sample + d) j =
      min 25 (25 * k + e + 27 - 25 * j) - (25 * k + e - 25 * j) := by
    intro j hj hlt
    rw [replyTicks_place code hi (by omega) (by omega), if_pos hon, hk]
  have hbefore := h.near (k - 1) (by omega) (by omega)
  have hone := h.near k (by omega) (by omega)
  have htwo := h.near (k + 1) (by omega) (by omega)
  have hthree := h.near (k + 2) (by omega) (by omega)
  rw [hticks (k - 1) (by omega) (by omega),
    show min 25 (25 * k + e + 27 - 25 * (k - 1)) - (25 * k + e - 25 * (k - 1)) = 0 by omega] at hbefore
  rw [hticks k (by omega) (by omega),
    show min 25 (25 * k + e + 27 - 25 * k) - (25 * k + e - 25 * k) = 25 - e by omega] at hone
  rw [hticks (k + 1) (by omega) (by omega),
    show min 25 (25 * k + e + 27 - 25 * (k + 1)) - (25 * k + e - 25 * (k + 1)) = e + 2 by omega] at htwo
  rw [hticks (k + 2) (by omega) (by omega),
    show min 25 (25 * k + e + 27 - 25 * (k + 2)) - (25 * k + e - 25 * (k + 2)) = 0 by omega] at hthree
  have hsum : step * (25 - e) + step * (e + 2) = 27 * step := by
    rw [← Nat.mul_add, show 25 - e + (e + 2) = 27 by omega, Nat.mul_comm]
  have hfirstTicks : step * 2 ≤ step * (25 - e) := Nat.mul_le_mul_left step (by omega)
  have hsecondTicks : step * 2 ≤ step * (e + 2) := Nat.mul_le_mul_left step (by omega)
  rw [Nat.mul_zero] at hbefore hthree
  refine ⟨((m k).toNat + (m (k + 1)).toNat) / 2, ?_, by omega, by omega⟩
  rw [Demod.framing, hread _ (by omega), hread _ (by omega), hread _ (by omega), hread _ (by omega)]
  show some (framingLevel noise_level (m (k - 1)) (m k) (m (k + 1)) (m (k + 2))) = _
  rw [framingLevel, if_neg (by omega), if_neg (by omega), if_neg (by omega)]

/-- A slice that is taken at most five ticks off is the place. -/
theorem Replied.sliceBit (h : Replied m code f1_sample d base step) (hp : p.Agree (View.into m 0) (f1_sample + 70))
    {signal_threshold noise_threshold clock i : Nat} (hi : i < 20) (hearly : 25 * f1_sample + d + 87 * i ≤ clock + 5)
    (hlate : clock ≤ 25 * f1_sample + d + 87 * i + 5) (hlow : base + 7 * step ≤ signal_threshold)
    (hhigh : signal_threshold ≤ base + 13 * step) (hnoise : base + step ≤ noise_threshold) (bits : BitVec 32) :
    sliceBit signal_threshold noise_threshold p ⟨bits, 0, 0⟩ clock = some ⟨shiftIn bits (place code i), 0, 0⟩ := by
  have hd := h.f1
  have hread : ∀ j, j < f1_sample + 70 → p j = some (m j) := fun j hj => by
    rw [hp j hj, View.into, Nat.zero_add]
  generalize hs : clock / 25 = s
  have hticks : ∀ j, s ≤ j → j < s + 3 → replyTicks code (25 * f1_sample + d) j = if place code i then
      min 25 (25 * f1_sample + d + 87 * i + 27 - 25 * j) - (25 * f1_sample + d + 87 * i - 25 * j) else 0 :=
    fun j hj hlt => replyTicks_place code hi (by omega) (by omega)
  have hone := h.near s (by omega) (by omega)
  have htwo := h.near (s + 1) (by omega) (by omega)
  have hthree := h.near (s + 2) (by omega) (by omega)
  rw [hticks s (by omega) (by omega)] at hone
  rw [hticks (s + 1) (by omega) (by omega)] at htwo
  rw [hticks (s + 2) (by omega) (by omega)] at hthree
  rw [Demod.sliceBit, hs, hread _ (by omega), hread _ (by omega), hread _ (by omega)]
  simp only [Option.bind_eq_bind, Option.bind_some]
  cases hplace : place code i with
  | true =>
    rw [hplace, if_pos rfl] at hone htwo hthree
    generalize hn : min 25 (25 * f1_sample + d + 87 * i + 27 - 25 * s) - (25 * f1_sample + d + 87 * i - 25 * s) = n at hone
    generalize hn' : min 25 (25 * f1_sample + d + 87 * i + 27 - 25 * (s + 1)) -
      (25 * f1_sample + d + 87 * i - 25 * (s + 1)) = n' at htwo
    generalize hn'' : min 25 (25 * f1_sample + d + 87 * i + 27 - 25 * (s + 2)) -
      (25 * f1_sample + d + 87 * i - 25 * (s + 2)) = n'' at hthree
    have hquiet : step * n'' ≤ step * 6 := Nat.mul_le_mul_left step (by omega)
    have hon : (m s).toNat ≥ signal_threshold ∨ (m (s + 1)).toNat ≥ signal_threshold := by
      have hmore : 14 ≤ n ∨ 14 ≤ n' := by omega
      obtain hmore | hmore := hmore
      · have hstep := Nat.mul_le_mul_left step hmore
        exact .inl (by omega)
      · have hstep := Nat.mul_le_mul_left step hmore
        exact .inr (by omega)
    rw [if_pos hon, if_neg (by omega), if_neg (fun huncertain => huncertain.1 hon)]
    rfl
  | false =>
    rw [hplace, if_neg Bool.false_ne_true, Nat.mul_zero] at hone htwo hthree
    rw [if_neg (by omega), if_neg (by omega), if_neg (by omega)]
    rfl

theorem Replied.sliceBits (h : Replied m code f1_sample d base step) (hp : p.Agree (View.into m 0) (f1_sample + 70))
    {signal_threshold noise_threshold clock : Nat} (hearly : 25 * f1_sample + d ≤ clock + 5)
    (hlate : clock ≤ 25 * f1_sample + d + 5) (hlow : base + 7 * step ≤ signal_threshold)
    (hhigh : signal_threshold ≤ base + 13 * step) (hnoise : base + step ≤ noise_threshold) {n : Nat} (hn : n ≤ 20) :
    ((List.range n).map fun bit => clock + 87 * bit).foldlM (Demod.sliceBit signal_threshold noise_threshold p) ⟨0, 0, 0⟩ =
      some ⟨shiftIns (place code) n, 0, 0⟩ := by
  induction n with
  | zero => rfl
  | succ n ih =>
    rw [List.range_succ, List.map_append, List.foldlM_append, ih (by omega), shiftIns_succ, Option.bind_eq_bind,
      Option.bind_some, List.map_singleton, List.foldlM_cons,
      h.sliceBit hp (show n < 20 by omega) (by omega) (by omega) hlow hhigh hnoise]
    rfl

/-- **Main theorem.** A reply that is measured well enough is received at the sample where it starts. -/
theorem Replied.replyAt (h : Replied m code f1_sample d base step) (hfirst : 1 ≤ f1_sample)
    (hmeasured : Measured floats noise_level m f1_sample d base step)
    (hp : p.Agree (View.into m 0) (f1_sample + 70)) :
    replyAt floats noise_level p f1_sample =
      some (some ⟨f1_sample, floats.f1_clock f1_sample (m f1_sample) (m (f1_sample + 1)) + 87 * 14, code⟩) := by
  obtain ⟨hearly, hlate, hf2, hstrong, hsignal, hnoise⟩ := hmeasured
  have hread : ∀ j, j < f1_sample + 70 → p j = some (m j) := fun j hj => by
    rw [hp j hj, View.into, Nat.zero_add]
  have hd := h.f1
  have he := h.f2
  obtain ⟨level₁, hlevel₁, hlow₁, hhigh₁⟩ := h.framing hp hstrong (i := 0) (k := f1_sample) (e := d) (by decide)
    (place_framing code).1 (by omega) hd hfirst (Nat.le_refl _) (by omega)
  obtain ⟨level₂, hlevel₂, hlow₂, hhigh₂⟩ := h.framing hp hstrong (i := 14) (k := (25 * f1_sample + d + 87 * 14) / 25)
    (e := (25 * f1_sample + d + 87 * 14) % 25) (by decide) (place_framing code).2 (by omega) (by omega) hfirst (by omega)
    (by omega)
  rw [Demod.replyAt, hlevel₁, Option.bind_eq_bind, Option.bind_some]
  dsimp only
  rw [hread f1_sample (by omega), hread (f1_sample + 1) (by omega)]
  simp only [Option.bind_eq_bind, Option.bind_some, hf2, hlevel₂]
  obtain ⟨hlow, hhigh⟩ := hsignal (max level₁ level₂) (by omega) (by omega)
  rw [h.sliceBits hp hearly hlate hlow hhigh (hnoise (max level₁ level₂) (by omega) (by omega)) (Nat.le_refl 20),
    Option.bind_some, accepted_sent h.sent]
  rfl

/-- **Main theorem.** A reply in a buffer is among the messages of the buffer, unless one of the 69 samples in front of it
starts another one. -/
theorem demodulate2400AC_hears {mag : Block} (hoverlap : 69 ≤ mag.overlap) (hvalid : mag.overlap ≤ mag.validLength)
    (hshort : mag.validLength ≤ mag.overlap + 2 ^ 19) (hfirst : 1 ≤ f1_sample)
    (hlast : f1_sample < mag.validLength - mag.overlap)
    (h : Replied (fun k => mag.data.getD k 0) code f1_sample d base step)
    (hmeasured : Measured floats noise_level (fun k => mag.data.getD k 0) f1_sample d base step) :
    ∃ replies, demodulate2400AC floats noise_level mag = some (messages mag .zero replies) ∧
      (⟨f1_sample, floats.f1_clock f1_sample (mag.data.getD f1_sample 0) (mag.data.getD (f1_sample + 1) 0) + 87 * 14, code⟩
          ∈ replies ∨
        ∃ reply ∈ replies, reply.f1_sample < f1_sample ∧ f1_sample < reply.f1_sample + 70) := by
  have hlong : mag.validLength - mag.overlap + 69 ≤ mag.validLength := by omega
  obtain ⟨replies, stop, hrun, hscans⟩ := scanAC_scans floats noise_level hlong (by omega)
    (show mag.validLength - mag.overlap ≤ 1 + (mag.validLength - mag.overlap) by omega) .zero
  refine ⟨replies, ?_, ?_⟩
  · rw [demodulate2400AC, if_neg (by omega)]
    exact hrun
  have hview : (samplesAt mag 0).Agree (View.into (fun k => mag.data.getD k 0) 0) (f1_sample + 70) := fun k hk =>
    samplesAt_of_valid (by omega)
  have hfind : (acScanner floats noise_level (samplesAt mag 0)).find () f1_sample = some _ :=
    congrArg Option.join (h.replyAt hfirst hmeasured hview)
  obtain ⟨x, hx, -, hbefore, hover⟩ | ⟨_, hfound⟩ := hscans.reaches hfirst hlast
  · obtain ⟨reply, hreply, rfl⟩ := List.mem_map.mp hx
    exact .inr ⟨reply, hreply, hbefore, hover⟩
  · obtain hnone | ⟨item, hitem, hmem⟩ := hfound
    · cases hfind.symm.trans hnone
    · obtain ⟨reply, hreply, heq⟩ := List.mem_map.mp hmem
      obtain rfl := Option.some.inj (hfind.symm.trans hitem)
      obtain ⟨-, rfl⟩ := Prod.mk.inj heq
      exact .inl hreply

end Replied

/-! ### One reply -/

/-- A buffer with the reply 1200, from sample 1 on: each tick adds 100. -/
def replyBlock : Block where
  data := (List.range 80).map fun k => BitVec.ofNat 16 (100 * replyTicks 0x1200 25 k)
  totalLength := 80
  validLength := 80
  overlap := 70
  sampleTimestamp := 0
  sysTimestamp := 0
  flags := 0
  length_data := List.length_map _

theorem replied_replyBlock : Replied (fun k => replyBlock.data.getD k 0) 0x1200 1 0 0 100 := by
  refine ⟨by decide, by decide, by decide, fun k _ hk => ?_⟩
  have hread : replyBlock.data.getD k 0 = BitVec.ofNat 16 (100 * replyTicks 0x1200 25 k) := by
    have hlt : k < 80 := by omega
    simp [replyBlock, hlt]
  have hle : replyTicks 0x1200 25 k ≤ 25 := by
    unfold replyTicks
    have hbound := List.sum_le_card_nsmul ((List.range 25).map fun u => replyOnAir 0x1200 25 (25 * k + u)) 1
      (fun x hx => by
        obtain ⟨u, -, rfl⟩ := List.mem_map.mp hx
        unfold replyOnAir
        split <;> decide)
    simpa using hbound
  rw [hread, BitVec.toNat_ofNat, Nat.mod_eq_of_lt (by omega), show 25 * 1 + 0 = 25 from rfl]
  omega

theorem measured_replyBlock : Measured exactFloats 400 (fun k => replyBlock.data.getD k 0) 1 0 0 100 := by
  have hproduct : ∀ level, 1200 ≤ level → level ≤ 1500 → (400 * BitVec.ofNat 32 level).toNat = 400 * level := by
    intro level hlow hhigh
    rw [BitVec.toNat_mul, BitVec.toNat_ofNat, show (400 : BitVec 32).toNat = 400 from rfl]
    omega
  refine ⟨by decide, by decide, by decide, by decide, fun level hlow hhigh => ?_, fun level hlow hhigh => ?_⟩
  · show 0 + 7 * 100 ≤ (Nat.sqrt (8 * (400 * BitVec.ofNat 32 level).toNat) + 1) / 2 ∧
      (Nat.sqrt (8 * (400 * BitVec.ofNat 32 level).toNat) + 1) / 2 ≤ 0 + 13 * 100
    rw [hproduct level (by omega) (by omega)]
    have hmore : 1900 ≤ Nat.sqrt (8 * (400 * level)) := Nat.le_sqrt.mpr (by omega)
    have hless : Nat.sqrt (8 * (400 * level)) < 2300 := Nat.sqrt_lt.mpr (by omega)
    omega
  · show 0 + 100 ≤ (Nat.sqrt (2 * (400 * BitVec.ofNat 32 level).toNat) + 1) / 2
    rw [hproduct level (by omega) (by omega)]
    have hmore : 900 ≤ Nat.sqrt (2 * (400 * level)) := Nat.le_sqrt.mpr (by omega)
    omega

theorem demodulate2400AC_hears_replyBlock :
    ∃ replies, demodulate2400AC exactFloats 400 replyBlock = some (messages replyBlock .zero replies) ∧
      (⟨1, exactClock 1 (replyBlock.data.getD 1 0) (replyBlock.data.getD 2 0) + 87 * 14, 0x1200⟩ ∈ replies ∨
        ∃ reply ∈ replies, reply.f1_sample < 1 ∧ 1 < reply.f1_sample + 70) :=
  demodulate2400AC_hears (by decide) (by decide) (by decide) (by decide) (by decide) replied_replyBlock
    measured_replyBlock

end RbFeeder.Demod
