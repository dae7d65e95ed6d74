import RbFeeder.Adaptive.Split

/-! Adaptive gain control: the noise floor of a block.

The samples of a block are counted in one bucket for each magnitude, and the scan of the
buckets at its end stops behind the one with the sample of the wanted rank
(`percentile_hasRank`). With no sample of this rank, in an empty block or at the hundredth
percentile, it runs through all the buckets and takes the last magnitude for the noise
(`percentile_exhausted`). -/
namespace RbFeeder.Adaptive
open Periods

/-- At most `k` of the samples are below the magnitude, and more than `k` not above it. -/
structure HasRank (xs : List Sample) (k : ℕ) (v : Sample) : Prop where
  below : xs.countP (· < v) ≤ k
  upTo : k < xs.countP (· ≤ v)

theorem HasRank.mem {xs : List Sample} {k : ℕ} {v : Sample} (h : HasRank xs k v) : v ∈ xs := by
  by_contra hnot
  have hle : xs.countP (· ≤ v) ≤ xs.countP (· < v) := by
    refine List.countP_mono_left fun x hx hxv => ?_
    rw [decide_eq_true_eq] at hxv ⊢
    exact UInt16.lt_of_le_of_ne hxv fun heq => hnot (heq ▸ hx)
  exact absurd h.upTo (Nat.not_lt.mpr (hle.trans h.below))

/-! ### Buckets -/

/-- The samples in the first `i` buckets. -/
def inBuckets (xs : List Sample) (i : ℕ) : ℕ := xs.countP (·.toNat < i)

@[simp] theorem inBuckets_zero (xs : List Sample) : inBuckets xs 0 = 0 := by
  simp [inBuckets]

theorem inBuckets_le (xs : List Sample) (i : ℕ) : inBuckets xs i ≤ xs.length := List.countP_le_length

theorem inBuckets_all (xs : List Sample) : inBuckets xs 65536 = xs.length :=
  List.countP_eq_length.mpr fun x _ => decide_eq_true x.toNat_lt

theorem inBuckets_succ (xs : List Sample) {i : ℕ} (hi : i < 65536) :
    inBuckets xs (i + 1) = inBuckets xs i + xs.count (UInt16.ofNat i) := by
  have hvalue : (UInt16.ofNat i).toNat = i := UInt16.toNat_ofNat_of_lt' hi
  induction xs with
  | nil => rfl
  | cons x xs ih =>
    have hx : x = UInt16.ofNat i ↔ x.toNat = i := by rw [← UInt16.toNat_inj, hvalue]
    simp only [inBuckets, List.countP_cons, List.count_cons, decide_eq_true_eq, beq_iff_eq, hx] at ih ⊢
    split_ifs <;> omega

theorem inBuckets_eq_below (xs : List Sample) (v : Sample) :
    inBuckets xs v.toNat = xs.countP (· < v) := rfl

theorem inBuckets_eq_upTo (xs : List Sample) (v : Sample) :
    inBuckets xs (v.toNat + 1) = xs.countP (· ≤ v) := by
  refine List.countP_congr fun x _ => ?_
  rw [decide_eq_true_eq, decide_eq_true_eq, UInt16.le_iff_toNat_le]
  exact Nat.lt_succ_iff

/-- Every sample is counted in the bucket of its magnitude. -/
theorem foldl_radixAdd (radix : UInt16 → UInt32) (xs : List Sample) (v : UInt16) :
    xs.foldl radixAdd radix v = radix v + UInt32.ofNat (xs.count v) := by
  induction xs generalizing radix with
  | nil => simp
  | cons x xs ih =>
    rw [List.foldl_cons, ih, radixAdd, List.count_cons, UInt32.ofNat_add]
    by_cases h : x = v
    · subst h
      rw [Function.update_self, beq_self_eq_true, if_pos rfl, UInt32.add_assoc, UInt32.add_comm 1]
      rfl
    · have hne : v ≠ x := fun heq => h heq.symm
      simp [Function.update_of_ne hne, h]

/-! ### The scan -/

/-- The scan stops behind the first bucket that fills the count, or behind the last one. -/
theorem percentileFrom_spec {xs : List Sample} {radix : UInt16 → UInt32}
    (hradix : ∀ v, radix v = UInt32.ofNat (xs.count v)) (hlength : xs.length < 2 ^ 32) (count : UInt32)
    (left : ℕ) {i : ℕ} (hi : i + left = 65536) (hbefore : ∀ k < i, inBuckets xs k ≤ count.toNat) :
    ∃ r, percentileFrom radix count i (UInt32.ofNat (inBuckets xs i)) left = r ∧ r ≤ 65536 ∧
      (∀ k < r, inBuckets xs k ≤ count.toNat) ∧ (r = 65536 ∨ count.toNat < inBuckets xs r) := by
  induction left generalizing i with
  | zero => exact ⟨i, rfl, by omega, hbefore, Or.inl (by omega)⟩
  | succ left ih =>
    have hvalue : (UInt32.ofNat (inBuckets xs i)).toNat = inBuckets xs i :=
      UInt32.toNat_ofNat_of_lt' ((inBuckets_le xs i).trans_lt hlength)
    rw [percentileFrom]
    split
    · next hle =>
      rw [UInt32.le_iff_toNat_le, hvalue] at hle
      rw [hradix, ← UInt32.ofNat_add, ← inBuckets_succ xs (by omega)]
      refine ih (by omega) fun k hk => ?_
      obtain hlt | rfl := Nat.lt_succ_iff_lt_or_eq.mp hk
      · exact hbefore k hlt
      · exact hle
    · next hmore =>
      rw [UInt32.le_iff_toNat_le, hvalue] at hmore
      exact ⟨i, rfl, by omega, hbefore, Or.inr (by omega)⟩

section
variable {F : Type} {cfg : Config F} {xs : List Sample}

/-- The variables of the noise measurement in a block, after some samples. -/
structure Fed (xs : List Sample) (n : Noise F) : Prop where
  radix : ∀ v, n.radix v = UInt32.ofNat (xs.count v)
  radixCounter : n.radixCounter = UInt32.ofNat xs.length

/-- The rank that is looked for. -/
def wantedRank (cfg : Config F) (xs : List Sample) : ℕ := xs.length * cfg.rangePercentile.toNat / 100

theorem count_eq {n : Noise F} (hfed : Fed xs n) (hlength : xs.length < 2 ^ 32)
    (hproduct : xs.length * cfg.rangePercentile.toNat < 2 ^ 32) :
    (n.radixCounter * cfg.rangePercentile / 100).toNat = wantedRank cfg xs := by
  rw [UInt32.toNat_div, UInt32.toNat_mul, hfed.radixCounter, UInt32.toNat_ofNat_of_lt' hlength,
    Nat.mod_eq_of_lt hproduct]
  rfl

theorem percentile_cases {n : Noise F} (hfed : Fed xs n) (hlength : xs.length < 2 ^ 32)
    (hproduct : xs.length * cfg.rangePercentile.toNat < 2 ^ 32) :
    HasRank xs (wantedRank cfg xs) (percentile cfg n) ∨
      xs.length ≤ wantedRank cfg xs ∧ percentile cfg n = 65535 := by
  obtain ⟨r, hr, hle, hbefore, hafter⟩ := percentileFrom_spec hfed.radix hlength
    (n.radixCounter * cfg.rangePercentile / 100) 65536 (i := 0) (by omega) (fun k hk => absurd hk (by omega))
  rw [inBuckets_zero] at hr
  have hpercentile : percentile cfg n = UInt16.ofNat (r - 1) := congrArg (fun i => UInt16.ofNat (i - 1)) hr
  rw [count_eq hfed hlength hproduct] at hbefore hafter
  rw [hpercentile]
  by_cases hrank : wantedRank cfg xs < xs.length
  · have hfound : wantedRank cfg xs < inBuckets xs r := by
      obtain rfl | hfound := hafter
      · rw [inBuckets_all]
        exact hrank
      · exact hfound
    obtain ⟨i, rfl⟩ : ∃ i, r = i + 1 := by
      cases r with
      | zero => exact absurd hfound (by simp)
      | succ i => exact ⟨i, rfl⟩
    have hvalue : (UInt16.ofNat i).toNat = i := UInt16.toNat_ofNat_of_lt' (show i < 65536 by omega)
    have hbelow := inBuckets_eq_below xs (UInt16.ofNat i)
    have hupTo := inBuckets_eq_upTo xs (UInt16.ofNat i)
    rw [hvalue] at hbelow hupTo
    rw [Nat.add_sub_cancel]
    exact Or.inl ⟨hbelow ▸ hbefore i (Nat.lt_succ_self i), hupTo ▸ hfound⟩
  · have hall := inBuckets_le xs r
    obtain rfl : r = 65536 := by omega
    exact Or.inr ⟨by omega, rfl⟩

/-! ### A block -/

/-- The sample of a percentile; that of the hundredth is the largest one. -/
def IsPercentile (xs : List Sample) (p : ℕ) (v : Sample) : Prop :=
  v ∈ xs ∧
    if p = 100 then ∀ x ∈ xs, x ≤ v
    else xs.length * p < 100 * xs.countP (· ≤ v) ∧ 100 * xs.countP (· < v) ≤ xs.length * p

theorem HasRank.isPercentile {p : ℕ} {v : Sample} (h : HasRank xs (xs.length * p / 100) v) (hp : p < 100) :
    IsPercentile xs p v := by
  refine ⟨h.mem, ?_⟩
  rw [if_neg (by omega)]
  have hbelow := h.below
  have hupTo := h.upTo
  omega

/-- The noise measurement of a block whose samples come in chunks. -/
def measured (cfg : Config F) (smoothed : F) (chunks : List (List Sample)) : Noise F :=
  chunks.foldl (fun n xs => rangeUpdate cfg xs n) ⟨fun _ => 0, 0, smoothed⟩

theorem measured_append (smoothed : F) (chunks : List (List Sample)) (xs : List Sample) :
    measured cfg smoothed (chunks ++ [xs]) = rangeUpdate cfg xs (measured cfg smoothed chunks) := by
  rw [measured, List.foldl_append]
  rfl

theorem measured_eq (smoothed : F) (chunks : List (List Sample)) :
    measured cfg smoothed chunks = rangeUpdate cfg chunks.flatten ⟨fun _ => 0, 0, smoothed⟩ := by
  induction chunks using List.reverseRecOn with
  | nil => exact (rangeUpdate_nil _).symm
  | append_singleton chunks xs ih => rw [measured_append, ih, List.flatten_concat, rangeUpdate_append]

theorem measured_fed (hrange : cfg.rangeControl = true) (smoothed : F) (chunks : List (List Sample)) :
    Fed chunks.flatten (measured cfg smoothed chunks) ∧ (measured cfg smoothed chunks).smoothed = smoothed := by
  rw [measured_eq, rangeUpdate, hrange, if_neg (by decide)]
  exact ⟨⟨fun v => (foldl_radixAdd _ _ v).trans (UInt32.zero_add _), UInt32.zero_add _⟩, rfl⟩

variable [Arithmetic F]

/-- The estimate of a block: the percentile of its samples, or that of the block before if there
are none. -/
def EstimatesNoise (cfg : Config F) (xs : List Sample) (n : Noise F) : Prop :=
  if xs = [] then (rangeEndOfBlock cfg n).smoothed = n.smoothed
  else IsPercentile xs cfg.rangePercentile.toNat (percentile cfg n)

variable (cfg) in
/-- The largest magnitude is the estimate that the smoothed one is at already. -/
def Saturated (smoothed : F) : Prop :=
  smoothed * (((1 : ℕ) : F) - cfg.rangeAlpha) + ((65535 : ℕ) : F) * cfg.rangeAlpha = smoothed

/-- **Main theorem.** The estimate is that of the block exactly if the percentile is below the hundredth or there
is a sample of the largest magnitude; and in an empty block, if the largest magnitude changes nothing. -/
theorem estimatesNoise_iff (hrange : cfg.rangeControl = true) (hpercent : cfg.rangePercentile.toNat ≤ 100)
    (smoothed : F) (chunks : List (List Sample)) (hlength : chunks.flatten.length < 2 ^ 32)
    (hproduct : chunks.flatten.length * cfg.rangePercentile.toNat < 2 ^ 32) :
    EstimatesNoise cfg chunks.flatten (measured cfg smoothed chunks) ↔
      if chunks.flatten = [] then Saturated cfg smoothed
      else cfg.rangePercentile.toNat < 100 ∨ 65535 ∈ chunks.flatten := by
  obtain ⟨hfed, hsmoothed⟩ := measured_fed hrange smoothed chunks
  have hcases := percentile_cases hfed hlength hproduct
  generalize measured cfg smoothed chunks = n at hfed hsmoothed hcases ⊢
  generalize chunks.flatten = xs at hfed hcases hlength hproduct ⊢
  unfold EstimatesNoise
  split
  · next hempty =>
    subst hempty
    obtain hrank | ⟨-, hlast⟩ := hcases
    · cases hrank.mem
    · rw [rangeEndOfBlock, hrange, if_neg (by decide), hlast, hsmoothed]
      rfl
  · next hsome =>
    have hpos := List.length_pos_iff.mpr hsome
    obtain hrank | ⟨hle, hlast⟩ := hcases
    · -- no rank is that of the hundredth percentile
      have hupTo : wantedRank cfg xs < xs.length := hrank.upTo.trans_le List.countP_le_length
      have hp : cfg.rangePercentile.toNat < 100 := by
        by_contra hnot
        have heq : cfg.rangePercentile.toNat = 100 := by omega
        rw [wantedRank, heq, Nat.mul_div_cancel _ (by decide)] at hupTo
        omega
      exact ⟨fun _ => Or.inl hp, fun _ => hrank.isPercentile hp⟩
    · have hp : cfg.rangePercentile.toNat = 100 := by
        by_contra hnot
        have hlt : xs.length * cfg.rangePercentile.toNat < xs.length * 100 :=
          Nat.mul_lt_mul_of_pos_left (by omega) hpos
        rw [wantedRank] at hle
        omega
      have hlargest : ∀ x ∈ xs, x ≤ 65535 := fun x _ => UInt16.le_iff_toNat_le.mpr (Nat.le_of_lt_succ x.toNat_lt)
      rw [hlast, hp, IsPercentile, if_pos rfl]
      exact ⟨fun h => Or.inr h.1, fun h => ⟨h.resolve_left (lt_irrefl _), hlargest⟩⟩

end

/-! ### Runs -/

section
variable {l : Layout} {F D : Type} [Arithmetic F] {cfg : Config F} {sdr : Sdr F D}

/-- The noise variables are those of the samples since the last end of a block. -/
def Measuring (cfg : Config F) (n : Noise F) : Prop := ∃ smoothed chunks, n = measured cfg smoothed chunks

theorem updateActive_measuring (decoded : Option F) {c : Core l F D} (hc : Measuring cfg c.noise)
    (xs : List Sample) : Measuring cfg (updateActive cfg decoded c xs).noise := by
  obtain ⟨smoothed, chunks, hnoise⟩ := hc
  unfold updateActive updateSubblock
  split
  · cases decoded with
    | some level => exact ⟨smoothed, chunks, hnoise⟩
    | none =>
      refine ⟨smoothed, chunks ++ [xs], ?_⟩
      rw [measured_append, ← hnoise]
  · exact ⟨smoothed, chunks, hnoise⟩

theorem rangeEndOfBlock_measuring {n : Noise F} (hn : Measuring cfg n) : Measuring cfg (rangeEndOfBlock cfg n) := by
  unfold rangeEndOfBlock
  split
  · exact hn
  · exact ⟨_, [], rfl⟩

variable (cfg) in
theorem nextSubblock_noise (c : Core l F D) : (nextSubblock cfg c).noise = c.noise := by
  unfold nextSubblock
  dsimp only
  split <;> rfl

theorem endOfSubblock_measuring {c : Core l F D} (hc : Measuring cfg c.noise) :
    Measuring cfg (endOfSubblock cfg sdr c).noise := by
  rw [← nextSubblock_noise cfg c] at hc
  unfold endOfSubblock
  dsimp only
  split
  · exact rangeEndOfBlock_measuring hc
  · exact hc

theorem update_measuring (xs : List Sample) (decoded : Option F) {s : State l F D} (hs : Measuring cfg s.core.noise) :
    Measuring cfg (update cfg sdr xs decoded s).core.noise := by
  have hpiece : ∀ (c : Core l F D) ys, Measuring cfg c.noise → Measuring cfg (subblockPiece cfg decoded c ys).noise := by
    intro c ys hc
    unfold subblockPiece
    split
    · exact updateActive_measuring decoded hc ys
    · exact hc
  unfold update
  split
  · exact hs
  · rw [updateFrom_eq]
    exact feed_invariant (I := fun c _ => Measuring cfg c.noise) (fun c p ys hc _ => hpiece c ys hc)
      (fun c p ys hc _ => endOfSubblock_measuring (hpiece c ys hc)) hs xs

/-- What ends a block in a run is such a measurement. -/
theorem run_measuring {device : D} {start : State l F D} (hinit : init cfg sdr l device = some start)
    (calls : List (List Sample × Option F)) : Measuring cfg (run cfg sdr start calls).core.noise := by
  have hstart : Measuring cfg start.core.noise := by
    unfold init at hinit
    split at hinit
    · cases hinit
    · cases hinit
      exact ⟨_, [], rfl⟩
  clear hinit
  unfold run
  induction calls generalizing start with
  | nil => exact hstart
  | cons call calls ih => exact ih (update_measuring call.1 call.2 hstart)

/-! ### A block that is not looked at -/

/-- Without an active subblock, a block ends with the measurement it began with. -/
theorem whole_unmeasured (hduty : dutycycleN cfg = 1) (k : ℕ) {c : Core l F D} (xs : List Sample)
    (hactive : c.subblockActive = false) (hcounter : c.dutycycleCounter + (k + 1) = subblocksPerBlock)
    (hremaining : c.subblocksRemaining = k + 1) :
    (whole l.samplesPerSubblock (subblockPiece cfg none) (endOfSubblock cfg sdr) (k + 1) c xs).noise =
      rangeEndOfBlock cfg c.noise := by
  induction k generalizing c xs with
  | zero =>
    have hlast : (nextSubblock cfg c).subblocksRemaining - 1 = 0 := by
      have hsame : (nextSubblock cfg c).subblocksRemaining = c.subblocksRemaining := by
        unfold nextSubblock
        dsimp only
        split <;> rfl
      omega
    rw [whole, whole, subblockPiece_inactive none hactive, endOfSubblock, if_pos hlast,
      ← nextSubblock_noise cfg c]
    rfl
  | succ k ih =>
    have hnext : nextSubblock cfg c =
        { c with
          dutycycleCounter := c.dutycycleCounter + 1, subblockActive := false
          burst := burstEndOfWindow 0 c.burst } := by
      unfold nextSubblock
      dsimp only
      rw [hduty, if_neg (by omega)]
    rw [whole, subblockPiece_inactive none hactive, endOfSubblock, hnext]
    dsimp only
    rw [if_neg (by omega)]
    exact ih _ rfl (by show c.dutycycleCounter + 1 + (k + 1) = _; omega)
      (by show c.subblocksRemaining - 1 = _; omega)

/-- At the lowest duty cycle nothing of the first block is looked at. -/
theorem firstBlock_unmeasured (hduty : dutycycleN cfg = 1) {device : D} {start : State l F D}
    (hinit : init cfg sdr l device = some start) {xs : List Sample}
    (hlength : xs.length = subblocksPerBlock * l.samplesPerSubblock) :
    (update cfg sdr xs none start).core.noise = rangeEndOfBlock cfg start.core.noise := by
  unfold init at hinit
  split at hinit
  · cases hinit
  · next hsome =>
    have henabled : ¬ (!cfg.burstControl && !cfg.rangeControl) = true := by
      intro hoff
      rw [Bool.and_eq_true] at hoff
      exact hsome (Or.inr hoff)
    have hdiv : xs.length / l.samplesPerSubblock = subblocksPerBlock := by
      rw [hlength, Nat.mul_div_cancel _ l.subblock_pos]
    have hdrop : xs.drop (subblocksPerBlock * l.samplesPerSubblock) = [] := List.drop_of_length_le hlength.le
    have hrest : (xs.drop (subblocksPerBlock * l.samplesPerSubblock)).length < l.samplesPerSubblock := by
      rw [hdrop]
      exact l.subblock_pos
    cases hinit
    rw [update, if_neg henabled, updateFrom_eq, feed_whole _ _ xs hdiv hrest]
    dsimp only
    rw [hdrop, subblockPiece_none, updateActive_nil]
    exact whole_unmeasured hduty 19 xs rfl rfl rfl

end

/-- The default settings at a duty cycle of 5 %. -/
def sparse : Config ℚ := { defaults with dutyCycle := 1 / 20 }

theorem sparse_N : dutycycleN sparse = 1 := by
  decide +kernel

/-- With no sample looked at, the estimate of the noise is a third of the largest magnitude. -/
theorem firstBlock_estimate : ∃ start, init sparse tuner layout 3 = some start ∧
    start.core.noise = measured sparse 0 [] ∧
    ¬ EstimatesNoise sparse [] (measured sparse 0 []) ∧
    (update sparse tuner (List.replicate 2400000 0) none start).core.noise.smoothed = 21845 := by
  have hfed : Fed [] (measured sparse 0 []) := (measured_fed rfl 0 []).1
  have hpercentile : percentile sparse (measured sparse 0 []) = 65535 := by
    obtain hrank | ⟨-, hlast⟩ : HasRank [] (wantedRank sparse []) (percentile sparse (measured sparse 0 [])) ∨ _ :=
      percentile_cases hfed (by decide) (by decide)
    · cases hrank.mem
    · exact hlast
  have hestimate : (rangeEndOfBlock sparse (measured sparse 0 [])).smoothed = 21845 := by
    show (0 : ℚ) * (1 - 1 / 3) + ((percentile sparse (measured sparse 0 [])).toNat : ℚ) * (1 / 3) = 21845
    rw [hpercentile, show (65535 : UInt16).toNat = 65535 from rfl]
    norm_num
  refine ⟨_, rfl, rfl, fun h => ?_, ?_⟩
  · rw [EstimatesNoise, if_pos rfl, hestimate] at h
    exact absurd h (by decide)
  · rw [firstBlock_unmeasured sparse_N rfl]
    · exact hestimate
    · rw [List.length_replicate, layout.subblock_eq]
      rfl

/-- At the default percentile. -/
theorem estimatesNoise_defaults : EstimatesNoise defaults [[3, 1], [2]].flatten (measured defaults 0 [[3, 1], [2]]) := by
  have hiff := estimatesNoise_iff (show defaults.rangeControl = true from rfl) (by decide) 0 [[3, 1], [2]]
    (by decide) (by decide)
  rw [if_neg (by decide)] at hiff
  exact hiff.mpr (Or.inl (by decide))

end RbFeeder.Adaptive
