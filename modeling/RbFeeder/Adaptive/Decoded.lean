import RbFeeder.Adaptive.Split

/-! Adaptive gain control: what becomes of a decoded message.

The samples of a message are skipped, which is to take them for quiet ones
(`quiet_same`). A loud message is counted once for every active subblock that it
touches. -/
namespace RbFeeder.Adaptive
open Periods

variable {l : Layout} {F D : Type} {cfg : Config F} {sdr : Sdr F D}

/-! ### Other counts of decoded messages -/

/-- The same measurement with other counts of decoded messages. -/
def Burst.withDecoded (b : Burst l F) (block : UInt32) (smoothed : F) : Burst l F :=
  { b with blockLoudDecoded := block, loudDecodedSmoothed := smoothed }

theorem burstEndOfWindow_withDecoded (n : ℕ) (b : Burst l F) (k : UInt32) (f : F) :
    burstEndOfWindow n (b.withDecoded k f) = (burstEndOfWindow n b).withDecoded k f := by
  unfold burstEndOfWindow Burst.withDecoded
  split_ifs <;> rfl

theorem burstScanWindows_withDecoded (n : ℕ) (xs : List Sample) (b : Burst l F) (k : UInt32) (f : F) :
    burstScanWindows n xs (b.withDecoded k f) = (burstScanWindows n xs b).withDecoded k f := by
  induction n generalizing xs b with
  | zero => rfl
  | succ n ih => rw [burstScanWindows, burstEndOfWindow_withDecoded, ih, burstScanWindows]

theorem burstUpdate_withDecoded (xs : List Sample) (b : Burst l F) (k : UInt32) (f : F) :
    burstUpdate cfg xs (b.withDecoded k f) = (burstUpdate cfg xs b).withDecoded k f := by
  unfold burstUpdate
  by_cases hburst : (!cfg.burstControl) = true
  · rw [if_pos hburst, if_pos hburst]
  rw [if_neg hburst, if_neg hburst]
  by_cases h : xs.length < b.window.remaining
  · rw [dif_pos h, dif_pos (show xs.length < (b.withDecoded k f).window.remaining from h)]
    rfl
  · rw [dif_neg h, dif_neg (show ¬ xs.length < (b.withDecoded k f).window.remaining from h)]
    dsimp only
    rw [burstEndOfWindow_withDecoded, burstScanWindows_withDecoded]
    rfl

theorem burstEndOfWindow_loudDecoded (n : ℕ) (b : Burst l F) :
    (burstEndOfWindow n b).blockLoudDecoded = b.blockLoudDecoded := by
  unfold burstEndOfWindow
  split_ifs <;> rfl

theorem burstSkip_loudDecoded (n : ℕ) (b : Burst l F) :
    (burstSkip cfg n b).blockLoudDecoded = b.blockLoudDecoded := by
  have hwindows : ∀ (k : ℕ) (b : Burst l F), (burstSkipWindows k b).blockLoudDecoded = b.blockLoudDecoded := by
    intro k
    induction k with
    | zero => exact fun _ => rfl
    | succ k ih => exact fun b => by rw [burstSkipWindows, ih, burstEndOfWindow_loudDecoded]
  unfold burstSkip
  split_ifs
  · rfl
  · rfl
  · dsimp only
    rw [hwindows, burstEndOfWindow_loudDecoded]

theorem burstCountSamples_quiet {xs : List Sample} (h : ∀ x ∈ xs, x < 46395) : burstCountSamples xs = 0 :=
  List.countP_eq_zero.mpr fun x hx => by simpa using h x hx

/-! ### The duty cycle -/

/-- The duty cycle on its own. -/
structure Duty where
  subblocksRemaining : ℕ
  counter : ℕ
  active : Bool

def Core.duty (c : Core l F D) : Duty := ⟨c.subblocksRemaining, c.dutycycleCounter, c.subblockActive⟩

/-- The same windows, run length and undecoded bursts. -/
structure SameBursts (c c' : Core l F D) : Prop where
  window : c.burst.window = c'.burst.window
  windowCounter : c.burst.windowCounter = c'.burst.windowCounter
  runlength : c.burst.runlength = c'.burst.runlength
  blockLoudUndecoded : c.burst.blockLoudUndecoded = c'.burst.blockLoudUndecoded
  loudUndecodedSmoothed : c.burst.loudUndecodedSmoothed = c'.burst.loudUndecodedSmoothed
  loudUndecoded : c.stats.loudUndecoded = c'.stats.loudUndecoded

/-- Alike but for the control, the noise and what decoded messages count in. -/
structure Alike (c c' : Core l F D) : Prop where
  duty : c'.duty = c.duty
  burst : ∃ k f, c'.burst = c.burst.withDecoded k f
  loudUndecoded : c'.stats.loudUndecoded = c.stats.loudUndecoded

theorem Alike.sameBursts {c c' : Core l F D} (h : Alike c c') : SameBursts c' c := by
  obtain ⟨-, ⟨k, f, hburst⟩, hundecoded⟩ := h
  refine ⟨?_, ?_, ?_, ?_, ?_, hundecoded⟩ <;> rw [hburst] <;> rfl

variable [Arithmetic F]

def Duty.next (cfg : Config F) (d : Duty) : Duty where
  subblocksRemaining := if d.subblocksRemaining - 1 = 0 then subblocksPerBlock else d.subblocksRemaining - 1
  counter := if d.counter + dutycycleN cfg ≥ subblocksPerBlock then d.counter + dutycycleN cfg - subblocksPerBlock
    else d.counter + dutycycleN cfg
  active := decide (d.counter + dutycycleN cfg ≥ subblocksPerBlock)

/-- Count an active subblock in which there are samples. -/
def touch (dk : Duty × ℕ) (xs : List Unit) : Duty × ℕ :=
  (dk.1, if 0 < xs.length ∧ dk.1.active then dk.2 + 1 else dk.2)

def nextTouched (cfg : Config F) (dk : Duty × ℕ) : Duty × ℕ := (dk.1.next cfg, dk.2)

/-- How many active subblocks `n` samples touch. -/
def touches (cfg : Config F) (d : Duty) (p : Place l.samplesPerSubblock) (n : ℕ) : ℕ :=
  (feed l.subblock_pos touch (nextTouched cfg) (d, 0) p (List.replicate n ())).1.2

/-! ### Counting -/

/-- How many active subblocks the next `n` samples touch. -/
def activeTouched (cfg : Config F) (s : State l F D) (n : ℕ) : ℕ := touches cfg s.core.duty s.subblock n

/-- `n` samples go on after the end of the block. -/
def PassesBlock (d : Duty) (p : Place l.samplesPerSubblock) (n : ℕ) : Prop :=
  p.remaining + (d.subblocksRemaining - 1) * l.samplesPerSubblock < n

/-- The loud decoded messages counted, in this block and before it. -/
def loudDecoded (c : Core l F D) : UInt32 := c.burst.blockLoudDecoded + c.stats.loudDecoded

/-- A loud message of `n` samples is counted once if it touches an active subblock, and is otherwise
as good as `n` quiet samples. -/
def Accounted (cfg : Config F) (sdr : Sdr F D) (s : State l F D) (n : ℕ) : Prop :=
  ∀ (xs quiet : List Sample) (level : F), xs.length = n → quiet.length = n → (∀ x ∈ quiet, x < 46395) →
    s.core.control.burstLoudThreshold ≤ level →
    loudDecoded (update cfg sdr xs (some level) s).core =
        loudDecoded s.core + (if 0 < activeTouched cfg s n then 1 else 0) ∧
      SameBursts (update cfg sdr xs (some level) s).core (update cfg sdr quiet none s).core

/-- `adaptive_burst_loud_threshold` at a gain step. -/
def loudThreshold (sdr : Sdr F D) (gain : ℤ) : F :=
  Arithmetic.pow10 ((((0 : ℕ) : F) - Arithmetic.float (sdr.getGainDb (gain + 1) - sdr.getGainDb gain) -
    ((3 : ℕ) : F)) / ((10 : ℕ) : F))

/-- The gain of every step is a number of dB, and so there is a threshold at it. -/
def Sdr.Graded (sdr : Sdr F D) : Prop := ∀ gain, IsNumber (loudThreshold sdr gain)

/-! ### Quiet samples -/

theorem updateSubblock_alike {c c' : Core l F D} (h : Alike c c') (level : F) {xs quiet : List Sample}
    (hlen : quiet.length = xs.length) (hquiet : burstCountSamples quiet = 0) :
    Alike (updateSubblock cfg none c quiet) (updateSubblock cfg (some level) c' xs) := by
  obtain ⟨hduty, ⟨k, f, hburst⟩, hundecoded⟩ := h
  have hskip := fun b : Burst l F => burstSkip_eq cfg b quiet hquiet
  rw [hlen] at hskip
  refine ⟨hduty, ?_, hundecoded⟩
  unfold updateSubblock
  dsimp only
  rw [hskip]
  split_ifs
  · exact ⟨_, f, by rw [hburst, ← burstUpdate_withDecoded]; rfl⟩
  · exact ⟨k, f, by rw [hburst, burstUpdate_withDecoded]⟩

theorem subblockPiece_alike {c c' : Core l F D} (h : Alike c c') (level : F) {xs quiet : List Sample}
    (hlen : quiet.length = xs.length) (hquiet : burstCountSamples quiet = 0) :
    Alike (subblockPiece cfg none c quiet) (subblockPiece cfg (some level) c' xs) := by
  have hactive : c'.subblockActive = c.subblockActive := congrArg Duty.active h.duty
  unfold subblockPiece updateActive
  rw [hlen, hactive]
  split_ifs
  · exact updateSubblock_alike h level hlen hquiet
  · exact h
  · exact h

theorem endOfBlock_alike {c c' : Core l F D} (h : Alike c c') :
    Alike (endOfBlock cfg sdr c) (endOfBlock cfg sdr c') := by
  obtain ⟨hduty, ⟨k, f, hburst⟩, hundecoded⟩ := h
  have hblock : ∃ k' f', burstEndOfBlock cfg c'.burst = (burstEndOfBlock cfg c.burst).withDecoded k' f' := by
    rw [hburst]
    unfold burstEndOfBlock
    split_ifs
    · exact ⟨k, f, rfl⟩
    · exact ⟨0, _, rfl⟩
  refine ⟨hduty, hblock, ?_⟩
  have hstats : ∀ (b : Burst l F) (n : Noise F) (s : Stats F), (burstStats cfg b (rangeStats cfg n s)).loudUndecoded =
      if !cfg.burstControl then s.loudUndecoded else s.loudUndecoded + b.blockLoudUndecoded := fun b n s => by
    unfold burstStats rangeStats
    split_ifs <;> rfl
  show (burstStats cfg c'.burst (rangeStats cfg _ c'.stats)).loudUndecoded =
    (burstStats cfg c.burst (rangeStats cfg _ c.stats)).loudUndecoded
  rw [hstats, hstats, hburst, hundecoded]
  rfl

variable (cfg) in
theorem nextSubblock_alike {c c' : Core l F D} (h : Alike c c') : Alike (nextSubblock cfg c) (nextSubblock cfg c') := by
  obtain ⟨hduty, ⟨k, f, hburst⟩, hundecoded⟩ := h
  have hcounter : c'.dutycycleCounter = c.dutycycleCounter := congrArg Duty.counter hduty
  have hremaining : c'.subblocksRemaining = c.subblocksRemaining := congrArg Duty.subblocksRemaining hduty
  unfold nextSubblock
  dsimp only
  rw [hcounter]
  split_ifs
  · exact ⟨by simp only [Core.duty, hremaining], ⟨k, f, hburst⟩, hundecoded⟩
  · refine ⟨by simp only [Core.duty, hremaining], ⟨k, f, ?_⟩, hundecoded⟩
    dsimp only
    rw [hburst, burstEndOfWindow_withDecoded]

theorem endOfSubblock_alike {c c' : Core l F D} (h : Alike c c') :
    Alike (endOfSubblock cfg sdr c) (endOfSubblock cfg sdr c') := by
  have hnext := nextSubblock_alike cfg h
  have hremaining : (nextSubblock cfg c').subblocksRemaining = (nextSubblock cfg c).subblocksRemaining :=
    congrArg Duty.subblocksRemaining hnext.duty
  have hcounter : (nextSubblock cfg c').dutycycleCounter = (nextSubblock cfg c).dutycycleCounter :=
    congrArg Duty.counter hnext.duty
  have hactive : (nextSubblock cfg c').subblockActive = (nextSubblock cfg c).subblockActive :=
    congrArg Duty.active hnext.duty
  have hset : ∀ n, Alike { nextSubblock cfg c with subblocksRemaining := n }
      { nextSubblock cfg c' with subblocksRemaining := n } := fun n =>
    ⟨by simp only [Core.duty, hcounter, hactive], hnext.burst, hnext.loudUndecoded⟩
  unfold endOfSubblock
  dsimp only
  rw [hremaining]
  split_ifs
  · exact endOfBlock_alike (hset _)
  · exact hset _

/-- A message does to the windows and bursts what quiet samples do. -/
theorem quiet_same (hburst : cfg.burstControl = true) (s : State l F D) (level : F) {xs quiet : List Sample}
    (hlen : quiet.length = xs.length) (hquiet : ∀ x ∈ quiet, x < 46395) :
    SameBursts (update cfg sdr xs (some level) s).core (update cfg sdr quiet none s).core := by
  rw [update_eq hburst, update_eq hburst]
  refine Alike.sameBursts (feed_simulation l.subblock_pos (Q := fun x _ => x < 46395) (R := Alike) (fun c c' ys zs hc hyz => ?_)
    (fun c c' hc => endOfSubblock_alike hc) ⟨rfl, ⟨_, _, rfl⟩, rfl⟩ ?_).1
  · refine subblockPiece_alike hc level hyz.length_eq (burstCountSamples_quiet fun x hx => ?_)
    obtain ⟨i, hi, rfl⟩ := List.mem_iff_getElem.mp hx
    exact (List.forall₂_iff_get.mp hyz).2 i hi (hyz.length_eq ▸ hi)
  · exact List.forall₂_iff_get.mpr ⟨hlen, fun i hi _ => hquiet _ (List.get_mem _ _)⟩

/-! ### Active subblocks -/

variable (cfg) in
theorem dutycycleN_bounds : 1 ≤ dutycycleN cfg ∧ dutycycleN cfg ≤ subblocksPerBlock := by
  unfold dutycycleN subblocksPerBlock
  dsimp only
  split_ifs <;> omega

section
variable {d : Duty} {p : Place l.samplesPerSubblock} {n : ℕ}

/-- What was counted before is added. -/
theorem touches_from (k : ℕ) (d : Duty) (p : Place l.samplesPerSubblock) (xs : List Unit) :
    (feed l.subblock_pos touch (nextTouched cfg) (d, k) p xs).1.2 =
      k + (feed l.subblock_pos touch (nextTouched cfg) (d, 0) p xs).1.2 := by
  have hpiece : ∀ (a b : Duty × ℕ) (ys zs : List Unit), b.1 = a.1 ∧ b.2 = k + a.2 → List.Forall₂ Eq ys zs →
      (touch b zs).1 = (touch a ys).1 ∧ (touch b zs).2 = k + (touch a ys).2 := fun a b ys zs hab hyz => by
    obtain rfl := List.forall₂_eq_eq_eq ▸ hyz
    obtain ⟨hd, hk⟩ := hab
    unfold touch
    rw [hd, hk]
    refine ⟨rfl, ?_⟩
    dsimp only
    split_ifs <;> omega
  have hfinish : ∀ a b : Duty × ℕ, b.1 = a.1 ∧ b.2 = k + a.2 →
      (nextTouched cfg b).1 = (nextTouched cfg a).1 ∧ (nextTouched cfg b).2 = k + (nextTouched cfg a).2 :=
    fun a b hab => ⟨congrArg (Duty.next cfg) hab.1, hab.2⟩
  have hsim := feed_simulation l.subblock_pos (R := fun a b : Duty × ℕ => b.1 = a.1 ∧ b.2 = k + a.2) (p := p) hpiece hfinish
    (s := (d, 0)) (t := (d, k)) ⟨rfl, rfl⟩ (List.forall₂_refl xs)
  exact hsim.1.2

theorem touches_of_lt (h : n < p.remaining) : touches cfg d p n = if 0 < n ∧ d.active then 1 else 0 := by
  have hlt : (List.replicate n ()).length < p.remaining := by rwa [List.length_replicate]
  rw [touches, feed_of_lt hlt, touch]
  show (if 0 < (List.replicate n ()).length ∧ d.active = true then 1 else 0) = _
  rw [List.length_replicate]

theorem touches_of_le (h : p.remaining ≤ n) :
    touches cfg d p n = (if d.active then 1 else 0) + touches cfg (d.next cfg) (.start l.subblock_pos) (n - p.remaining) := by
  have hle : p.remaining ≤ (List.replicate n ()).length := by rwa [List.length_replicate]
  have hpos : 0 < ((List.replicate n ()).take p.remaining).length := by
    have := p.pos
    rw [List.length_take]
    omega
  rw [touches, feed_of_le hle, touch, touches_from, List.drop_replicate]
  dsimp only
  rw [if_congr (and_iff_right hpos) rfl rfl]
  rfl

variable (cfg) in
theorem touches_le (n : ℕ) (d : Duty) (p : Place l.samplesPerSubblock) : touches cfg d p n ≤ n := by
  induction n using Nat.strong_induction_on generalizing d p with
  | _ n ih =>
    have := p.pos
    by_cases h : n < p.remaining
    · rw [touches_of_lt h]
      split_ifs <;> omega
    · have := ih (n - p.remaining) (by omega) (d.next cfg) (.start l.subblock_pos)
      rw [touches_of_le (Nat.not_lt.mp h)]
      split_ifs <;> omega

theorem touches_pos (hactive : d.active = true) (hn : 0 < n) : 1 ≤ touches cfg d p n := by
  by_cases h : n < p.remaining
  · rw [touches_of_lt h, if_pos ⟨hn, hactive⟩]
  · rw [touches_of_le (Nat.not_lt.mp h), if_pos hactive]
    omega

/-- The counter after the subblocks of the block so far. -/
structure Duty.Valid (cfg : Config F) (d : Duty) : Prop where
  remaining : 1 ≤ d.subblocksRemaining ∧ d.subblocksRemaining ≤ subblocksPerBlock
  counter : d.counter = (subblocksPerBlock - d.subblocksRemaining) * dutycycleN cfg % subblocksPerBlock

/-- The first subblock of the next block is active. -/
theorem Duty.Valid.next_active (hd : d.Valid cfg) (hlast : d.subblocksRemaining = 1) : (d.next cfg).active = true := by
  have hN := dutycycleN_bounds cfg
  have hcounter := hd.counter
  rw [hlast] at hcounter
  unfold subblocksPerBlock at hN hcounter
  unfold Duty.next subblocksPerBlock
  exact decide_eq_true (by omega)

theorem Duty.Valid.next (hd : d.Valid cfg) : (d.next cfg).Valid cfg := by
  have hN := dutycycleN_bounds cfg
  obtain ⟨⟨hlo, hhi⟩, hcounter⟩ := hd
  unfold subblocksPerBlock at hN hhi hcounter
  by_cases hlast : d.subblocksRemaining - 1 = 0
  · have hone : d.subblocksRemaining = 1 := by omega
    rw [hone] at hcounter
    constructor <;> unfold Duty.next subblocksPerBlock
    · dsimp only
      rw [if_pos hlast]
      omega
    · dsimp only
      rw [if_pos hlast]
      split_ifs <;> omega
  · have hmul : (20 - (d.subblocksRemaining - 1)) * dutycycleN cfg =
        (20 - d.subblocksRemaining) * dutycycleN cfg + dutycycleN cfg := by
      rw [← Nat.succ_mul]
      congr 1
      omega
    constructor <;> unfold Duty.next subblocksPerBlock
    · dsimp only
      rw [if_neg hlast]
      omega
    · dsimp only
      rw [if_neg hlast, hmul, hcounter]
      split_ifs <;> omega

/-- Samples that go on in the next block touch its first subblock. -/
theorem touches_of_passes (hd : d.Valid cfg) (h : PassesBlock d p n) :
    (if d.active then 1 else 0) + 1 ≤ touches cfg d p n := by
  unfold PassesBlock at h
  have hlo := hd.remaining.1
  generalize hm : d.subblocksRemaining - 1 = m at h
  induction m generalizing d p n with
  | zero =>
    rw [touches_of_le (by omega)]
    exact Nat.add_le_add_left (touches_pos (hd.next_active (by omega)) (by omega)) _
  | succ m ih =>
    have hnext : (d.next cfg).subblocksRemaining = m + 1 := by
      unfold Duty.next
      dsimp only
      rw [if_neg (by omega), hm]
    rw [Nat.succ_mul] at h
    have hrest : (Place.start l.subblock_pos).remaining + m * l.samplesPerSubblock < n - p.remaining := by
      rw [Place.start_remaining]
      omega
    have := ih hd.next hd.next.remaining.1 (by omega) hrest
    rw [touches_of_le (by omega)]
    omega

end

/-! ### What a piece and an end of a subblock count -/

/-- The samples of a message inside a subblock: only a loud message in an active subblock counts. -/
theorem subblockPiece_some (level : F) (c : Core l F D) (xs : List Sample) :
    (subblockPiece cfg (some level) c xs).duty = c.duty ∧
      (subblockPiece cfg (some level) c xs).control = c.control ∧
      loudDecoded (subblockPiece cfg (some level) c xs) = loudDecoded c +
        if (0 < xs.length ∧ c.subblockActive) ∧ c.control.burstLoudThreshold ≤ level then 1 else 0 := by
  unfold subblockPiece updateActive updateSubblock
  dsimp only
  by_cases hsome : 0 < xs.length
  · by_cases hactive : c.subblockActive = true
    · rw [if_pos hsome, if_pos hactive]
      refine ⟨rfl, rfl, ?_⟩
      unfold loudDecoded
      dsimp only
      rw [burstSkip_loudDecoded]
      by_cases hloud : c.control.burstLoudThreshold ≤ level
      · rw [if_pos hloud, if_pos ⟨⟨hsome, hactive⟩, hloud⟩, UInt32.add_assoc, UInt32.add_comm 1, ← UInt32.add_assoc]
      · rw [if_neg hloud, if_neg fun h => hloud h.2, UInt32.add_zero]
    · rw [if_pos hsome, if_neg hactive, if_neg fun h => hactive h.1.2, UInt32.add_zero]
      exact ⟨rfl, rfl, rfl⟩
  · rw [if_neg hsome, if_neg fun h => hsome h.1.1, UInt32.add_zero]
    exact ⟨rfl, rfl, rfl⟩

theorem endOfBlock_loudDecoded (c : Core l F D) : loudDecoded (endOfBlock cfg sdr c) = loudDecoded c := by
  show (burstEndOfBlock cfg c.burst).blockLoudDecoded + (burstStats cfg c.burst (rangeStats cfg _ c.stats)).loudDecoded = _
  have hrange : ∀ (n : Noise F) (s : Stats F), (rangeStats cfg n s).loudDecoded = s.loudDecoded := fun n s => by
    unfold rangeStats
    split_ifs <;> rfl
  unfold burstEndOfBlock burstStats loudDecoded
  split_ifs
  · rw [hrange]
  · dsimp only
    rw [hrange, UInt32.zero_add, UInt32.add_comm]

variable (cfg) in
theorem nextSubblock_loudDecoded (c : Core l F D) : loudDecoded (nextSubblock cfg c) = loudDecoded c := by
  unfold nextSubblock loudDecoded
  dsimp only
  split_ifs
  · rfl
  · rw [burstEndOfWindow_loudDecoded]

theorem endOfSubblock_loudDecoded (c : Core l F D) : loudDecoded (endOfSubblock cfg sdr c) = loudDecoded c := by
  rw [← nextSubblock_loudDecoded cfg c]
  unfold endOfSubblock
  dsimp only
  split_ifs
  · exact endOfBlock_loudDecoded _
  · rfl

variable (sdr) in
theorem endOfSubblock_duty (c : Core l F D) : (endOfSubblock cfg sdr c).duty = c.duty.next cfg := by
  have hnext : (nextSubblock cfg c).subblocksRemaining = c.subblocksRemaining ∧
      (nextSubblock cfg c).dutycycleCounter = (c.duty.next cfg).counter ∧
      (nextSubblock cfg c).subblockActive = (c.duty.next cfg).active := by
    unfold nextSubblock Duty.next Core.duty
    dsimp only
    split_ifs with h
    · exact ⟨rfl, rfl, (decide_eq_true h).symm⟩
    · exact ⟨rfl, rfl, (decide_eq_false h).symm⟩
  obtain ⟨hremaining, hcounter, hactive⟩ := hnext
  have hduty : ∀ n, n = (c.duty.next cfg).subblocksRemaining →
      ({ nextSubblock cfg c with subblocksRemaining := n } : Core l F D).duty = c.duty.next cfg := fun n hn => by
    unfold Core.duty
    rw [hn, hcounter, hactive]
    rfl
  unfold endOfSubblock
  dsimp only
  rw [hremaining]
  split_ifs with hlast
  · exact hduty _ (if_pos hlast).symm
  · exact hduty _ (if_neg hlast).symm

/-! ### The messages counted in a call -/

section
variable (cfg sdr) in
/-- The core after the samples of a message at some level. -/
def feedMessage (level : F) (c : Core l F D) (p : Place l.samplesPerSubblock) (xs : List Sample) : Core l F D :=
  (feed l.subblock_pos (subblockPiece cfg (some level)) (endOfSubblock cfg sdr) c p xs).1

variable {level : F} {c : Core l F D} {p : Place l.samplesPerSubblock} {xs : List Sample}

theorem feedMessage_of_lt (h : xs.length < p.remaining) :
    feedMessage cfg sdr level c p xs = subblockPiece cfg (some level) c xs := by
  rw [feedMessage, feed_of_lt h]

theorem feedMessage_of_le (h : p.remaining ≤ xs.length) :
    feedMessage cfg sdr level c p xs =
      feedMessage cfg sdr level (endOfSubblock cfg sdr (subblockPiece cfg (some level) c (xs.take p.remaining)))
        (.start l.subblock_pos) (xs.drop p.remaining) := by
  rw [feedMessage, feed_of_le h, feedMessage]

variable (sdr) in
/-- The subblock after this one, when a message fills this one. -/
theorem next_duty (level : F) (c : Core l F D) (ys : List Sample) :
    (endOfSubblock cfg sdr (subblockPiece cfg (some level) c ys)).duty = c.duty.next cfg := by
  rw [endOfSubblock_duty, (subblockPiece_some level c ys).1]

/-- A message that touches no active subblock is not counted. -/
theorem untouched (h : touches cfg c.duty p xs.length = 0) :
    loudDecoded (feedMessage cfg sdr level c p xs) = loudDecoded c := by
  induction hn : xs.length using Nat.strong_induction_on generalizing c p xs with
  | _ n ih =>
    have hp := p.pos
    by_cases hlt : xs.length < p.remaining
    · rw [touches_of_lt hlt] at h
      rw [feedMessage_of_lt hlt, (subblockPiece_some level c xs).2.2, if_neg, UInt32.add_zero]
      intro hcount
      have hone : 0 < xs.length ∧ c.duty.active = true := hcount.1
      rw [if_pos hone] at h
      exact absurd h (by decide)
    · have hle := Nat.not_lt.mp hlt
      rw [touches_of_le hle] at h
      have hinactive : c.subblockActive = false := by
        by_contra hactive
        have hone : c.duty.active = true := Bool.of_not_eq_false hactive
        rw [if_pos hone] at h
        omega
      have hrest : touches cfg (c.duty.next cfg) (.start l.subblock_pos) (xs.drop p.remaining).length = 0 := by
        rw [List.length_drop]
        omega
      rw [← next_duty sdr level c (xs.take p.remaining)] at hrest
      rw [feedMessage_of_le hle, ih _ (by rw [List.length_drop]; omega) hrest rfl, endOfSubblock_loudDecoded,
        subblockPiece_inactive _ hinactive]

/-- The first active subblock touched is this one. -/
theorem touched_here (hactive : c.subblockActive = true) (hxs : 0 < xs.length)
    (h : touches cfg c.duty p xs.length = 1) :
    loudDecoded (feedMessage cfg sdr level c p xs) =
      loudDecoded c + if c.control.burstLoudThreshold ≤ level then 1 else 0 := by
  have hp := p.pos
  by_cases hlt : xs.length < p.remaining
  · rw [feedMessage_of_lt hlt, (subblockPiece_some level c xs).2.2, if_congr (and_iff_right ⟨hxs, hactive⟩) rfl rfl]
  · have hle := Nat.not_lt.mp hlt
    rw [touches_of_le hle, if_pos (show c.duty.active = true from hactive)] at h
    have hrest : touches cfg (c.duty.next cfg) (.start l.subblock_pos) (xs.drop p.remaining).length = 0 := by
      rw [List.length_drop]
      omega
    have hsome : 0 < (xs.take p.remaining).length := by
      rw [List.length_take]
      omega
    rw [← next_duty sdr level c (xs.take p.remaining)] at hrest
    rw [feedMessage_of_le hle, untouched hrest, endOfSubblock_loudDecoded, (subblockPiece_some level c _).2.2,
      if_congr (and_iff_right ⟨hsome, hactive⟩) rfl rfl]

/-! ### Before the first active subblock -/

/-- The duty cycle is in step with the block, and an inactive subblock has no run of loud windows. -/
structure Ready (cfg : Config F) (c : Core l F D) : Prop where
  duty : c.duty.Valid cfg
  quiet : c.subblockActive = false → c.burst.runlength = 0

theorem nextSubblock_inactive (hc : Ready cfg c) (hinactive : c.subblockActive = false) :
    (nextSubblock cfg c).burst = c.burst ∧ (nextSubblock cfg c).noise = c.noise ∧
      (nextSubblock cfg c).control = c.control ∧ (nextSubblock cfg c).subblocksRemaining = c.subblocksRemaining := by
  have hquiet : burstEndOfWindow 0 c.burst = c.burst := by
    unfold burstEndOfWindow
    rw [if_neg (Nat.not_lt_zero _), hc.quiet hinactive, if_neg (by decide), ← hc.quiet hinactive]
  unfold nextSubblock
  dsimp only
  split_ifs
  · exact ⟨rfl, rfl, rfl, rfl⟩
  · exact ⟨hquiet, rfl, rfl, rfl⟩

variable (sdr) in
/-- An inactive subblock inside the block changes the duty cycle only. -/
theorem pass_inactive (hc : Ready cfg c) (hinactive : c.subblockActive = false) (hmore : c.subblocksRemaining - 1 ≠ 0) :
    (endOfSubblock cfg sdr c).burst = c.burst ∧ (endOfSubblock cfg sdr c).noise = c.noise ∧
      (endOfSubblock cfg sdr c).control = c.control := by
  obtain ⟨hburst, hnoise, hcontrol, hremaining⟩ := nextSubblock_inactive hc hinactive
  unfold endOfSubblock
  dsimp only
  rw [hremaining, if_neg hmore]
  exact ⟨hburst, hnoise, hcontrol⟩

/-- The last subblock of the block, an inactive one, updates the control with what there is. -/
theorem pass_last (hc : Ready cfg c) (hinactive : c.subblockActive = false) (hlast : c.subblocksRemaining - 1 = 0) :
    (endOfSubblock cfg sdr c).control = (endOfBlock cfg sdr c).control := by
  obtain ⟨hburst, hnoise, hcontrol, hremaining⟩ := nextSubblock_inactive hc hinactive
  unfold endOfSubblock
  dsimp only
  rw [hremaining, if_pos hlast]
  show controlUpdate cfg sdr (measures (burstEndOfBlock cfg (nextSubblock cfg c).burst)
    (rangeEndOfBlock cfg (nextSubblock cfg c).noise)) (nextSubblock cfg c).control = _
  rw [hburst, hnoise, hcontrol]
  rfl

variable (sdr) in
theorem Ready.next (hc : Ready cfg c) : Ready cfg (endOfSubblock cfg sdr c) := by
  refine ⟨by rw [endOfSubblock_duty]; exact hc.duty.next, ?_⟩
  have hblock : ∀ b : Burst l F, (burstEndOfBlock cfg b).runlength = b.runlength := fun b => by
    unfold burstEndOfBlock
    split_ifs <;> rfl
  have hnext : (nextSubblock cfg c).subblockActive = false → (nextSubblock cfg c).burst.runlength = 0 := by
    unfold nextSubblock
    dsimp only
    split_ifs
    · exact nofun
    · intro _
      unfold burstEndOfWindow
      rw [if_neg (Nat.not_lt_zero _)]
  unfold endOfSubblock
  dsimp only
  split_ifs
  · exact fun hinactive => (hblock _).trans (hnext hinactive)
  · exact hnext

variable (cfg) in
theorem subblockPiece_duty (decoded : Option F) (c : Core l F D) (xs : List Sample) :
    (subblockPiece cfg decoded c xs).duty = c.duty := by
  unfold subblockPiece updateActive
  split_ifs
  · cases decoded <;> rfl
  · rfl
  · rfl

theorem subblockPiece_ready (decoded : Option F) (hc : Ready cfg c) (xs : List Sample) :
    Ready cfg (subblockPiece cfg decoded c xs) := by
  by_cases hactive : c.subblockActive = true
  · have hduty := subblockPiece_duty cfg decoded c xs
    refine ⟨hduty ▸ hc.duty, fun hinactive => ?_⟩
    have hsame : (subblockPiece cfg decoded c xs).subblockActive = c.subblockActive := congrArg Duty.active hduty
    exact absurd (hactive.symm.trans (hsame.symm.trans hinactive)) (by decide)
  · rw [subblockPiece_inactive decoded (Bool.eq_false_iff.mpr hactive)]
    exact hc

variable (sdr level) in
/-- The only active subblock touched comes later: the threshold is that of its block. -/
theorem touched_later (hc : Ready cfg c) (hinactive : c.subblockActive = false)
    (h : touches cfg c.duty p xs.length = 1) :
    ∃ threshold, loudDecoded (feedMessage cfg sdr level c p xs) = loudDecoded c + (if threshold ≤ level then 1 else 0) ∧
      (PassesBlock c.duty p xs.length → threshold = (endOfBlock cfg sdr c).control.burstLoudThreshold) ∧
      (¬ PassesBlock c.duty p xs.length → threshold = c.control.burstLoudThreshold) := by
  induction hn : xs.length using Nat.strong_induction_on generalizing c p xs with
  | _ n ih =>
    have hp := p.pos
    have hduty : c.duty.active = false := hinactive
    by_cases hlt : xs.length < p.remaining
    · rw [touches_of_lt hlt, hduty, if_neg fun hcount => absurd hcount.2 (by decide)] at h
      exact absurd h (by decide)
    have hle := Nat.not_lt.mp hlt
    rw [touches_of_le hle, hduty, if_neg (by decide), Nat.zero_add, ← endOfSubblock_duty sdr,
      ← List.length_drop] at h
    have hsub : c.duty.subblocksRemaining = c.subblocksRemaining := rfl
    have hlen : (xs.drop p.remaining).length = xs.length - p.remaining := List.length_drop
    have hrest : 0 < (xs.drop p.remaining).length := by
      by_contra hnone
      have := touches_le cfg (xs.drop p.remaining).length (endOfSubblock cfg sdr c).duty (.start l.subblock_pos)
      omega
    rw [feedMessage_of_le hle, subblockPiece_inactive _ hinactive]
    by_cases hlast : c.subblocksRemaining - 1 = 0
    · have hactive : (endOfSubblock cfg sdr c).subblockActive = true := by
        have := hc.duty.next_active (by have := hc.duty.remaining; omega)
        rwa [← endOfSubblock_duty sdr] at this
      have hpasses : PassesBlock c.duty p n := by
        unfold PassesBlock
        rw [hsub, hlast]
        omega
      refine ⟨(endOfSubblock cfg sdr c).control.burstLoudThreshold, ?_, fun _ => ?_, fun hno => absurd hpasses hno⟩
      · rw [touched_here hactive hrest h, endOfSubblock_loudDecoded]
      · rw [pass_last hc hinactive hlast]
    · obtain ⟨hsame, hnoise, hcontrol⟩ := pass_inactive sdr hc hinactive hlast
      have hnext : (endOfSubblock cfg sdr c).duty.subblocksRemaining = c.subblocksRemaining - 1 := by
        rw [endOfSubblock_duty]
        exact if_neg hlast
      have hpasses : PassesBlock (endOfSubblock cfg sdr c).duty (.start l.subblock_pos) (xs.drop p.remaining).length ↔
          PassesBlock c.duty p n := by
        have hmul : (c.subblocksRemaining - 1) * l.samplesPerSubblock =
            (c.subblocksRemaining - 1 - 1) * l.samplesPerSubblock + l.samplesPerSubblock := by
          rw [← Nat.succ_mul]
          congr 1
          omega
        unfold PassesBlock
        rw [hnext, hsub, hlen, Place.start_remaining, hmul]
        omega
      by_cases hactive : (endOfSubblock cfg sdr c).subblockActive = true
      · have hno : ¬ PassesBlock c.duty p n := fun hyes => by
          have := touches_of_passes (Ready.next sdr hc).duty (hpasses.mpr hyes)
          rw [if_pos (show (endOfSubblock cfg sdr c).duty.active = true from hactive)] at this
          omega
        refine ⟨c.control.burstLoudThreshold, ?_, fun hyes => absurd hyes hno, fun _ => rfl⟩
        rw [touched_here hactive hrest h, endOfSubblock_loudDecoded, hcontrol]
      · obtain ⟨threshold, hcount, hyes, hno⟩ := ih _ (by omega) (Ready.next sdr hc) (Bool.eq_false_iff.mpr hactive) h rfl
        refine ⟨threshold, by rw [hcount, endOfSubblock_loudDecoded], fun hpass => ?_, fun hpass => ?_⟩
        · rw [hyes (hpasses.mpr hpass)]
          show (controlUpdate cfg sdr (measures (burstEndOfBlock cfg (endOfSubblock cfg sdr c).burst)
            (rangeEndOfBlock cfg (endOfSubblock cfg sdr c).noise)) (endOfSubblock cfg sdr c).control).burstLoudThreshold = _
          rw [hsame, hnoise, hcontrol]
          rfl
        · rw [hno fun hyes => hpass (hpasses.mp hyes), hcontrol]

/-! ### The threshold is a number -/

theorem changeGain_threshold (hdb : sdr.Graded) (step : ℤ) {c : Control F D} (hc : IsNumber c.burstLoudThreshold) :
    IsNumber (changeGain cfg sdr step c).burstLoudThreshold := by
  unfold changeGain
  dsimp only
  split_ifs
  · exact hdb _
  · unfold setGain
    dsimp only
    split_ifs <;> exact hc

variable (cfg sdr) in
theorem burstVote_threshold (m : Measures F) (c : Control F D) :
    (burstVote cfg sdr m c).1.burstLoudThreshold = c.burstLoudThreshold := by
  have hcount : (countBlocks cfg m c).burstLoudThreshold = c.burstLoudThreshold := by
    unfold countBlocks
    split_ifs <;> rfl
  have hstop : (stopDownScan (countBlocks cfg m c)).burstLoudThreshold = c.burstLoudThreshold := by
    rw [← hcount]
    unfold stopDownScan
    split_ifs <;> rfl
  unfold burstVote
  dsimp only
  split_ifs
  · exact hstop
  · exact hcount
  · exact hcount
  · exact hcount
  · rfl

variable (cfg sdr) in
theorem rangeVote_threshold (m : Measures F) (c : Control F D) (v : Votes) :
    (rangeVote cfg sdr m c v).1.burstLoudThreshold = c.burstLoudThreshold := by
  have hlower : ∀ c : Control F D, (lowerLimit sdr c).burstLoudThreshold = c.burstLoudThreshold := fun c => by
    unfold lowerLimit
    split_ifs <;> rfl
  have hraise : (raiseLimit cfg sdr (availableRange m.range) c).burstLoudThreshold = c.burstLoudThreshold := by
    unfold raiseLimit
    split_ifs <;> rfl
  unfold rangeVote
  split_ifs
  · rw [← hraise]
    dsimp only
    generalize raiseLimit cfg sdr (availableRange m.range) c = c
    cases c.rangeState with
    | up =>
      unfold scanUp
      dsimp only
      split_ifs
      · exact hlower _
      · rfl
      · rfl
      · rfl
    | down =>
      unfold scanDown
      dsimp only
      split_ifs
      · rfl
      · exact hlower _
      · exact hlower _
    | idle =>
      unfold scanIdle
      dsimp only
      split_ifs
      · exact hlower _
      · rfl
      · rfl
      · rfl
  · rfl

theorem controlUpdate_threshold (hdb : sdr.Graded) (m : Measures F) {c : Control F D}
    (hc : IsNumber c.burstLoudThreshold) : IsNumber (controlUpdate cfg sdr m c).burstLoudThreshold := by
  have hvoted : IsNumber (rangeVote cfg sdr m (burstVote cfg sdr m (tickTimers c)).1
      (burstVote cfg sdr m (tickTimers c)).2).1.burstLoudThreshold := by
    rw [rangeVote_threshold, burstVote_threshold]
    exact hc
  unfold controlUpdate applyVotes
  dsimp only
  split_ifs
  · exact changeGain_threshold hdb _ hvoted
  · exact changeGain_threshold hdb _ hvoted
  · exact hvoted

theorem endOfSubblock_threshold (hdb : sdr.Graded) (hc : IsNumber c.control.burstLoudThreshold) :
    IsNumber (endOfSubblock cfg sdr c).control.burstLoudThreshold := by
  have hnext : (nextSubblock cfg c).control = c.control := by
    unfold nextSubblock
    dsimp only
    split_ifs <;> rfl
  unfold endOfSubblock
  dsimp only
  split_ifs
  · refine controlUpdate_threshold hdb _ ?_
    rw [hnext]
    exact hc
  · rw [hnext]
    exact hc

variable (cfg) in
theorem subblockPiece_control (decoded : Option F) (c : Core l F D) (xs : List Sample) :
    (subblockPiece cfg decoded c xs).control = c.control := by
  unfold subblockPiece updateActive
  split_ifs
  · cases decoded <;> rfl
  · rfl
  · rfl

/-! ### Loud enough to be counted everywhere -/

theorem subblockPiece_loud {level' : F} (h : c.control.burstLoudThreshold ≤ level)
    (h' : c.control.burstLoudThreshold ≤ level') (xs : List Sample) :
    subblockPiece cfg (some level) c xs = subblockPiece cfg (some level') c xs := by
  unfold subblockPiece updateActive updateSubblock
  dsimp only
  rw [if_pos h, if_pos h']

/-- A message that is loud enough is counted in every active subblock that it touches. -/
theorem eventually_counted [Ordered F] (hdb : sdr.Graded) (c : Core l F D)
    (hc : IsNumber c.control.burstLoudThreshold) (p : Place l.samplesPerSubblock) (xs : List Sample) :
    ∃ least, IsNumber least ∧ ∀ level, least ≤ level → loudDecoded (feedMessage cfg sdr level c p xs) =
      loudDecoded c + UInt32.ofNat (touches cfg c.duty p xs.length) := by
  induction hn : xs.length using Nat.strong_induction_on generalizing c p xs with
  | _ n ih =>
    have hp := p.pos
    subst hn
    by_cases hlt : xs.length < p.remaining
    · refine ⟨c.control.burstLoudThreshold, hc, fun level hlevel => ?_⟩
      rw [feedMessage_of_lt hlt, (subblockPiece_some level c xs).2.2, touches_of_lt hlt,
        if_congr (and_iff_left hlevel) rfl rfl]
      by_cases hcount : 0 < xs.length ∧ c.subblockActive = true
      · rw [if_pos hcount, if_pos (show 0 < xs.length ∧ c.duty.active = true from hcount)]
        rfl
      · rw [if_neg hcount, if_neg (show ¬ (0 < xs.length ∧ c.duty.active = true) from hcount)]
        rfl
    · have hle := Nat.not_lt.mp hlt
      have hlen : (xs.drop p.remaining).length = xs.length - p.remaining := List.length_drop
      have hpiece := subblockPiece_control cfg (some c.control.burstLoudThreshold) c (xs.take p.remaining)
      obtain ⟨least, hnumber, hleast⟩ := ih _ (by omega)
        (endOfSubblock cfg sdr (subblockPiece cfg (some c.control.burstLoudThreshold) c (xs.take p.remaining)))
        (endOfSubblock_threshold hdb (by rw [hpiece]; exact hc)) (.start l.subblock_pos) (xs.drop p.remaining) rfl
      obtain ⟨upper, hupper, hbelow, habove⟩ := Ordered.exists_upper hc hnumber
      refine ⟨upper, hupper, fun level hlevel => ?_⟩
      have hthreshold := Ordered.le_trans hbelow hlevel
      have hself : c.control.burstLoudThreshold ≤ c.control.burstLoudThreshold := hc
      have hsome : 0 < (xs.take p.remaining).length := by
        rw [List.length_take]
        omega
      rw [feedMessage_of_le hle, subblockPiece_loud hthreshold hc, hleast level (Ordered.le_trans habove hlevel),
        endOfSubblock_loudDecoded, next_duty, (subblockPiece_some _ c _).2.2, touches_of_le hle, hlen, UInt32.ofNat_add,
        ← UInt32.add_assoc, if_congr (and_iff_left hself) rfl rfl, if_congr (and_iff_right hsome) rfl rfl]
      congr 2
      by_cases hactive : c.subblockActive = true
      · rw [if_pos hactive, if_pos (show c.duty.active = true from hactive)]
        rfl
      · rw [if_neg hactive, if_neg (show ¬ c.duty.active = true from hactive)]
        rfl

end

/-! ### Runs -/

variable (sdr) in
theorem run_ready (hburst : cfg.burstControl = true) (calls : List (List Sample × Option F)) {s : State l F D}
    (hs : Ready cfg s.core) : Ready cfg (run cfg sdr s calls).core := by
  induction calls generalizing s with
  | nil => exact hs
  | cons call calls ih =>
    refine ih ?_
    show Ready cfg (update cfg sdr call.1 call.2 s).core
    rw [update_eq hburst]
    exact feed_invariant (I := fun c _ => Ready cfg c) (fun c _ xs hc _ => subblockPiece_ready _ hc xs)
      (fun c _ xs hc _ => (subblockPiece_ready _ hc xs).next sdr) hs call.1

theorem init_ready {device : D} {s : State l F D} (h : init cfg sdr l device = some s) : Ready cfg s.core := by
  unfold init at h
  split_ifs at h
  cases h
  refine ⟨⟨⟨show 1 ≤ subblocksPerBlock by decide, le_refl _⟩, ?_⟩, fun _ => rfl⟩
  show 0 = (subblocksPerBlock - subblocksPerBlock) * _ % _
  rw [Nat.sub_self, Nat.zero_mul, Nat.zero_mod]

theorem init_threshold (hdb : sdr.Graded) {device : D} {s : State l F D} (h : init cfg sdr l device = some s) :
    IsNumber s.core.control.burstLoudThreshold := by
  unfold init at h
  split_ifs at h
  cases h
  exact hdb _

theorem run_threshold (hdb : sdr.Graded) (hburst : cfg.burstControl = true) (calls : List (List Sample × Option F))
    {s : State l F D} (hs : IsNumber s.core.control.burstLoudThreshold) :
    IsNumber (run cfg sdr s calls).core.control.burstLoudThreshold := by
  induction calls generalizing s with
  | nil => exact hs
  | cons call calls ih =>
    refine ih ?_
    show IsNumber (update cfg sdr call.1 call.2 s).core.control.burstLoudThreshold
    rw [update_eq hburst]
    refine feed_invariant (I := fun (c : Core l F D) _ => IsNumber c.control.burstLoudThreshold) (fun c _ xs hc _ => ?_)
      (fun c _ xs hc _ => endOfSubblock_threshold hdb ?_) hs call.1
    · rw [subblockPiece_control]
      exact hc
    · rw [subblockPiece_control]
      exact hc

theorem update_message (hburst : cfg.burstControl = true) (xs : List Sample) (level : F) (s : State l F D) :
    (update cfg sdr xs (some level) s).core = feedMessage cfg sdr level s.core s.subblock xs := by
  rw [update_eq hburst]
  rfl

/-- What is accounted for touches one active subblock at most. -/
theorem Accounted.touched [Ordered F] (hdb : sdr.Graded) (hburst : cfg.burstControl = true) {s : State l F D} {n : ℕ} (hn : n < 2 ^ 32)
    (hnumber : IsNumber s.core.control.burstLoudThreshold) (hall : Accounted cfg sdr s n) : activeTouched cfg s n ≤ 1 := by
  have hsamples : (List.replicate n (0 : Sample)).length = n := List.length_replicate
  have hquiet : ∀ x ∈ List.replicate n (0 : Sample), x < 46395 := fun x hx => by
    rw [List.eq_of_mem_replicate hx]
    decide
  by_contra hmany
  obtain ⟨least, hleast, hcounted⟩ := eventually_counted hdb s.core hnumber s.subblock (List.replicate n (0 : Sample))
  obtain ⟨level, -, hbelow, habove⟩ := Ordered.exists_upper hleast hnumber
  have hcount := (hall _ _ level hsamples hsamples hquiet habove).1
  rw [update_message hburst, hcounted _ hbelow, hsamples, if_pos (by omega)] at hcount
  have hnat := congrArg UInt32.toNat (add_left_cancel hcount)
  have hsize : touches cfg s.core.duty s.subblock n < UInt32.size := lt_of_le_of_lt (touches_le cfg n _ _) hn
  rw [UInt32.toNat_ofNat_of_lt' hsize] at hnat
  exact hmany hnat.le

/-- **Main theorem.** In every state that calls lead to, loud messages of `n` samples are accounted for
once exactly if they touch one active subblock at most and, should they go on in the next block, the
control update in between does not raise the loud threshold. -/
theorem accounted_iff [Ordered F] (hdb : sdr.Graded) (hburst : cfg.burstControl = true) {device : D} {start : State l F D}
    (hinit : init cfg sdr l device = some start) (calls : List (List Sample × Option F)) {n : ℕ} (hn : n < 2 ^ 32) :
    Accounted cfg sdr (run cfg sdr start calls) n ↔
      activeTouched cfg (run cfg sdr start calls) n ≤ 1 ∧
        (PassesBlock (run cfg sdr start calls).core.duty (run cfg sdr start calls).subblock n →
          (endOfBlock cfg sdr (run cfg sdr start calls).core).control.burstLoudThreshold ≤
            (run cfg sdr start calls).core.control.burstLoudThreshold) := by
  have hready := run_ready sdr hburst calls (init_ready hinit)
  have hnumber := run_threshold hdb hburst calls (init_threshold hdb hinit)
  generalize run cfg sdr start calls = s at hready hnumber
  have hsamples : (List.replicate n (0 : Sample)).length = n := List.length_replicate
  have hquiet : ∀ x ∈ List.replicate n (0 : Sample), x < 46395 := fun x hx => by
    rw [List.eq_of_mem_replicate hx]
    decide
  have hmost : touches cfg s.core.duty s.subblock n ≤ n := touches_le cfg n _ _
  unfold activeTouched
  constructor
  · intro hall
    have hone := hall.touched hdb hburst hn hnumber
    unfold activeTouched at hone
    refine ⟨hone, fun hpasses => ?_⟩
    have htouched := touches_of_passes hready.duty hpasses
    have hinactive : s.core.subblockActive = false := by
      by_contra hactive
      rw [if_pos (show s.core.duty.active = true from Bool.of_not_eq_false hactive)] at htouched
      omega
    have h1 : touches cfg s.core.duty s.subblock (List.replicate n (0 : Sample)).length = 1 := by
      rw [hsamples]
      omega
    obtain ⟨threshold, hlater, hyes, -⟩ := touched_later sdr s.core.control.burstLoudThreshold
      hready hinactive h1
    have hcount := (hall _ _ _ hsamples hsamples hquiet hnumber).1
    rw [hsamples] at h1 hyes
    rw [update_message hburst, hlater, activeTouched, h1, if_pos (by decide : 0 < 1)] at hcount
    rw [← hyes hpasses]
    by_contra hraised
    rw [if_neg hraised] at hcount
    exact absurd (add_left_cancel hcount) (by decide)
  · intro hcond xs quiet level hxs hlen hq hloud
    obtain ⟨hone, hraise⟩ := hcond
    refine ⟨?_, quiet_same hburst s level (hlen.trans hxs.symm) hq⟩
    subst hxs
    rw [update_message hburst, activeTouched]
    by_cases hnone : touches cfg s.core.duty s.subblock xs.length = 0
    · rw [untouched hnone, hnone, if_neg (by decide), UInt32.add_zero]
    · have h1 : touches cfg s.core.duty s.subblock xs.length = 1 := by omega
      rw [h1, if_pos (by decide : 0 < 1)]
      by_cases hactive : s.core.subblockActive = true
      · rw [touched_here hactive (by omega) h1, if_pos hloud]
      · obtain ⟨threshold, hlater, hyes, hno⟩ := touched_later sdr level hready
          (Bool.eq_false_iff.mpr hactive) h1
        rw [hlater, if_pos]
        by_cases hpasses : PassesBlock s.core.duty s.subblock xs.length
        · exact Ordered.le_trans (hyes hpasses ▸ hraise hpasses) hloud
        · exact hno hpasses ▸ hloud

/-! ### Every subblock active -/

/-- The defaults with the whole of the samples looked at and burst control only. -/
def fullDuty : Config ℚ := { defaults with dutyCycle := 1, rangeControl := false }

theorem fullDuty_N : dutycycleN fullDuty = 20 := by
  decide +kernel

theorem next_fullDuty {d : Duty} (hd : d.counter = 0) :
    (d.next fullDuty).active = true ∧ (d.next fullDuty).counter = 0 := by
  unfold Duty.next
  rw [fullDuty_N, hd]
  exact ⟨rfl, rfl⟩

theorem layout_subblock : layout.samplesPerSubblock = 120000 := layout.subblock_eq

theorem tuner_graded : tuner.Graded := fun _ => le_refl (_ : ℚ)

/-- After 239900 samples, 100 samples before the end of an active subblock. -/
theorem fullDuty_place {start : State layout ℚ ℤ} (hinit : init fullDuty tuner layout 3 = some start) :
    (run fullDuty tuner start [(List.replicate 239900 0, none)]).subblock.remaining = 100 ∧
      (run fullDuty tuner start [(List.replicate 239900 0, none)]).core.duty.active = true ∧
        (run fullDuty tuner start [(List.replicate 239900 0, none)]).core.duty.counter = 0 := by
  unfold init at hinit
  split_ifs at hinit
  cases hinit
  generalize hxs : List.replicate 239900 (0 : Sample) = xs
  have hlen : xs.length = 239900 := by rw [← hxs, List.length_replicate]
  have hwhole : (Place.start layout.subblock_pos).remaining = 120000 := layout_subblock
  have hfill : (Place.start layout.subblock_pos).remaining ≤ xs.length := by omega
  have hrest : (xs.drop (Place.start layout.subblock_pos).remaining).length <
      (Place.start layout.subblock_pos).remaining := by
    rw [List.length_drop]
    omega
  unfold run
  rw [List.foldl_cons, List.foldl_nil, update_eq rfl, feed_of_le hfill, feed_of_lt hrest]
  dsimp only
  rw [subblockPiece_duty, endOfSubblock_duty, subblockPiece_duty]
  generalize hd : Core.duty _ = d
  have hcounter : d.counter = 0 := by rw [← hd]; rfl
  refine ⟨?_, next_fullDuty hcounter⟩
  rw [Place.advance_remaining, List.length_drop, hlen, hwhole]

/-- A message of 288 samples, 100 of them in one subblock and the others in the next one, counts twice. -/
theorem counted_twice : ∃ start, init fullDuty tuner layout 3 = some start ∧
    ¬ Accounted fullDuty tuner (run fullDuty tuner start [(List.replicate 239900 0, none)]) 288 := by
  refine ⟨_, rfl, fun h => ?_⟩
  have htouched := h.touched tuner_graded rfl (by decide) (le_refl (_ : ℚ))
  obtain ⟨hremaining, hactive, hcounter⟩ := fullDuty_place rfl
  have hafter := next_fullDuty hcounter
  rw [activeTouched, touches_of_le (by omega), if_pos hactive, hremaining,
    touches_of_lt (by rw [Place.start_remaining, layout_subblock]; decide), if_pos ⟨by decide, hafter.1⟩] at htouched
  exact absurd htouched (by decide)

/-- The 50 samples after those are accounted for. -/
theorem accounted_fullDuty : ∃ start, init fullDuty tuner layout 3 = some start ∧
    Accounted fullDuty tuner (run fullDuty tuner start [(List.replicate 239900 0, none)]) 50 := by
  refine ⟨_, rfl, (accounted_iff tuner_graded rfl rfl _ (by decide)).mpr ?_⟩
  obtain ⟨hremaining, -, -⟩ := fullDuty_place rfl
  refine ⟨?_, fun hpasses => ?_⟩
  · rw [activeTouched, touches_of_lt (by omega)]
    split_ifs <;> decide
  · unfold PassesBlock at hpasses
    omega

end RbFeeder.Adaptive
