import RbFeeder.Adaptive.Control
import RbFeeder.Lib.Periods

/-! Adaptive gain control: the samples.

A block is 20 subblocks, a subblock 1250 windows. The subblocks of the duty cycle's active
part are measured, the others are skipped whole. Loud samples are counted in windows; a run
of two to five loud windows is an undecoded burst. -/
namespace RbFeeder.Adaptive
open Periods

abbrev Sample := UInt16

/-- The sizes set by the sample rate. -/
structure Layout where
  samplesPerWindow : ℕ
  window_pos : 0 < samplesPerWindow

def subblocksPerBlock : ℕ := 20

@[irreducible]
def Layout.samplesPerSubblock (l : Layout) : ℕ := l.samplesPerWindow * 1250

theorem Layout.subblock_eq (l : Layout) : l.samplesPerSubblock = l.samplesPerWindow * 1250 := by
  rw [samplesPerSubblock]

theorem Layout.subblock_pos (l : Layout) : 0 < l.samplesPerSubblock := by
  rw [subblock_eq]
  exact Nat.mul_pos l.window_pos (by decide)

/-- The variables `adaptive_burst_*` of the measurement. -/
structure Burst (l : Layout) (F : Type) where
  /-- `adaptive_burst_window_remaining`. -/
  window : Place l.samplesPerWindow
  windowCounter : ℕ
  runlength : UInt32
  blockLoudUndecoded : UInt32
  blockLoudDecoded : UInt32
  loudUndecodedSmoothed : F
  loudDecodedSmoothed : F

/-- The variables `adaptive_range_*` of the measurement. -/
structure Noise (F : Type) where
  radix : UInt16 → UInt32
  radixCounter : UInt32
  smoothed : F

/-- What is kept in `stats_current`. -/
structure Stats (F : Type) where
  valid : Bool
  gain : ℤ
  gainSeconds : ℕ → UInt32
  loudUndecoded : UInt32
  loudDecoded : UInt32
  noiseDbfs : F
  rangeGainLimit : ℤ

/-- The adaptive system, but for the samples remaining in the subblock. -/
structure Core (l : Layout) (F D : Type) where
  subblocksRemaining : ℕ
  dutycycleCounter : ℕ
  subblockActive : Bool
  burst : Burst l F
  noise : Noise F
  control : Control F D
  stats : Stats F
  /-- Not in the source: the control updates so far, the last one first. -/
  updates : List (Measures F × Control F D)

structure State (l : Layout) (F D : Type) where
  core : Core l F D
  /-- `adaptive_subblock_samples_remaining`. -/
  subblock : Place l.samplesPerSubblock

section
variable {l : Layout} {F D : Type} [Arithmetic F] (cfg : Config F) (sdr : Sdr F D)

/-- `adaptive_subblock_dutycycle_N`. -/
def dutycycleN : ℕ :=
  let n := Arithmetic.roundf (Arithmetic.float ((subblocksPerBlock : F) * cfg.dutyCycle))
  let n := if n ≤ 0 then 1 else n
  (if n > subblocksPerBlock then (subblocksPerBlock : ℤ) else n).toNat

/-! ### Bursts -/

/-- `starch_count_above_u16`, from -3 dBFS on. -/
def burstCountSamples (xs : List Sample) : ℕ := xs.countP (46395 ≤ ·)

def burstEndOfWindow (counter : ℕ) (b : Burst l F) : Burst l F :=
  if counter > l.samplesPerWindow / 4 then { b with runlength := b.runlength + 1 }
  else
    { b with
      blockLoudUndecoded :=
        if 2 ≤ b.runlength ∧ b.runlength ≤ 5 then b.blockLoudUndecoded + 1 else b.blockLoudUndecoded
      runlength := 0 }

def burstScanWindows : ℕ → List Sample → Burst l F → Burst l F
  | 0, _, b => b
  | windows + 1, xs, b =>
    burstScanWindows windows (xs.drop l.samplesPerWindow)
      (burstEndOfWindow (burstCountSamples (xs.take l.samplesPerWindow)) b)

def burstUpdate (xs : List Sample) (b : Burst l F) : Burst l F :=
  if !cfg.burstControl then b
  else if h : xs.length < b.window.remaining then
    { b with windowCounter := b.windowCounter + burstCountSamples xs, window := b.window.advance _ h }
  else
    let n := b.window.remaining
    let b := burstEndOfWindow (b.windowCounter + burstCountSamples (xs.take n)) b
    let xs := xs.drop n
    let windows := xs.length / l.samplesPerWindow
    let b := burstScanWindows windows xs b
    { b with
      windowCounter := burstCountSamples (xs.drop (windows * l.samplesPerWindow))
      window := (Place.start l.window_pos).advance _ (rest_lt l.window_pos xs) }

/-- Dispatch quiet windows. -/
def burstSkipWindows : ℕ → Burst l F → Burst l F
  | 0, b => b
  | windows + 1, b => burstSkipWindows windows (burstEndOfWindow 0 b)

def burstSkip (length : ℕ) (b : Burst l F) : Burst l F :=
  if !cfg.burstControl then b
  else if h : length < b.window.remaining then { b with window := b.window.advance length h }
  else
    let length := length - b.window.remaining
    let b := burstEndOfWindow b.windowCounter b
    let windows := length / l.samplesPerWindow
    let b := burstSkipWindows windows b
    { b with
      windowCounter := 0
      window :=
        (Place.start l.window_pos).advance (length - windows * l.samplesPerWindow) (sub_whole_lt l.window_pos length) }

/-- The burst part of the end of a block. -/
def burstEndOfBlock (b : Burst l F) : Burst l F :=
  if !cfg.burstControl then b
  else
    let scale : F := (subblocksPerBlock : F) / (dutycycleN cfg : F)
    let smooth (smoothed : F) (block : UInt32) : F :=
      smoothed * (((1 : ℕ) : F) - cfg.burstAlpha) + scale * (block.toNat : F) * cfg.burstAlpha
    { b with
      loudUndecodedSmoothed := smooth b.loudUndecodedSmoothed b.blockLoudUndecoded
      blockLoudUndecoded := 0
      loudDecodedSmoothed := smooth b.loudDecodedSmoothed b.blockLoudDecoded
      blockLoudDecoded := 0 }

/-- What the end of a block adds to the statistics of bursts. -/
def burstStats (b : Burst l F) (s : Stats F) : Stats F :=
  if !cfg.burstControl then s
  else
    { s with
      loudUndecoded := s.loudUndecoded + b.blockLoudUndecoded
      loudDecoded := s.loudDecoded + b.blockLoudDecoded }

/-! ### Noise -/

def radixAdd (radix : UInt16 → UInt32) (x : Sample) : UInt16 → UInt32 :=
  Function.update radix x (radix x + 1)

def rangeUpdate (xs : List Sample) (n : Noise F) : Noise F :=
  if !cfg.rangeControl then n
  else
    { n with
      radixCounter := n.radixCounter + UInt32.ofNat xs.length
      radix := xs.foldl radixAdd n.radix }

/-- The scan of the buckets from `i` on, with `n` samples seen, `left` of them left. -/
def percentileFrom (radix : UInt16 → UInt32) (count : UInt32) (i : ℕ) (n : UInt32) : ℕ → ℕ
  | 0 => i
  | left + 1 =>
    if n ≤ count then percentileFrom radix count (i + 1) (n + radix (UInt16.ofNat i)) left else i

def percentile (n : Noise F) : UInt16 :=
  UInt16.ofNat (percentileFrom n.radix (n.radixCounter * cfg.rangePercentile / 100) 0 0 65536 - 1)

def rangeEndOfBlock (n : Noise F) : Noise F :=
  if !cfg.rangeControl then n
  else
    { radix := fun _ => 0
      radixCounter := 0
      smoothed := n.smoothed * (((1 : ℕ) : F) - cfg.rangeAlpha) + ((percentile cfg n).toNat : F) * cfg.rangeAlpha }

/-- The noise in dBFS for the statistics, after the end of a block. -/
def rangeStats (n : Noise F) (s : Stats F) : Stats F :=
  if !cfg.rangeControl then s
  else
    { s with
      noiseDbfs :=
        if n.smoothed > ((0 : ℕ) : F) then ((20 : ℕ) : F) * Arithmetic.log10 (n.smoothed / ((65536 : ℕ) : F))
        else ((0 : ℕ) : F) }

/-! ### Blocks -/

def measures (b : Burst l F) (n : Noise F) : Measures F :=
  ⟨b.loudUndecodedSmoothed, b.loudDecodedSmoothed, n.smoothed⟩

/-- `STATS_GAIN_COUNT` counters of seconds, the last one for all the gains from there on. -/
def gainIndex (gain : ℤ) : ℕ := if 0 ≤ gain ∧ gain < 64 then gain.toNat else 63

def endOfBlock (c : Core l F D) : Core l F D :=
  let noise := rangeEndOfBlock cfg c.noise
  let burst := burstEndOfBlock cfg c.burst
  let stats := burstStats cfg c.burst (rangeStats cfg noise c.stats)
  let control := controlUpdate cfg sdr (measures burst noise) c.control
  let gain := sdr.getGain control.device
  { c with
    noise, burst, control
    stats :=
      { stats with
        valid := true
        gain
        rangeGainLimit := control.rangeGainLimit
        gainSeconds := Function.update stats.gainSeconds (gainIndex gain) (stats.gainSeconds (gainIndex gain) + 1) }
    updates := (measures burst noise, control) :: c.updates }

/-! ### Subblocks -/

/-- Samples inside one subblock: of a decoded message at some level, or not. -/
def updateSubblock (decoded : Option F) (c : Core l F D) (xs : List Sample) : Core l F D :=
  match decoded with
  | some signalLevel =>
    let b :=
      if signalLevel ≥ c.control.burstLoudThreshold then
        { c.burst with blockLoudDecoded := c.burst.blockLoudDecoded + 1 }
      else c.burst
    { c with burst := burstSkip cfg xs.length b }
  | none => { c with burst := burstUpdate cfg xs c.burst, noise := rangeUpdate cfg xs c.noise }

/-- Only the active subblocks are looked at. -/
def updateActive (decoded : Option F) (c : Core l F D) (xs : List Sample) : Core l F D :=
  if c.subblockActive then updateSubblock cfg decoded c xs else c

/-- Move the duty cycle on to the next subblock. -/
def nextSubblock (c : Core l F D) : Core l F D :=
  let counter := c.dutycycleCounter + dutycycleN cfg
  if counter ≥ subblocksPerBlock then
    { c with dutycycleCounter := counter - subblocksPerBlock, subblockActive := true }
  else
    -- A quiet window ends any run there is.
    { c with dutycycleCounter := counter, subblockActive := false, burst := burstEndOfWindow 0 c.burst }

/-- What `adaptive_update` does where a subblock ends. -/
def endOfSubblock (c : Core l F D) : Core l F D :=
  let c := nextSubblock cfg c
  if c.subblocksRemaining - 1 = 0 then endOfBlock cfg sdr { c with subblocksRemaining := subblocksPerBlock }
  else { c with subblocksRemaining := c.subblocksRemaining - 1 }

/-- The loop of `adaptive_update`, and what follows it. -/
def updateFrom (decoded : Option F) (c : Core l F D) (p : Place l.samplesPerSubblock) (xs : List Sample) :
    State l F D :=
  if h : p.remaining ≤ xs.length then
    updateFrom decoded (endOfSubblock cfg sdr (updateActive cfg decoded c (xs.take p.remaining)))
      (.start l.subblock_pos) (xs.drop p.remaining)
  else if 0 < xs.length then ⟨updateActive cfg decoded c xs, p.advance xs.length (Nat.not_le.mp h)⟩
  else ⟨c, p⟩
termination_by xs.length
decreasing_by
  have := p.pos
  simp only [List.length_drop]
  omega

/-- `adaptive_update`, with the signal level of the message when there is one. -/
def update (xs : List Sample) (decoded : Option F) (s : State l F D) : State l F D :=
  if !cfg.burstControl && !cfg.rangeControl then s
  else updateFrom cfg sdr decoded s.core s.subblock xs

/-- `adaptive_init`; without a gain to control, or a reason to, there is nothing to set up. -/
def init (l : Layout) (device : D) : Option (State l F D) :=
  if sdr.getMaxGain < 0 ∨ !cfg.burstControl ∧ !cfg.rangeControl then none
  else
    some
      { subblock := .start l.subblock_pos
        core :=
          { subblocksRemaining := subblocksPerBlock, dutycycleCounter := 0, subblockActive := false
            burst :=
              { window := .start l.window_pos, windowCounter := 0, runlength := 0, blockLoudUndecoded := 0
                blockLoudDecoded := 0, loudUndecodedSmoothed := ((0 : ℕ) : F)
                loudDecodedSmoothed := ((0 : ℕ) : F) }
            noise := { radix := fun _ => 0, radixCounter := 0, smoothed := ((0 : ℕ) : F) }
            control := initControl cfg sdr device
            stats :=
              { valid := false, gain := 0, gainSeconds := fun _ => 0, loudUndecoded := 0, loudDecoded := 0
                noiseDbfs := ((0 : ℕ) : F), rangeGainLimit := 0 }
            updates := [] } }

end

/-! ### A receiver -/

/-- Rational arithmetic, with the logarithm and the power as they are at whole exponents. -/
instance : Arithmetic ℚ where
  decLt := inferInstance
  decLe := inferInstance
  log10 x := Int.log 10 x
  pow10 x := (10 : ℚ) ^ ⌊x⌋
  roundf := round
  float := id

instance : Ordered ℚ where
  le_trans := le_trans
  le_total _ _ := le_total _ _

/-- The steps of a tuner from 0 dB to 49 dB, all 7 dB apart. -/
def tuner : Sdr ℚ ℤ where
  getGain step := step
  getMaxGain := 7
  getGainDb step := 7 * (max 0 (min 7 step) : ℤ)
  setGain step _ := (max 0 (min 7 step), max 0 (min 7 step))

/-- The defaults of the program, with both controls on and 20 dB to reach. -/
def defaults : Config ℚ where
  minGainDb := 0
  maxGainDb := 99999
  dutyCycle := 1 / 2
  burstControl := true
  burstAlpha := 1 / 3
  burstChangeDelay := 5
  burstLoudRate := 5
  burstLoudRunlength := 10
  burstQuietRate := 5
  burstQuietRunlength := 10
  rangeControl := true
  rangeAlpha := 1 / 3
  rangePercentile := 40
  rangeTarget := 20
  rangeChangeDelay := 10
  rangeRescanDelay := 3600

/-- 2.4 MHz. -/
def layout : Layout := ⟨96, by decide⟩

end RbFeeder.Adaptive
