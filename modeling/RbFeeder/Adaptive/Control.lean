import Mathlib

/-! Adaptive gain control: the decision at the end of a block.

Burst control and the dynamic range scan vote on the gain, and the gain then moves one step
at most. The types `float` and `double` are any type with the operations and comparisons the
code applies, whatever these round to, and whatever they make of a value that is not a
number. -/
namespace RbFeeder.Adaptive

/-- The arithmetic of the measurements and thresholds. There are no laws: no comparison need
hold of a NaN. -/
class Arithmetic (F : Type) extends LT F, LE F, Add F, Sub F, Mul F, Div F, NatCast F where
  decLt : DecidableLT F
  decLe : DecidableLE F
  log10 : F → F
  /-- `pow(10, x)`. -/
  pow10 : F → F
  roundf : F → ℤ
  /-- The conversion of a `double` to a `float`. -/
  float : F → F

attribute [reducible, instance] Arithmetic.decLt Arithmetic.decLe

section
variable {F : Type} [Arithmetic F]

/-- Only a number compares with itself. -/
def IsNumber (x : F) : Prop := x ≤ x

instance (x : F) : Decidable (IsNumber x) := inferInstanceAs (Decidable (x ≤ x))

variable (F) in
/-- The order of IEEE 754, on the numbers. -/
class Ordered : Prop where
  le_trans {x y z : F} : x ≤ y → y ≤ z → x ≤ z
  le_total {x y : F} : IsNumber x → IsNumber y → x ≤ y ∨ y ≤ x

variable (F) in
/-- What IEEE 754 and the C library say of values that are not numbers, as far as the noise
floor meets them: none compares, and only the logarithm makes one of a number. -/
class Ieee : Prop extends Ordered F where
  lt_or_le {x y : F} : IsNumber x → IsNumber y → x < y ∨ y ≤ x
  numbers_of_lt {x y : F} : x < y → IsNumber x ∧ IsNumber y
  numbers_of_le {x y : F} : x ≤ y → IsNumber x ∧ IsNumber y
  number_float {x : F} : IsNumber (Arithmetic.float x) ↔ IsNumber x
  number_div {x : F} {n : ℕ} : 0 < n → n ≤ 65536 → (IsNumber (x / (n : F)) ↔ IsNumber x)
  number_mul {x : F} {n : ℕ} : 0 < n → n ≤ 65536 → (IsNumber ((((0 : ℕ) : F) - (n : F)) * x) ↔ IsNumber x)
  number_log10 {x : F} : IsNumber (Arithmetic.log10 x) ↔ IsNumber x ∧ ¬ x < ((0 : ℕ) : F)

theorem Ordered.exists_upper [Ordered F] {x y : F} (hx : IsNumber x) (hy : IsNumber y) :
    ∃ z : F, IsNumber z ∧ x ≤ z ∧ y ≤ z := by
  obtain h | h := Ordered.le_total hx hy
  · exact ⟨y, hy, h, hy⟩
  · exact ⟨x, hx, hx, h⟩

end

/-- The functions of the SDR in use. -/
structure Sdr (F D : Type) where
  getGain : D → ℤ
  getMaxGain : ℤ
  getGainDb : ℤ → F
  /-- `sdrSetGain`, with the step it returns. -/
  setGain : ℤ → D → D × ℤ

/-- The SDR takes every step in its range as it is. -/
def Sdr.Exact {F D : Type} (sdr : Sdr F D) : Prop :=
  ∀ step d, 0 ≤ step → step ≤ sdr.getMaxGain →
    (sdr.setGain step d).2 = step ∧ sdr.getGain (sdr.setGain step d).1 = step

/-- The members `adaptive_*` of `Modes`. -/
structure Config (F : Type) where
  minGainDb : F
  maxGainDb : F
  dutyCycle : F
  burstControl : Bool
  burstAlpha : F
  burstChangeDelay : ℕ
  burstLoudRate : F
  burstLoudRunlength : UInt32
  burstQuietRate : F
  burstQuietRunlength : UInt32
  rangeControl : Bool
  rangeAlpha : F
  rangePercentile : UInt32
  rangeTarget : F
  rangeChangeDelay : ℕ
  rangeRescanDelay : ℕ

inductive RangeState where
  | idle
  | up
  | down
deriving DecidableEq

/-- What the measurements of a block come to. -/
structure Measures (F : Type) where
  loudUndecoded : F
  loudDecoded : F
  /-- The noise floor, as a magnitude. -/
  range : F

/-- The variables of the control update, and the device. -/
structure Control (F D : Type) where
  device : D
  gainUpDb : F
  gainDownDb : F
  burstChangeTimer : ℕ
  burstLoudThreshold : F
  burstLoudBlocks : UInt32
  burstQuietBlocks : UInt32
  rangeState : RangeState
  rangeChangeTimer : ℕ
  rangeRescanTimer : ℕ
  rangeGainLimit : ℤ
  /-- `stats_current.adaptive_gain_changes`. -/
  gainChanges : UInt32

/-- The votes for what to do with the gain. -/
structure Votes where
  up : Bool
  down : Bool
  notUp : Bool
deriving DecidableEq

def Votes.none : Votes := ⟨false, false, false⟩

section
variable {F D : Type} [Arithmetic F] (cfg : Config F) (sdr : Sdr F D)

/-! ### Gain limits -/

def gainMinFrom (step : ℤ) : ℕ → ℤ
  | 0 => step
  | left + 1 => if sdr.getGainDb step ≥ cfg.minGainDb then step else gainMinFrom (step + 1) left

def gainMin : ℤ := gainMinFrom cfg sdr 0 sdr.getMaxGain.toNat

def gainMaxFrom (step : ℤ) : ℕ → ℤ
  | 0 => step
  | left + 1 => if sdr.getGainDb step ≤ cfg.maxGainDb then step else gainMaxFrom (step - 1) left

def gainMax : ℤ := gainMaxFrom cfg sdr sdr.getMaxGain (sdr.getMaxGain - gainMin cfg sdr).toNat

/-! ### Changing the gain -/

def clampGain (step : ℤ) : ℤ :=
  let step := if step < gainMin cfg sdr then gainMin cfg sdr else step
  if step > gainMax cfg sdr then gainMax cfg sdr else step

/-- `adaptive_set_gain`: whether the gain changed is the second component. -/
def setGain (step : ℤ) (c : Control F D) : Control F D × Bool :=
  let step := clampGain cfg sdr step
  let current := sdr.getGain c.device
  if current = step then (c, false)
  else
    let r := sdr.setGain step c.device
    let changed := current != r.2
    ({ c with device := r.1, gainChanges := if changed then c.gainChanges + 1 else c.gainChanges }, changed)

def gainChanged (c : Control F D) : Control F D :=
  let gain := sdr.getGain c.device
  let up := Arithmetic.float (sdr.getGainDb (gain + 1) - sdr.getGainDb gain)
  let loudThresholdDbfs := ((0 : ℕ) : F) - up - ((3 : ℕ) : F)
  { c with
    gainUpDb := up
    gainDownDb := Arithmetic.float (sdr.getGainDb gain - sdr.getGainDb (gain - 1))
    burstLoudThreshold := Arithmetic.pow10 (loudThresholdDbfs / ((10 : ℕ) : F))
    rangeChangeTimer := cfg.rangeChangeDelay
    burstChangeTimer := cfg.burstChangeDelay
    burstLoudBlocks := 0
    burstQuietBlocks := 0 }

/-- `adaptive_increase_gain` and `adaptive_decrease_gain`, for the step asked for. -/
def changeGain (step : ℤ) (c : Control F D) : Control F D :=
  let r := setGain cfg sdr step c
  if r.2 then gainChanged cfg sdr r.1 else r.1

def increaseGain (c : Control F D) : Control F D := changeGain cfg sdr (sdr.getGain c.device + 1) c

def decreaseGain (c : Control F D) : Control F D := changeGain cfg sdr (sdr.getGain c.device - 1) c

/-! ### The control update -/

def tickTimers (c : Control F D) : Control F D :=
  { c with
    burstChangeTimer := c.burstChangeTimer - 1
    rangeChangeTimer := c.rangeChangeTimer - 1
    rangeRescanTimer := c.rangeRescanTimer - 1 }

/-- Count the consecutive blocks that are loud, or quiet. -/
def countBlocks (m : Measures F) (c : Control F D) : Control F D :=
  if m.loudUndecoded > cfg.burstLoudRate then
    { c with burstQuietBlocks := 0, burstLoudBlocks := c.burstLoudBlocks + 1 }
  else if m.loudDecoded < cfg.burstQuietRate then
    { c with burstLoudBlocks := 0, burstQuietBlocks := c.burstQuietBlocks + 1 }
  else { c with burstLoudBlocks := 0, burstQuietBlocks := 0 }

/-- Too many loud blocks stop a downward scan, to be started again later. -/
def stopDownScan (c : Control F D) : Control F D :=
  if c.rangeState = .down then { c with rangeState := .idle, rangeRescanTimer := 0 } else c

/-- The vote of burst control. -/
def burstVote (m : Measures F) (c : Control F D) : Control F D × Votes :=
  if cfg.burstControl ∧ c.burstChangeTimer = 0 then
    let c := countBlocks cfg m c
    if c.burstLoudBlocks ≥ cfg.burstLoudRunlength then (stopDownScan c, { up := false, down := true, notUp := true })
    else if c.burstQuietBlocks < cfg.burstQuietRunlength then (c, { up := false, down := false, notUp := true })
    else if sdr.getGain c.device < c.rangeGainLimit then (c, { up := true, down := false, notUp := false })
    else (c, Votes.none)
  else (c, Votes.none)

/-- The dynamic range in dB above a noise floor. -/
def availableRange (range : F) : F :=
  Arithmetic.float ((((0 : ℕ) : F) - ((20 : ℕ) : F)) * Arithmetic.log10 (range / ((65536 : ℕ) : F)))

/-- A gain that falls short takes the limit below it. -/
def lowerLimit (c : Control F D) : Control F D :=
  if c.rangeGainLimit ≥ sdr.getGain c.device then { c with rangeGainLimit := sdr.getGain c.device - 1 } else c

/-- A gain that meets the target takes the limit up to it. -/
def raiseLimit (available : F) (c : Control F D) : Control F D :=
  if available ≥ cfg.rangeTarget ∧ sdr.getGain c.device > c.rangeGainLimit then
    { c with rangeGainLimit := sdr.getGain c.device }
  else c

/-- The scan ends here for some time. -/
def haltScan (c : Control F D) : Control F D :=
  { c with rangeState := .idle, rangeRescanTimer := cfg.rangeRescanDelay }

def scanUp (available : F) (c : Control F D) (v : Votes) : Control F D × Votes :=
  if available < cfg.rangeTarget then
    (lowerLimit sdr { c with rangeState := .down }, { v with down := true, notUp := true })
  else if sdr.getGain c.device ≥ gainMax cfg sdr then (haltScan cfg c, v)
  else if !v.notUp then (c, { v with up := true })
  else (c, v)

def scanDown (available : F) (c : Control F D) (v : Votes) : Control F D × Votes :=
  if available ≥ cfg.rangeTarget then (haltScan cfg c, v)
  else
    let c := lowerLimit sdr c
    if sdr.getGain c.device ≤ gainMin cfg sdr then (haltScan cfg c, v)
    else (c, { v with down := true, notUp := true })

def scanIdle (available : F) (c : Control F D) (v : Votes) : Control F D × Votes :=
  if available + c.gainDownDb / ((2 : ℕ) : F) < cfg.rangeTarget ∧ sdr.getGain c.device > gainMin cfg sdr then
    ({ lowerLimit sdr c with rangeState := .down }, { v with down := true, notUp := true })
  else if c.rangeRescanTimer = 0 ∧ !v.notUp then
    if available ≥ cfg.rangeTarget ∧ sdr.getGain c.device < gainMax cfg sdr then
      ({ c with rangeState := .up }, { v with up := true })
    else ({ c with rangeRescanTimer := cfg.rangeRescanDelay }, v)
  else (c, v)

/-- The vote of the dynamic range scan, added to the votes there are. -/
def rangeVote (m : Measures F) (c : Control F D) (v : Votes) : Control F D × Votes :=
  if cfg.rangeControl ∧ c.rangeChangeTimer = 0 then
    let available := availableRange m.range
    let c := raiseLimit cfg sdr available c
    match c.rangeState with
    | .up => scanUp cfg sdr available c v
    | .down => scanDown cfg sdr available c v
    | .idle => scanIdle cfg sdr available c v
  else (c, v)

/-- Act on the votes. -/
def applyVotes (c : Control F D) (v : Votes) : Control F D :=
  if v.down then decreaseGain cfg sdr c
  else if v.up ∧ !v.notUp then increaseGain cfg sdr c
  else c

def controlUpdate (m : Measures F) (c : Control F D) : Control F D :=
  let burst := burstVote cfg sdr m (tickTimers c)
  let range := rangeVote cfg sdr m burst.1 burst.2
  applyVotes cfg sdr range.1 range.2

/-! ### Initialisation -/

/-- The gain part of `adaptive_init`, when it does not switch the control off. -/
def initControl (device : D) : Control F D :=
  let start : Control F D :=
    { device, gainUpDb := ((0 : ℕ) : F), gainDownDb := ((0 : ℕ) : F), burstChangeTimer := 0,
      burstLoudThreshold := ((0 : ℕ) : F), burstLoudBlocks := 0, burstQuietBlocks := 0, rangeState := .up,
      rangeChangeTimer := 0, rangeRescanTimer := 0, rangeGainLimit := 0, gainChanges := 0 }
  let c := gainChanged cfg sdr (setGain cfg sdr (sdr.getGain device) start).1
  { c with rangeGainLimit := sdr.getGain c.device }

end

end RbFeeder.Adaptive
