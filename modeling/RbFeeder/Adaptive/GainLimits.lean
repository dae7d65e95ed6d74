import RbFeeder.Adaptive.Samples

/-! The gain and its limit, over any number of blocks.

A downward scan never leaves the limit above the gain: so burst control, which goes up to the
limit only, stays out of the way of the scan. The limit never falls below the gain by more
than a step either, as long as the scan can compare (`gain_and_limit_iff`): where the noise
floor or the target is not a number, an upward scan goes on and leaves the limit behind. -/
namespace RbFeeder.Adaptive
open Periods

variable {l : Layout} {F D : Type} {cfg : Config F} {sdr : Sdr F D}

def Control.gain (sdr : Sdr F D) (c : Control F D) : ℤ := sdr.getGain c.device

/-! ### What a vote may be -/

/-- What burst control may do. -/
structure BurstVoted (sdr : Sdr F D) (c : Control F D) (r : Control F D × Votes) : Prop where
  device : r.1.device = c.device
  limit : r.1.rangeGainLimit = c.rangeGainLimit
  timer : r.1.rangeChangeTimer = c.rangeChangeTimer
  scanning : r.1.rangeState = .up ↔ c.rangeState = .up
  /-- It leaves no downward scan on when it wants the gain down itself. -/
  scan : r.1.rangeState = .down → c.rangeState = .down ∧ r.2.down = false
  up : r.2.up = true → c.gain sdr < c.rangeGainLimit
  down : r.2.down = true → r.2.notUp = true

theorem stopDownScan_frame (c : Control F D) :
    (stopDownScan c).device = c.device ∧ (stopDownScan c).rangeGainLimit = c.rangeGainLimit ∧
      (stopDownScan c).rangeChangeTimer = c.rangeChangeTimer := by
  unfold stopDownScan
  split_ifs <;> exact ⟨rfl, rfl, rfl⟩

theorem stopDownScan_state (c : Control F D) :
    ((stopDownScan c).rangeState = .up ↔ c.rangeState = .up) ∧ (stopDownScan c).rangeState ≠ .down := by
  unfold stopDownScan
  split_ifs with h
  · exact ⟨⟨nofun, fun hup => absurd (h.symm.trans hup) (by decide)⟩, nofun⟩
  · exact ⟨Iff.rfl, h⟩

/-- What the scan may do, once the limit has been raised; it goes up from a gain within the limit
only, unless it is `free`. -/
structure Scanned (sdr : Sdr F D) (free : Prop) (c : Control F D) (v : Votes) (r : Control F D × Votes) : Prop where
  device : r.1.device = c.device
  /-- The limit stays, or comes down to one below the gain. -/
  limit : r.1.rangeGainLimit = c.rangeGainLimit ∨
    r.1.rangeGainLimit = c.gain sdr - 1 ∧ c.gain sdr ≤ c.rangeGainLimit
  scan : r.1.rangeState = .down → r.2.down = true ∧ r.1.rangeGainLimit < c.gain sdr
  notUp : v.notUp = true → r.2.notUp = true
  /-- No vote up goes with a lower limit. -/
  up : r.2.up = true → r.2.down = false → r.1.rangeGainLimit = c.rangeGainLimit ∧
    (v.up = true ∨ c.gain sdr ≤ c.rangeGainLimit ∨ free)

variable (sdr) in
theorem lowerLimit_frame (c : Control F D) :
    (lowerLimit sdr c).device = c.device ∧ (lowerLimit sdr c).rangeState = c.rangeState := by
  unfold lowerLimit
  split_ifs <;> exact ⟨rfl, rfl⟩

theorem lowerLimit_limit (c : Control F D) :
    (lowerLimit sdr c).rangeGainLimit < c.gain sdr ∧
      ((lowerLimit sdr c).rangeGainLimit = c.rangeGainLimit ∨
        (lowerLimit sdr c).rangeGainLimit = c.gain sdr - 1 ∧ c.gain sdr ≤ c.rangeGainLimit) := by
  unfold lowerLimit Control.gain
  split_ifs with h
  · exact ⟨by dsimp only; omega, .inr ⟨rfl, h⟩⟩
  · exact ⟨by omega, .inl rfl⟩

variable {free : Prop} {c : Control F D} {v : Votes}

/-- The scan goes on downwards. -/
theorem scanned_down : Scanned sdr free c v ({ lowerLimit sdr c with rangeState := .down }, { v with down := true, notUp := true }) where
  device := (lowerLimit_frame _ c).1
  limit := (lowerLimit_limit c).2
  scan _ := ⟨rfl, (lowerLimit_limit c).1⟩
  notUp _ := rfl
  up _ := nofun

/-- Nothing is voted for. -/
theorem scanned_keep {c' : Control F D} (hdevice : c'.device = c.device)
    (hlimit : c'.rangeGainLimit = c.rangeGainLimit) (hstate : c'.rangeState ≠ .down) :
    Scanned sdr free c v (c', v) where
  device := hdevice
  limit := .inl hlimit
  scan h := absurd h hstate
  notUp := id
  up hup _ := ⟨hlimit, .inl hup⟩

theorem scanned_up {c' : Control F D} (hdevice : c'.device = c.device)
    (hlimit : c'.rangeGainLimit = c.rangeGainLimit) (hstate : c'.rangeState ≠ .down)
    (hgain : c.gain sdr ≤ c.rangeGainLimit ∨ free) : Scanned sdr free c v (c', { v with up := true }) where
  device := hdevice
  limit := .inl hlimit
  scan h := absurd h hstate
  notUp := id
  up _ _ := ⟨hlimit, .inr hgain⟩

variable [Arithmetic F]

/-! ### The range of the gain -/

theorem gainMinFrom_bounds (step : ℤ) (left : ℕ) :
    step ≤ gainMinFrom cfg sdr step left ∧ gainMinFrom cfg sdr step left ≤ step + left := by
  induction left generalizing step with
  | zero => simp [gainMinFrom]
  | succ left ih =>
    have := ih (step + 1)
    rw [gainMinFrom]
    split_ifs <;> omega

theorem gainMaxFrom_bounds (step : ℤ) (left : ℕ) :
    step - left ≤ gainMaxFrom cfg sdr step left ∧ gainMaxFrom cfg sdr step left ≤ step := by
  induction left generalizing step with
  | zero => simp [gainMaxFrom]
  | succ left ih =>
    have := ih (step - 1)
    rw [gainMaxFrom]
    split_ifs <;> omega

variable (cfg) in
theorem gainMin_le_gainMax (hmax : 0 ≤ sdr.getMaxGain) :
    0 ≤ gainMin cfg sdr ∧ gainMin cfg sdr ≤ gainMax cfg sdr ∧ gainMax cfg sdr ≤ sdr.getMaxGain := by
  have hmin : 0 ≤ gainMin cfg sdr ∧ gainMin cfg sdr ≤ 0 + sdr.getMaxGain.toNat := gainMinFrom_bounds 0 _
  have hgmax : _ ≤ gainMax cfg sdr ∧ gainMax cfg sdr ≤ _ :=
    gainMaxFrom_bounds sdr.getMaxGain (sdr.getMaxGain - gainMin cfg sdr).toNat
  omega

variable (cfg) in
theorem clampGain_bounds (hmax : 0 ≤ sdr.getMaxGain) (step : ℤ) :
    gainMin cfg sdr ≤ clampGain cfg sdr step ∧ clampGain cfg sdr step ≤ gainMax cfg sdr := by
  have := gainMin_le_gainMax cfg hmax
  unfold clampGain
  dsimp only
  split_ifs <;> omega

variable (cfg sdr) in
theorem clampGain_near {step g : ℤ} (hlo : gainMin cfg sdr ≤ g) (hhi : g ≤ gainMax cfg sdr)
    (hstep : step = g + 1 ∨ step = g - 1) :
    clampGain cfg sdr step = step ∨ clampGain cfg sdr step = g := by
  unfold clampGain
  dsimp only
  split_ifs <;> omega

/-! ### Changing the gain -/

variable (hsdr : sdr.Exact) (hmax : 0 ≤ sdr.getMaxGain)
include hsdr hmax

theorem setGain_gain (step : ℤ) (c : Control F D) :
    (setGain cfg sdr step c).1.gain sdr = clampGain cfg sdr step := by
  have hbounds := clampGain_bounds cfg hmax step
  have hrange := gainMin_le_gainMax cfg hmax
  unfold setGain
  dsimp only
  by_cases h : sdr.getGain c.device = clampGain cfg sdr step
  · rw [if_pos h]
    exact h
  · rw [if_neg h]
    exact (hsdr _ _ (by omega) (by omega)).2

theorem changeGain_gain (step : ℤ) (c : Control F D) :
    (changeGain cfg sdr step c).gain sdr = clampGain cfg sdr step := by
  rw [← setGain_gain hsdr hmax step c]
  unfold changeGain
  dsimp only
  split_ifs <;> rfl

omit hsdr hmax

variable (cfg sdr) in
theorem setGain_frame (step : ℤ) (c : Control F D) :
    (setGain cfg sdr step c).1.rangeState = c.rangeState ∧
      (setGain cfg sdr step c).1.rangeGainLimit = c.rangeGainLimit := by
  unfold setGain
  dsimp only
  split_ifs <;> exact ⟨rfl, rfl⟩

theorem changeGain_frame (step : ℤ) (c : Control F D) :
    (changeGain cfg sdr step c).rangeState = c.rangeState ∧
      (changeGain cfg sdr step c).rangeGainLimit = c.rangeGainLimit := by
  rw [← (setGain_frame cfg sdr step c).1, ← (setGain_frame cfg sdr step c).2]
  unfold changeGain
  dsimp only
  split_ifs <;> exact ⟨rfl, rfl⟩

/-! ### The votes -/

variable (cfg) in
theorem countBlocks_frame (m : Measures F) (c : Control F D) :
    (countBlocks cfg m c).device = c.device ∧ (countBlocks cfg m c).rangeGainLimit = c.rangeGainLimit ∧
      (countBlocks cfg m c).rangeChangeTimer = c.rangeChangeTimer ∧
        (countBlocks cfg m c).rangeState = c.rangeState := by
  unfold countBlocks
  split_ifs <;> exact ⟨rfl, rfl, rfl, rfl⟩

variable (cfg sdr) in
theorem burstVote_voted (m : Measures F) (c : Control F D) : BurstVoted sdr c (burstVote cfg sdr m c) := by
  obtain ⟨hdevice, hlimit, htimer, hstate⟩ := countBlocks_frame cfg m c
  have hsame : (countBlocks cfg m c).rangeState = .up ↔ c.rangeState = .up := by rw [hstate]
  unfold burstVote
  dsimp only
  split_ifs with hon hloud hquiet hbelow
  · obtain ⟨hdevice', hlimit', htimer'⟩ := stopDownScan_frame (countBlocks cfg m c)
    obtain ⟨hup, hdown⟩ := stopDownScan_state (countBlocks cfg m c)
    exact ⟨hdevice'.trans hdevice, hlimit'.trans hlimit, htimer'.trans htimer, hup.trans hsame,
      fun h => absurd h hdown, nofun, fun _ => rfl⟩
  · exact ⟨hdevice, hlimit, htimer, hsame, fun h => ⟨hstate ▸ h, rfl⟩, nofun, fun _ => rfl⟩
  · refine ⟨hdevice, hlimit, htimer, hsame, fun h => ⟨hstate ▸ h, rfl⟩, fun _ => ?_, nofun⟩
    rw [hdevice, hlimit] at hbelow
    exact hbelow
  · exact ⟨hdevice, hlimit, htimer, hsame, fun h => ⟨hstate ▸ h, rfl⟩, nofun, nofun⟩
  · exact ⟨rfl, rfl, rfl, Iff.rfl, fun h => ⟨h, rfl⟩, nofun, nofun⟩

variable {available : F}

/-- The upward scan goes on, although the range does not compare with the target. -/
structure Uncompared (cfg : Config F) (sdr : Sdr F D) (available : F) (c : Control F D) (v : Votes) : Prop where
  scanning : c.rangeState = .up
  short : ¬ available < cfg.rangeTarget
  meets : ¬ cfg.rangeTarget ≤ available
  room : c.gain sdr < gainMax cfg sdr
  allowed : v.notUp = false

theorem scanUp_scanned (hstate : c.rangeState = .up) (hmeets : cfg.rangeTarget ≤ available → c.gain sdr ≤ c.rangeGainLimit) :
    Scanned sdr (Uncompared cfg sdr available c v) c v (scanUp cfg sdr available c v) := by
  have hup : c.rangeState ≠ .down := by rw [hstate]; exact nofun
  unfold scanUp
  split_ifs with hshort htop hallowed
  · have heq : lowerLimit sdr { c with rangeState := .down } = { lowerLimit sdr c with rangeState := .down } := by
      unfold lowerLimit
      split_ifs <;> rfl
    rw [heq]
    exact scanned_down
  · exact scanned_keep rfl rfl nofun
  · refine scanned_up rfl rfl hup ?_
    by_cases h : cfg.rangeTarget ≤ available
    · exact .inl (hmeets h)
    · exact .inr ⟨hstate, hshort, h, not_le.mp htop, by simpa using hallowed⟩
  · exact scanned_keep rfl rfl hup

theorem scanDown_scanned (hstate : c.rangeState = .down) (hvotes : v.up = false) :
    Scanned sdr free c v (scanDown cfg sdr available c v) := by
  unfold scanDown
  dsimp only
  split_ifs with hmeets hbottom
  · exact scanned_keep rfl rfl nofun
  · refine ⟨(lowerLimit_frame _ c).1, (lowerLimit_limit c).2, nofun, id, fun hup => ?_⟩
    rw [hvotes] at hup
    exact absurd hup (by decide)
  · have heq : lowerLimit sdr c = { lowerLimit sdr c with rangeState := .down } := by
      rw [← hstate, ← (lowerLimit_frame sdr c).2]
    rw [heq]
    exact scanned_down

theorem scanIdle_scanned (hstate : c.rangeState = .idle) (hmeets : cfg.rangeTarget ≤ available → c.gain sdr ≤ c.rangeGainLimit) :
    Scanned sdr free c v (scanIdle cfg sdr available c v) := by
  have hidle : c.rangeState ≠ .down := by rw [hstate]; exact nofun
  unfold scanIdle
  split_ifs with hfell hfree hroom
  · exact scanned_down
  · exact scanned_up rfl rfl nofun (.inl (hmeets hroom.1))
  · exact scanned_keep rfl rfl hidle
  · exact scanned_keep rfl rfl hidle

variable (cfg sdr available c) in
theorem raiseLimit_frame :
    (raiseLimit cfg sdr available c).device = c.device ∧ (raiseLimit cfg sdr available c).rangeState = c.rangeState := by
  unfold raiseLimit
  split_ifs <;> exact ⟨rfl, rfl⟩

variable (cfg sdr available c) in
/-- The limit goes up to a gain that meets the target, or stays. -/
theorem raiseLimit_limit :
    ((raiseLimit cfg sdr available c).rangeGainLimit = c.rangeGainLimit ∨
      (raiseLimit cfg sdr available c).rangeGainLimit = c.gain sdr ∧ c.rangeGainLimit < c.gain sdr ∧
        cfg.rangeTarget ≤ available) ∧
      (cfg.rangeTarget ≤ available → c.gain sdr ≤ (raiseLimit cfg sdr available c).rangeGainLimit) := by
  unfold raiseLimit
  split_ifs with h
  · exact ⟨.inr ⟨rfl, h.2, h.1⟩, fun _ => le_refl _⟩
  · exact ⟨.inl rfl, fun hmeets => not_lt.mp fun hbelow => h ⟨hmeets, hbelow⟩⟩

variable (cfg sdr) in
theorem rangeVote_cases (m : Measures F) (hv : c.rangeState = .down → v.up = false) :
    rangeVote cfg sdr m c v = (c, v) ∨
      cfg.rangeControl = true ∧ c.rangeChangeTimer = 0 ∧
        Scanned sdr (Uncompared cfg sdr (availableRange m.range) (raiseLimit cfg sdr (availableRange m.range) c) v)
          (raiseLimit cfg sdr (availableRange m.range) c) v (rangeVote cfg sdr m c v) := by
  obtain ⟨hdevice, hstate⟩ := raiseLimit_frame cfg sdr c (availableRange m.range)
  have hmeets := (raiseLimit_limit cfg sdr c (availableRange m.range)).2
  have hgain : (raiseLimit cfg sdr (availableRange m.range) c).gain sdr = c.gain sdr := by
    rw [Control.gain, hdevice, Control.gain]
  rw [← hgain] at hmeets
  unfold rangeVote
  by_cases hon : cfg.rangeControl ∧ c.rangeChangeTimer = 0
  · refine .inr ⟨hon.1, hon.2, ?_⟩
    rw [if_pos hon]
    dsimp only
    cases hscan : c.rangeState with
    | up =>
      rw [hstate.trans hscan]
      exact scanUp_scanned (hstate.trans hscan) hmeets
    | down =>
      rw [hstate.trans hscan]
      exact scanDown_scanned (hstate.trans hscan) (hv hscan)
    | idle =>
      rw [hstate.trans hscan]
      exact scanIdle_scanned (hstate.trans hscan) hmeets
  · exact .inl (by rw [if_neg hon])

/-! ### One block -/

variable (cfg sdr c v) in
theorem applyVotes_frame :
    (applyVotes cfg sdr c v).rangeState = c.rangeState ∧
      (applyVotes cfg sdr c v).rangeGainLimit = c.rangeGainLimit := by
  unfold applyVotes increaseGain decreaseGain
  split_ifs
  · exact changeGain_frame _ c
  · exact changeGain_frame _ c
  · exact ⟨rfl, rfl⟩

variable (cfg c v) in
/-- The votes are acted on with one step of the gain. -/
theorem applyVotes_gain (hsdr : sdr.Exact) (hmax : 0 ≤ sdr.getMaxGain) :
    v.down = true ∧ (applyVotes cfg sdr c v).gain sdr = clampGain cfg sdr (c.gain sdr - 1) ∨
      v.down = false ∧ v.up = true ∧ v.notUp = false ∧
        (applyVotes cfg sdr c v).gain sdr = clampGain cfg sdr (c.gain sdr + 1) ∨
      v.down = false ∧ (applyVotes cfg sdr c v).gain sdr = c.gain sdr := by
  unfold applyVotes
  cases hdown : v.down with
  | true => exact .inl ⟨rfl, changeGain_gain hsdr hmax _ c⟩
  | false =>
    by_cases hup : v.up ∧ !v.notUp
    · refine .inr (.inl ⟨rfl, hup.1, by simpa using hup.2, ?_⟩)
      rw [if_neg (by decide), if_pos hup]
      exact changeGain_gain hsdr hmax _ c
    · exact .inr (.inr ⟨rfl, by rw [if_neg (by decide), if_neg hup]⟩)

/-- Where the gain and its limit are. -/
structure Limits (cfg : Config F) (sdr : Sdr F D) (c : Control F D) : Prop where
  gain_ge : gainMin cfg sdr ≤ c.gain sdr
  gain_le : c.gain sdr ≤ gainMax cfg sdr
  limit_ge : gainMin cfg sdr - 1 ≤ c.rangeGainLimit
  limit_le : c.rangeGainLimit ≤ gainMax cfg sdr

/-- A gain at most one step above the limit, too. -/
structure Bounds (cfg : Config F) (sdr : Sdr F D) (c : Control F D) : Prop extends Limits cfg sdr c where
  gain_le_limit : c.gain sdr ≤ c.rangeGainLimit + 1

/-- A downward scan keeps the limit at or below the gain. -/
structure Invariant (cfg : Config F) (sdr : Sdr F D) (c : Control F D) : Prop extends Limits cfg sdr c where
  scan : c.rangeState = .down → c.rangeGainLimit ≤ c.gain sdr

/-- The vote of burst control in the block that ends. -/
def burstVotes (cfg : Config F) (sdr : Sdr F D) (m : Measures F) (c : Control F D) : Votes :=
  (burstVote cfg sdr m (tickTimers c)).2

/-- What a block may do to the gain and its limit. -/
structure BlockLaw (cfg : Config F) (sdr : Sdr F D) (m : Measures F) (c c' : Control F D) : Prop where
  oneStep : |c'.gain sdr - c.gain sdr| ≤ 1
  /-- An increase that burst control votes for stays within the limit, whether or not the scan agrees. -/
  burst : (burstVotes cfg sdr m c).up = true → c.gain sdr < c'.gain sdr → c'.gain sdr ≤ c'.rangeGainLimit
  raised : c.rangeGainLimit < c'.rangeGainLimit →
    c'.rangeGainLimit = c.gain sdr ∧ cfg.rangeTarget ≤ availableRange m.range
  notUp : (burstVotes cfg sdr m c).notUp = true → c'.gain sdr ≤ c.gain sdr

/-- The noise floor has an available range, and that compares with the target: both are numbers, and the
floor is not negative. -/
def HasRange (cfg : Config F) (noise : F) : Prop :=
  IsNumber cfg.rangeTarget ∧ IsNumber noise ∧ ¬ noise / ((65536 : ℕ) : F) < ((0 : ℕ) : F)

instance (noise : F) : Decidable (HasRange cfg noise) := inferInstanceAs (Decidable (_ ∧ _))

variable (cfg) in
theorem hasRange_iff [Ieee F] (noise : F) :
    availableRange noise < cfg.rangeTarget ∨ cfg.rangeTarget ≤ availableRange noise ↔ HasRange cfg noise := by
  have hnumber : IsNumber (availableRange noise) ↔ IsNumber noise ∧ ¬ noise / ((65536 : ℕ) : F) < ((0 : ℕ) : F) := by
    rw [availableRange, Ieee.number_float, Ieee.number_mul (by decide) (by decide), Ieee.number_log10,
      Ieee.number_div (by decide) (by decide)]
  rw [HasRange, ← hnumber]
  constructor
  · rintro (h | h)
    · exact (Ieee.numbers_of_lt h).symm
    · exact Ieee.numbers_of_le h
  · exact fun ⟨htarget, hrange⟩ => Ieee.lt_or_le hrange htarget

/-- Burst control is due and votes against an increase: the loud blocks, with this one, are as many as it takes for
that, or the quiet ones are too few. -/
def Opposed (cfg : Config F) (m : Measures F) (c : Control F D) : Prop :=
  (cfg.burstControl = true ∧ c.burstChangeTimer ≤ 1) ∧
    (cfg.burstLoudRunlength ≤ (countBlocks cfg m c).burstLoudBlocks ∨
      (countBlocks cfg m c).burstQuietBlocks < cfg.burstQuietRunlength)

theorem notUp_iff (m : Measures F) (c : Control F D) :
    (burstVotes cfg sdr m c).notUp = true ↔ Opposed cfg m c := by
  have hloud : (countBlocks cfg m (tickTimers c)).burstLoudBlocks = (countBlocks cfg m c).burstLoudBlocks := by
    unfold countBlocks
    split_ifs <;> rfl
  have hquiet : (countBlocks cfg m (tickTimers c)).burstQuietBlocks = (countBlocks cfg m c).burstQuietBlocks := by
    unfold countBlocks
    split_ifs <;> rfl
  have hdue : c.burstChangeTimer ≤ 1 ↔ (tickTimers c).burstChangeTimer = 0 := Nat.sub_eq_zero_iff_le.symm
  rw [Opposed, hdue, ← hloud, ← hquiet, burstVotes, burstVote]
  dsimp only
  split_ifs with hon hlong hfew hlow
  · exact iff_of_true rfl ⟨hon, .inl hlong⟩
  · exact iff_of_true rfl ⟨hon, .inr hfew⟩
  · exact iff_of_false nofun fun h => h.2.elim hlong hfew
  · exact iff_of_false nofun fun h => h.2.elim hlong hfew
  · exact iff_of_false nofun fun h => hon h.1

/-- An upward scan is due, and nothing keeps it from going on but the range, which there is not. -/
structure Blind (cfg : Config F) (sdr : Sdr F D) (m : Measures F) (c : Control F D) : Prop where
  due : cfg.rangeControl = true ∧ c.rangeChangeTimer ≤ 1
  scanning : c.rangeState = .up
  room : c.gain sdr < gainMax cfg sdr
  allowed : ¬ Opposed cfg m c
  range : ¬ HasRange cfg m.range

/-- A blind scan that has left the limit behind already. -/
structure Overshoots (cfg : Config F) (sdr : Sdr F D) (m : Measures F) (c : Control F D) : Prop
    extends Blind cfg sdr m c where
  above : c.rangeGainLimit < c.gain sdr

/-- The votes of a block, with the limit they leave. -/
structure Voted (cfg : Config F) (sdr : Sdr F D) (m : Measures F) (c : Control F D) (r : Control F D × Votes) : Prop where
  device : r.1.device = c.device
  limit : gainMin cfg sdr - 1 ≤ r.1.rangeGainLimit ∧ r.1.rangeGainLimit ≤ gainMax cfg sdr ∧
    (c.gain sdr ≤ c.rangeGainLimit + 1 → c.gain sdr ≤ r.1.rangeGainLimit + 1)
  raised : c.gain sdr ≤ c.rangeGainLimit + 1 → c.rangeGainLimit < r.1.rangeGainLimit →
    r.1.rangeGainLimit = c.gain sdr ∧ cfg.rangeTarget ≤ availableRange m.range
  notUp : (burstVotes cfg sdr m c).notUp = true → r.2.notUp = true
  burst : r.2.up = true → r.2.down = false → (burstVotes cfg sdr m c).up = true → c.gain sdr < r.1.rangeGainLimit
  up : r.2.up = true → r.2.down = false → c.gain sdr ≤ r.1.rangeGainLimit ∨
    Blind cfg sdr m c ∧ r.1.rangeGainLimit = c.rangeGainLimit
  scan : r.1.rangeState = .down → r.2.down = true ∧ r.1.rangeGainLimit < c.gain sdr ∨
    r.2.up = false ∧ r.2.down = false ∧ r.1.rangeGainLimit ≤ c.gain sdr

variable (cfg sdr) in
/-- The timers do not matter to the vote of burst control but for its own. -/
theorem burstVotes_voted (m : Measures F) (c : Control F D) :
    BurstVoted sdr { c with rangeChangeTimer := c.rangeChangeTimer - 1 } (burstVote cfg sdr m (tickTimers c)) := by
  obtain ⟨hdevice, hlimit, htimer, hscanning, hscan, hup, hdown⟩ := burstVote_voted cfg sdr m (tickTimers c)
  exact ⟨hdevice, hlimit, htimer, hscanning, hscan, hup, hdown⟩

theorem voted [Ieee F] (m : Measures F) (hinv : Invariant cfg sdr c) :
    Voted cfg sdr m c (rangeVote cfg sdr m (burstVote cfg sdr m (tickTimers c)).1 (burstVotes cfg sdr m c)) := by
  have hburst := burstVotes_voted cfg sdr m c
  obtain ⟨⟨hge, hle, hlge, hlle⟩, hdown⟩ := hinv
  generalize hb : burstVote cfg sdr m (tickTimers c) = b at hburst
  have hvotes : burstVotes cfg sdr m c = b.2 := by rw [burstVotes, hb]
  obtain ⟨hdevice, hlimit, htimer, hscanning, hscan, hup, -⟩ := hburst
  dsimp only at hlimit htimer hscanning hscan
  have hgain : b.1.gain sdr = c.gain sdr := by rw [Control.gain, hdevice, Control.gain]
  have hbelow : b.2.up = true → c.gain sdr < c.rangeGainLimit := hup
  have hno : b.1.rangeState = .down → b.2.up = false := fun h =>
    Bool.eq_false_iff.mpr fun h' => absurd (hdown (hscan h).1) (not_le.mpr (hbelow h'))
  rw [hvotes]
  obtain heq | ⟨hon, hzero, hscanned⟩ := rangeVote_cases cfg sdr m hno
  · rw [heq]
    refine ⟨hdevice, ?_, fun _ h => ?_, fun h => hvotes ▸ h, fun h _ _ => ?_, fun h _ => ?_, fun h => ?_⟩
    · dsimp only
      omega
    · dsimp only at h
      omega
    · exact hlimit ▸ hbelow h
    · exact .inl (hlimit ▸ hbelow h).le
    · exact .inr ⟨hno h, (hscan h).2, hlimit ▸ hdown (hscan h).1⟩
  · obtain ⟨hraised, -⟩ := raiseLimit_limit cfg sdr b.1 (availableRange m.range)
    obtain ⟨hrdevice, hrstate⟩ := raiseLimit_frame cfg sdr b.1 (availableRange m.range)
    generalize hr : raiseLimit cfg sdr (availableRange m.range) b.1 = r at hraised hrdevice hrstate hscanned
    have hrgain : r.gain sdr = c.gain sdr := by rw [Control.gain, hrdevice, ← hgain, Control.gain]
    obtain ⟨hsdevice, hslimit, hsscan, hsnot, hsup⟩ := hscanned
    rw [hgain, hlimit] at hraised
    rw [hrgain] at hslimit hsscan hsup
    generalize rangeVote cfg sdr m b.1 b.2 = s at hsdevice hslimit hsscan hsnot hsup
    have hwithin : s.2.up = true → s.2.down = false → b.2.up = true → c.gain sdr < s.1.rangeGainLimit :=
      fun h h' hb => by
        have hlow := hbelow hb
        obtain ⟨hsame, -⟩ := hsup h h'
        obtain hkept | ⟨-, habove, -⟩ := hraised <;> omega
    refine ⟨hsdevice.trans (hrdevice.trans hdevice), ?_, fun hwithin h => ?_, fun h => hsnot (hvotes ▸ h),
      fun h h' hb => hwithin h h' (hvotes ▸ hb), fun h h' => ?_, fun h => .inl (hsscan h)⟩
    · omega
    · obtain heq | ⟨heq, -, hmeets⟩ := hraised
      · omega
      · exact ⟨by omega, hmeets⟩
    · obtain ⟨hsame, hby | hby | hblind⟩ := hsup h h'
      · exact .inl (hwithin h h' hby).le
      · exact .inl (by omega)
      · obtain ⟨hup', hshort, hmeets, hroom, hallowed⟩ := hblind
        have hkept : r.rangeGainLimit = c.rangeGainLimit := hraised.resolve_right fun h => hmeets h.2.2
        have hopposed : ¬ Opposed cfg m c := fun h => by
          rw [← notUp_iff, hvotes, hallowed] at h
          cases h
        refine .inr ⟨⟨⟨hon, by omega⟩, hscanning.mp (hrstate ▸ hup'), hrgain ▸ hroom, hopposed, fun hhas => ?_⟩,
          hsame.trans hkept⟩
        obtain h | h := (hasRange_iff cfg m.range).mpr hhas
        · exact hshort h
        · exact hmeets h

/-- **What a block does.** -/
theorem controlUpdate_law [Ieee F] (hsdr : sdr.Exact) (hmax : 0 ≤ sdr.getMaxGain) (m : Measures F)
    (hinv : Invariant cfg sdr c) :
    Invariant cfg sdr (controlUpdate cfg sdr m c) ∧
      (c.gain sdr ≤ c.rangeGainLimit + 1 → BlockLaw cfg sdr m c (controlUpdate cfg sdr m c) ∧
        (¬ Overshoots cfg sdr m c →
          (controlUpdate cfg sdr m c).gain sdr ≤ (controlUpdate cfg sdr m c).rangeGainLimit + 1)) := by
  obtain ⟨hdevice, hlimit, hraised, hnot, hburst, hup, hscan⟩ := voted m hinv
  obtain ⟨⟨hge, hle, -, -⟩, -⟩ := hinv
  have hbounds := clampGain_bounds cfg hmax
  have hstep : controlUpdate cfg sdr m c = applyVotes cfg sdr
      (rangeVote cfg sdr m (burstVote cfg sdr m (tickTimers c)).1 (burstVotes cfg sdr m c)).1
      (rangeVote cfg sdr m (burstVote cfg sdr m (tickTimers c)).1 (burstVotes cfg sdr m c)).2 := rfl
  rw [hstep]
  generalize rangeVote cfg sdr m (burstVote cfg sdr m (tickTimers c)).1 (burstVotes cfg sdr m c) = r
    at hdevice hlimit hraised hnot hburst hup hscan
  have hgain : r.1.gain sdr = c.gain sdr := by rw [Control.gain, hdevice, Control.gain]
  obtain ⟨hfstate, hflimit⟩ := applyVotes_frame cfg sdr r.1 r.2
  have hmoved := applyVotes_gain cfg r.1 r.2 hsdr hmax
  rw [hgain] at hmoved
  generalize applyVotes cfg sdr r.1 r.2 = c' at hfstate hflimit hmoved
  rw [← hfstate] at hscan
  rw [← hflimit] at hlimit hraised hburst hup hscan
  obtain ⟨hdown, hto⟩ | ⟨hdown, hvup, hfree, hto⟩ | ⟨hdown, hto⟩ := hmoved
  · have := hbounds (c.gain sdr - 1)
    have hnear := clampGain_near cfg sdr hge hle (.inr rfl : c.gain sdr - 1 = _ ∨ _)
    have hbelow : c'.gain sdr = c.gain sdr - 1 ∨ c'.gain sdr = c.gain sdr := by rwa [hto]
    refine ⟨⟨⟨by omega, by omega, by omega, by omega⟩, fun h => ?_⟩, fun hwithin =>
      ⟨⟨abs_le.mpr ⟨by omega, by omega⟩, fun _ h => by omega, hraised hwithin, fun _ => by omega⟩, fun _ => by omega⟩⟩
    obtain ⟨-, h⟩ | ⟨-, hno, -⟩ := hscan h
    · omega
    · exact absurd (hno.symm.trans hdown) (by decide)
  · have := hbounds (c.gain sdr + 1)
    have hnear := clampGain_near cfg sdr hge hle (.inl rfl : c.gain sdr + 1 = _ ∨ _)
    have habove : c'.gain sdr = c.gain sdr + 1 ∨ c'.gain sdr = c.gain sdr := by rwa [hto]
    refine ⟨⟨⟨by omega, by omega, by omega, by omega⟩, fun h => ?_⟩, fun hwithin =>
      ⟨⟨abs_le.mpr ⟨by omega, by omega⟩, fun hb _ => ?_, hraised hwithin, fun h => ?_⟩, fun hsighted => ?_⟩⟩
    · obtain ⟨h, -⟩ | ⟨h, -, -⟩ := hscan h
      · exact absurd (h.symm.trans hdown) (by decide)
      · exact absurd (h.symm.trans hvup) (by decide)
    · have := hburst hvup hdown hb
      omega
    · exact absurd ((hnot h).symm.trans hfree) (by decide)
    · obtain hle | ⟨hblind, hkept⟩ := hup hvup hdown
      · omega
      · have hnotAbove : ¬ c.rangeGainLimit < c.gain sdr := fun h => hsighted ⟨hblind, h⟩
        omega
  · refine ⟨⟨⟨by omega, by omega, by omega, by omega⟩, fun h => ?_⟩, fun hwithin =>
      ⟨⟨abs_le.mpr ⟨by omega, by omega⟩, fun _ h => by omega, hraised hwithin, fun _ => by omega⟩, fun _ => by omega⟩⟩
    obtain ⟨h, -⟩ | ⟨-, -, h⟩ := hscan h
    · exact absurd (h.symm.trans hdown) (by decide)
    · omega

/-- A blind scan takes the gain one step up, and leaves the limit where it is. -/
theorem Blind.update [Ieee F] (hsdr : sdr.Exact) (hmax : 0 ≤ sdr.getMaxGain) {m : Measures F}
    (hge : gainMin cfg sdr ≤ c.gain sdr) (h : Blind cfg sdr m c) :
    (controlUpdate cfg sdr m c).gain sdr = c.gain sdr + 1 ∧
      (controlUpdate cfg sdr m c).rangeGainLimit = c.rangeGainLimit := by
  obtain ⟨⟨hon, htimer⟩, hscanning, hroom, hopposed, hrange⟩ := h
  have hallowed : (burstVotes cfg sdr m c).notUp = false := Bool.eq_false_iff.mpr fun h => hopposed ((notUp_iff m c).mp h)
  have hshort : ¬ availableRange m.range < cfg.rangeTarget := fun h => hrange ((hasRange_iff cfg _).mp (.inl h))
  have hmeets : ¬ cfg.rangeTarget ≤ availableRange m.range := fun h => hrange ((hasRange_iff cfg _).mp (.inr h))
  have hburst := burstVotes_voted cfg sdr m c
  have hstep : controlUpdate cfg sdr m c = applyVotes cfg sdr
      (rangeVote cfg sdr m (burstVote cfg sdr m (tickTimers c)).1 (burstVotes cfg sdr m c)).1
      (rangeVote cfg sdr m (burstVote cfg sdr m (tickTimers c)).1 (burstVotes cfg sdr m c)).2 := rfl
  have hvotes : burstVotes cfg sdr m c = (burstVote cfg sdr m (tickTimers c)).2 := rfl
  rw [hstep]
  rw [hvotes] at hallowed ⊢
  generalize burstVote cfg sdr m (tickTimers c) = b at hburst hallowed
  obtain ⟨hdevice, hlimit, hbtimer, hbscanning, -, -, hdown⟩ := hburst
  dsimp only at hlimit hbtimer hbscanning
  have hgain : b.1.gain sdr = c.gain sdr := by rw [Control.gain, hdevice, Control.gain]
  have hvote : rangeVote cfg sdr m b.1 b.2 = (b.1, { b.2 with up := true }) := by
    have hraise : raiseLimit cfg sdr (availableRange m.range) b.1 = b.1 := if_neg fun h => hmeets h.1
    have htop : ¬ sdr.getGain b.1.device ≥ gainMax cfg sdr := by
      rw [← Control.gain, hgain]
      omega
    rw [rangeVote, if_pos ⟨hon, by omega⟩]
    dsimp only
    rw [hraise, hbscanning.mpr hscanning]
    dsimp only
    rw [scanUp, if_neg hshort, if_neg htop, hallowed, if_pos (by decide)]
  have hnotDown : b.2.down = false := Bool.eq_false_iff.mpr fun h => absurd ((hdown h).symm.trans hallowed) (by decide)
  obtain ⟨-, hkept⟩ := applyVotes_frame cfg sdr b.1 { b.2 with up := true }
  rw [hvote, hkept, hlimit]
  refine ⟨?_, rfl⟩
  obtain ⟨h, -⟩ | ⟨-, -, -, hto⟩ | ⟨-, hto⟩ := applyVotes_gain cfg b.1 { b.2 with up := true } hsdr hmax
  · exact absurd (h.symm.trans hnotDown) (by decide)
  · rw [hto, hgain, clampGain]
    split_ifs <;> omega
  · have happlied : applyVotes cfg sdr b.1 { b.2 with up := true } = increaseGain cfg sdr b.1 := by
      rw [applyVotes, if_neg (by rw [hnotDown]; decide), if_pos ⟨rfl, by rw [hallowed]; rfl⟩]
    rw [happlied, increaseGain, changeGain_gain hsdr hmax, ← Control.gain, hgain, clampGain]
    split_ifs <;> omega

/-! ### Any number of blocks -/

theorem initControl_invariant (hsdr : sdr.Exact) (hmax : 0 ≤ sdr.getMaxGain) (device : D) :
    Invariant cfg sdr (initControl cfg sdr device) := by
  have hrange := gainMin_le_gainMax cfg hmax
  have hbounds := clampGain_bounds cfg hmax (sdr.getGain device)
  have hgain : (initControl cfg sdr device).gain sdr = clampGain cfg sdr (sdr.getGain device) :=
    setGain_gain hsdr hmax (sdr.getGain device) _
  have hlimit : (initControl cfg sdr device).rangeGainLimit = (initControl cfg sdr device).gain sdr := rfl
  exact ⟨⟨by omega, by omega, by omega, by omega⟩, fun _ => le_of_eq hlimit⟩

/-- A block ends, with whatever was measured in it. -/
def blockStep (cfg : Config F) (sdr : Sdr F D) (c : Core l F D) (measured : Burst l F × Noise F) : Core l F D :=
  endOfBlock cfg sdr { c with burst := measured.1, noise := measured.2 }

/-- What the control update of the block goes by. -/
def blockMeasures (cfg : Config F) (measured : Burst l F × Noise F) : Measures F :=
  measures (burstEndOfBlock cfg measured.1) (rangeEndOfBlock cfg measured.2)

theorem blockStep_control (c : Core l F D) (measured : Burst l F × Noise F) :
    (blockStep cfg sdr c measured).control = controlUpdate cfg sdr (blockMeasures cfg measured) c.control := rfl

theorem init_some {device : D} {s : State l F D} (h : init cfg sdr l device = some s) :
    0 ≤ sdr.getMaxGain ∧ s.core.control = initControl cfg sdr device := by
  unfold init at h
  split_ifs at h with hoff
  cases h
  exact ⟨not_lt.mp fun hneg => hoff (.inl hneg), rfl⟩

/-- The blocks of a run end with the gain and its limit within their bounds, and each block moves them only
as it may. -/
def Kept (cfg : Config F) (sdr : Sdr F D) (c : Core l F D) : List (Burst l F × Noise F) → Prop
  | [] => Bounds cfg sdr c.control
  | block :: blocks => Bounds cfg sdr c.control ∧
      BlockLaw cfg sdr (blockMeasures cfg block) c.control (blockStep cfg sdr c block).control ∧
        Kept cfg sdr (blockStep cfg sdr c block) blocks

/-- No block of a run overshoots. -/
def Sighted (cfg : Config F) (sdr : Sdr F D) (c : Core l F D) : List (Burst l F × Noise F) → Prop
  | [] => True
  | block :: blocks => ¬ Overshoots cfg sdr (blockMeasures cfg block) c.control ∧
      Sighted cfg sdr (blockStep cfg sdr c block) blocks

theorem Kept.bounds {c : Core l F D} {blocks : List (Burst l F × Noise F)} (h : Kept cfg sdr c blocks) :
    Bounds cfg sdr c.control := by
  cases blocks with
  | nil => exact h
  | cons block blocks => exact h.1

section
variable [Ieee F] (hsdr : sdr.Exact) (hmax : 0 ≤ sdr.getMaxGain)
include hsdr hmax

/-- Whatever is measured, the gain and its limit stay in range. -/
theorem blocks_invariant (c : Core l F D) (hinv : Invariant cfg sdr c.control) (blocks : List (Burst l F × Noise F)) :
    Invariant cfg sdr (blocks.foldl (blockStep cfg sdr) c).control := by
  induction blocks generalizing c with
  | nil => exact hinv
  | cons block blocks ih => exact ih _ (controlUpdate_law hsdr hmax _ hinv).1

theorem kept_iff (c : Core l F D) (hinv : Invariant cfg sdr c.control)
    (hwithin : c.control.gain sdr ≤ c.control.rangeGainLimit + 1) (blocks : List (Burst l F × Noise F)) :
    Kept cfg sdr c blocks ↔ Sighted cfg sdr c blocks := by
  have hbounds : Bounds cfg sdr c.control := ⟨hinv.toLimits, hwithin⟩
  induction blocks generalizing c with
  | nil => exact ⟨fun _ => trivial, fun _ => hbounds⟩
  | cons block blocks ih =>
    obtain ⟨hnext, hstep⟩ := controlUpdate_law hsdr hmax (blockMeasures cfg block) hinv
    obtain ⟨hlaw, hstays⟩ := hstep hwithin
    rw [← blockStep_control] at hnext hlaw hstays
    constructor
    · rintro ⟨-, -, hrest⟩
      have hafter := hrest.bounds.gain_le_limit
      refine ⟨fun hover => ?_, (ih _ hnext hafter ⟨hnext.toLimits, hafter⟩).mp hrest⟩
      obtain ⟨hgain, hlimit⟩ := hover.toBlind.update hsdr hmax hinv.gain_ge
      have habove := hover.above
      rw [blockStep_control] at hafter
      omega
    · rintro ⟨hsighted, hrest⟩
      have hafter := hstays hsighted
      exact ⟨hbounds, hlaw, (ih _ hnext hafter ⟨hnext.toLimits, hafter⟩).mpr hrest⟩

end

/-- **Main theorem.** In every run the gain and its limit are kept exactly if no block ends with an upward scan
that is due at a gain above the limit and has no available range to compare with the target. -/
theorem gain_and_limit_iff [Ieee F] (hsdr : sdr.Exact) {device : D} {s : State l F D}
    (hinit : init cfg sdr l device = some s) (blocks : List (Burst l F × Noise F)) :
    Kept cfg sdr s.core blocks ↔ Sighted cfg sdr s.core blocks := by
  obtain ⟨hmax, hcontrol⟩ := init_some hinit
  have hlimit : s.core.control.rangeGainLimit = s.core.control.gain sdr := by rw [hcontrol]; rfl
  refine kept_iff hsdr hmax s.core ?_ (by omega) blocks
  rw [hcontrol]
  exact initControl_invariant hsdr hmax device

/-! ### A target that is not a number -/

/-- The rational numbers, and what is not a number. -/
inductive Double where
  | nan
  | number (x : ℚ)

namespace Double

def lift (f : ℚ → ℚ → ℚ) : Double → Double → Double
  | .number x, .number y => .number (f x y)
  | _, _ => .nan

def Holds (r : ℚ → ℚ → Prop) : Double → Double → Prop
  | .number x, .number y => r x y
  | _, _ => False

instance (r : ℚ → ℚ → Prop) [∀ x y, Decidable (r x y)] : ∀ x y, Decidable (Holds r x y)
  | .number x, .number y => inferInstanceAs (Decidable (r x y))
  | .nan, _ => isFalse id
  | .number _, .nan => isFalse id

def log10 : Double → Double
  | .number x => if x < 0 then .nan else .number (Int.log 10 x)
  | .nan => .nan

instance : Arithmetic Double where
  lt := Holds (· < ·)
  le := Holds (· ≤ ·)
  add := lift (· + ·)
  sub := lift (· - ·)
  mul := lift (· * ·)
  div := lift (· / ·)
  natCast n := .number n
  decLt x y := inferInstanceAs (Decidable (Holds (· < ·) x y))
  decLe x y := inferInstanceAs (Decidable (Holds (· ≤ ·) x y))
  log10 := log10
  pow10
    | .number x => .number (10 ^ ⌊x⌋)
    | .nan => .nan
  roundf
    | .number x => round x
    | .nan => 0
  float := id

theorem isNumber_iff (x : Double) : IsNumber x ↔ ∃ p, x = .number p := by
  cases x with
  | nan => exact ⟨fun h => h.elim, nofun⟩
  | number p => exact ⟨fun _ => ⟨p, rfl⟩, fun _ => le_refl p⟩

instance : Ieee Double where
  le_trans {x y z} hxy hyz := by
    cases x <;> cases y <;> cases z <;> first | exact hxy.elim | exact hyz.elim | exact Rat.le_trans hxy hyz
  le_total {x y} hx hy := by
    obtain ⟨p, rfl⟩ := (isNumber_iff x).mp hx
    obtain ⟨q, rfl⟩ := (isNumber_iff y).mp hy
    exact le_total p q
  lt_or_le {x y} hx hy := by
    obtain ⟨p, rfl⟩ := (isNumber_iff x).mp hx
    obtain ⟨q, rfl⟩ := (isNumber_iff y).mp hy
    exact lt_or_ge p q
  numbers_of_lt {x y} h := by
    cases x <;> cases y <;> first | exact h.elim | exact ⟨le_refl (_ : ℚ), le_refl (_ : ℚ)⟩
  numbers_of_le {x y} h := by
    cases x <;> cases y <;> first | exact h.elim | exact ⟨le_refl (_ : ℚ), le_refl (_ : ℚ)⟩
  number_float := Iff.rfl
  number_div {x n} _ _ := by
    cases x
    · exact Iff.rfl
    · exact iff_of_true (le_refl (_ : ℚ)) (le_refl (_ : ℚ))
  number_mul {x n} _ _ := by
    cases x
    · exact Iff.rfl
    · exact iff_of_true (le_refl (_ : ℚ)) (le_refl (_ : ℚ))
  number_log10 {x} := by
    cases x with
    | nan => exact ⟨fun h => h.elim, fun h => h.1⟩
    | number p =>
      have hneg : (.number p : Double) < ((0 : ℕ) : Double) ↔ p < 0 := Nat.cast_zero (R := ℚ) ▸ Iff.rfl
      rw [isNumber_iff, hneg]
      show (∃ q, (if p < 0 then .nan else .number (Int.log 10 p) : Double) = .number q) ↔ _
      split_ifs with h
      · exact ⟨nofun, fun hp => absurd h hp.2⟩
      · exact ⟨fun _ => ⟨le_refl p, h⟩, fun _ => ⟨_, rfl⟩⟩

end Double

/-- The tuner, as it reports its gain in doubles. -/
def receiver : Sdr Double ℤ := { tuner with getGainDb := fun step => .number (tuner.getGainDb step) }

theorem receiver_exact : receiver.Exact := by
  intro step d hlo hhi
  have htop : step ≤ 7 := hhi
  have : max 0 (min 7 step) = step := by rw [min_eq_right htop, max_eq_right hlo]
  exact ⟨this, this⟩

/-- Range control with some target and a decision in every block. -/
def scanning (target : Double) : Config Double :=
  { defaults with
    minGainDb := .number defaults.minGainDb
    maxGainDb := .number defaults.maxGainDb
    dutyCycle := .number defaults.dutyCycle
    burstControl := false
    burstAlpha := .number defaults.burstAlpha
    burstLoudRate := .number defaults.burstLoudRate
    burstQuietRate := .number defaults.burstQuietRate
    rangeAlpha := .number defaults.rangeAlpha
    rangeTarget := target
    rangeChangeDelay := 1 }

/-- A block with one sample of zero, and a noise floor of `noise` at its end. -/
def floorAt (b : Burst l Double) (noise : ℚ) : Burst l Double × Noise Double :=
  (b, ⟨Function.update (fun _ => 0) 0 1, 1, .number (3 / 2 * noise)⟩)

/-- Without a target the scan goes up block after block, and the limit stays behind. -/
theorem nanTarget_overshoots : ∃ s, init (scanning .nan) receiver layout 3 = some s ∧
    ¬ Kept (scanning .nan) receiver s.core [floorAt s.core.burst (65536 / 100), floorAt s.core.burst (65536 / 100)] :=
  ⟨_, rfl, fun h => absurd h.2.2.2.2.gain_le_limit (by decide +kernel)⟩

/-- Two blocks with 40 dB available and one with 20 dB: up two steps, and down again. -/
theorem gain_and_limit_scanning : ∃ s, init (scanning (.number 30)) receiver layout 3 = some s ∧
    Kept (scanning (.number 30)) receiver s.core [floorAt s.core.burst (65536 / 100), floorAt s.core.burst (65536 / 100),
      floorAt s.core.burst (65536 / 10)] ∧
    (([floorAt s.core.burst (65536 / 100), floorAt s.core.burst (65536 / 100), floorAt s.core.burst (65536 / 10)].scanl
      (blockStep (scanning (.number 30)) receiver) s.core).map fun c => (c.control.gain receiver, c.control.rangeGainLimit)) =
        [(3, 3), (4, 3), (5, 4), (4, 4)] := by
  refine ⟨_, rfl, (gain_and_limit_iff receiver_exact rfl _).mpr ⟨fun h => ?_, fun h => ?_, fun h => ?_, trivial⟩, ?_⟩
  · exact h.range (by decide +kernel)
  · exact h.range (by decide +kernel)
  · exact h.range (by decide +kernel)
  · decide +kernel

end RbFeeder.Adaptive
