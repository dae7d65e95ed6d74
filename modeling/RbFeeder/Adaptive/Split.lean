import RbFeeder.Adaptive.Samples

/-! Adaptive gain control: where the samples are cut.

A window update with its three parts feeds one period of the window after the other, and
`adaptive_update` does the same with subblocks. So both can be cut anywhere
(`update_chunks`), and the windows stay in step with the subblocks (`Aligned`). -/
namespace RbFeeder.Adaptive
open Periods

variable {l : Layout} {F D : Type} {cfg : Config F} {sdr : Sdr F D}

theorem burstCountSamples_append (xs ys : List Sample) :
    burstCountSamples (xs ++ ys) = burstCountSamples xs + burstCountSamples ys := List.countP_append

/-! ### Windows -/

/-- The same measurement at another place in the window. -/
def Burst.at (b : Burst l F) (counter : ℕ) (p : Place l.samplesPerWindow) : Burst l F :=
  { b with windowCounter := counter, window := p }

@[simp] theorem Burst.at_at (b : Burst l F) (i j : ℕ) (p q : Place l.samplesPerWindow) :
    (b.at i p).at j q = b.at j q := rfl

@[simp] theorem Burst.at_self (b : Burst l F) : b.at b.windowCounter b.window = b := rfl

theorem burstEndOfWindow_at (n : ℕ) (b : Burst l F) (counter : ℕ) (p : Place l.samplesPerWindow) :
    burstEndOfWindow n (b.at counter p) = (burstEndOfWindow n b).at counter p := by
  unfold burstEndOfWindow Burst.at
  split_ifs <;> rfl

/-- Samples inside a window. -/
def windowPiece (b : Burst l F) (xs : List Sample) : Burst l F :=
  b.at (b.windowCounter + burstCountSamples xs) b.window

/-- The end of a window, and the start of the next one. -/
def windowFinish (b : Burst l F) : Burst l F := (burstEndOfWindow b.windowCounter b).at 0 b.window

theorem whole_windows (n : ℕ) (xs : List Sample) (b : Burst l F) (p : Place l.samplesPerWindow) :
    whole l.samplesPerWindow windowPiece windowFinish n (b.at 0 p) xs = (burstScanWindows n xs b).at 0 p := by
  induction n generalizing xs b with
  | zero => rfl
  | succ n ih =>
    have hnext : windowFinish (windowPiece (b.at 0 p) (xs.take l.samplesPerWindow)) =
        (burstEndOfWindow (burstCountSamples (xs.take l.samplesPerWindow)) b).at 0 p := by
      simp only [windowFinish, windowPiece, Burst.at_at, burstEndOfWindow_at]
      rw [show (b.at 0 p).windowCounter = 0 from rfl, Nat.zero_add]
      rfl
    rw [whole, hnext, ih, burstScanWindows]

def windowFeed (b : Burst l F) (xs : List Sample) : Burst l F × Place l.samplesPerWindow :=
  feed l.window_pos windowPiece windowFinish b b.window xs

/-- **The three parts of the window update** are one stream of windows. -/
theorem burstUpdate_eq (hburst : cfg.burstControl = true) (xs : List Sample) (b : Burst l F) :
    burstUpdate cfg xs b = (windowFeed b xs).1.at (windowFeed b xs).1.windowCounter (windowFeed b xs).2 := by
  unfold burstUpdate windowFeed
  rw [hburst, if_neg (by decide)]
  by_cases h : xs.length < b.window.remaining
  · rw [dif_pos h, feed_of_lt h]
    rfl
  · rw [dif_neg h, feed_of_le (Nat.not_lt.mp h)]
    have hfirst : windowFinish (windowPiece b (xs.take b.window.remaining)) =
        (burstEndOfWindow (b.windowCounter + burstCountSamples (xs.take b.window.remaining)) b).at 0 b.window := by
      simp only [windowFinish, windowPiece, burstEndOfWindow_at, Burst.at_at]
      rfl
    rw [hfirst, feed_start, whole_windows]
    simp only [windowPiece, Burst.at_at]
    rw [show ∀ c : Burst l F, (c.at 0 b.window).windowCounter = 0 from fun _ => rfl, Nat.zero_add]
    rfl

/-- Where the window is said to be in the record does not matter to the stream. -/
theorem feed_moved (b : Burst l F) (p q : Place l.samplesPerWindow) (xs : List Sample) :
    ∃ q', feed l.window_pos windowPiece windowFinish (b.at b.windowCounter q) p xs =
      ((feed l.window_pos windowPiece windowFinish b p xs).1.at
          (feed l.window_pos windowPiece windowFinish b p xs).1.windowCounter q',
        (feed l.window_pos windowPiece windowFinish b p xs).2) := by
  have hstart : ∃ q', b.at b.windowCounter q = b.at b.windowCounter q' := ⟨q, rfl⟩
  have hsim : (∃ q', (feed l.window_pos windowPiece windowFinish (b.at b.windowCounter q) p xs).1 =
      (feed l.window_pos windowPiece windowFinish b p xs).1.at
        (feed l.window_pos windowPiece windowFinish b p xs).1.windowCounter q') ∧
      (feed l.window_pos windowPiece windowFinish b p xs).2 =
        (feed l.window_pos windowPiece windowFinish (b.at b.windowCounter q) p xs).2 := feed_simulation l.window_pos (Q := Eq)
    (R := fun b b' : Burst l F => ∃ q, b' = b.at b.windowCounter q)
    (fun b b' xs ys hb hxs => by
      obtain ⟨q, rfl⟩ := hb
      obtain rfl := List.forall₂_eq_eq_eq ▸ hxs
      exact ⟨q, rfl⟩)
    (fun b b' hb => by
      obtain ⟨q, rfl⟩ := hb
      refine ⟨q, ?_⟩
      show (burstEndOfWindow b.windowCounter (b.at b.windowCounter q)).at 0 q = _
      rw [burstEndOfWindow_at]
      rfl)
    hstart (List.forall₂_refl xs)
  obtain ⟨⟨q', hstate⟩, hplace⟩ := hsim
  exact ⟨q', Prod.ext hstate hplace.symm⟩

theorem windowPiece_append (b : Burst l F) (xs ys : List Sample) :
    windowPiece b (xs ++ ys) = windowPiece (windowPiece b xs) ys := by
  rw [windowPiece, burstCountSamples_append, ← Nat.add_assoc]
  rfl

/-- The window update can be cut anywhere. -/
theorem burstUpdate_append (hburst : cfg.burstControl = true) (xs ys : List Sample) (b : Burst l F) :
    burstUpdate cfg (xs ++ ys) b = burstUpdate cfg ys (burstUpdate cfg xs b) := by
  rw [burstUpdate_eq hburst, burstUpdate_eq hburst xs, burstUpdate_eq hburst ys]
  unfold windowFeed
  rw [feed_append windowPiece_append]
  generalize feed l.window_pos windowPiece windowFinish b b.window xs = r
  obtain ⟨q, h⟩ := feed_moved r.1 r.2 r.2 ys
  have hwindow : (r.1.at r.1.windowCounter r.2).window = r.2 := rfl
  rw [hwindow, h]
  rfl

theorem burstUpdate_nil (b : Burst l F) : burstUpdate cfg [] b = b := by
  unfold burstUpdate
  by_cases hburst : (!cfg.burstControl) = true
  · rw [if_pos hburst]
  · rw [if_neg hburst, dif_pos (show ([] : List Sample).length < b.window.remaining from b.window.pos)]
    rfl

theorem burstSkipWindows_eq (n : ℕ) (b : Burst l F) (xs : List Sample) (hquiet : burstCountSamples xs = 0) :
    burstSkipWindows n b = burstScanWindows n xs b := by
  induction n generalizing b xs with
  | zero => rfl
  | succ n ih =>
    have htake : burstCountSamples (xs.take l.samplesPerWindow) = 0 :=
      Nat.le_zero.mp (hquiet ▸ (List.take_sublist _ _).countP_le)
    have hdrop : burstCountSamples (xs.drop l.samplesPerWindow) = 0 :=
      Nat.le_zero.mp (hquiet ▸ (List.drop_sublist _ _).countP_le)
    rw [burstSkipWindows, burstScanWindows, htake, ih _ _ hdrop]

variable (cfg) in
/-- To skip samples is to update with as many quiet ones. -/
theorem burstSkip_eq (b : Burst l F) (xs : List Sample) (hquiet : burstCountSamples xs = 0) :
    burstSkip cfg xs.length b = burstUpdate cfg xs b := by
  have hsub : ∀ {ys : List Sample}, ys.Sublist xs → burstCountSamples ys = 0 := fun h =>
    Nat.le_zero.mp (hquiet ▸ h.countP_le)
  unfold burstSkip burstUpdate
  by_cases hburst : (!cfg.burstControl) = true
  · rw [if_pos hburst, if_pos hburst]
  rw [if_neg hburst, if_neg hburst]
  by_cases h : xs.length < b.window.remaining
  · rw [dif_pos h, dif_pos h, hquiet]
    rfl
  · rw [dif_neg h, dif_neg h]
    have hrest : (xs.drop b.window.remaining).length = xs.length - b.window.remaining := List.length_drop
    have hquietRest := hsub (List.drop_sublist b.window.remaining xs)
    have hwindows := burstSkipWindows_eq ((xs.length - b.window.remaining) / l.samplesPerWindow)
      (burstEndOfWindow b.windowCounter b) _ hquietRest
    have hcongr : ∀ {b b' : Burst l F} {i j : ℕ} {p q : Place l.samplesPerWindow}, b = b' → i = j →
        p.remaining = q.remaining → b.at i p = b'.at j q := fun hb hij hpq => by rw [hb, hij, Place.ext hpq]
    refine hcongr ?_ (hsub ((List.drop_sublist _ _).trans (List.drop_sublist _ _))).symm ?_
    · rw [hsub (List.take_sublist _ _), Nat.add_zero, hrest, hwindows]
    · show l.samplesPerWindow - _ = l.samplesPerWindow - _
      rw [List.length_drop, hrest]

/-- The window goes on by the number of samples, and its counter never counts more than it has seen. -/
theorem burstUpdate_place (hburst : cfg.burstControl = true) (xs : List Sample) (b : Burst l F)
    (hcounter : b.windowCounter + b.window.remaining ≤ l.samplesPerWindow) :
    (burstUpdate cfg xs b).windowCounter + (burstUpdate cfg xs b).window.remaining ≤ l.samplesPerWindow ∧
      (l.samplesPerWindow : ℤ) ∣ (burstUpdate cfg xs b).window.remaining - (b.window.remaining - xs.length : ℤ) := by
  rw [burstUpdate_eq hburst]
  refine ⟨?_, feed_place b b.window xs⟩
  refine feed_invariant (I := fun (b : Burst l F) p => b.windowCounter + p.remaining ≤ l.samplesPerWindow) (fun b p xs hb hlt => ?_)
    (fun b p xs hb hfull => ?_) hcounter xs
  · have hcount : burstCountSamples xs ≤ xs.length := List.countP_le_length
    show b.windowCounter + burstCountSamples xs + (p.remaining - xs.length) ≤ _
    omega
  · show 0 + l.samplesPerWindow ≤ _
    omega

/-! ### Noise -/

theorem rangeUpdate_nil (n : Noise F) : rangeUpdate cfg [] n = n := by
  unfold rangeUpdate
  split_ifs
  · rfl
  · simp

theorem rangeUpdate_append (xs ys : List Sample) (n : Noise F) :
    rangeUpdate cfg (xs ++ ys) n = rangeUpdate cfg ys (rangeUpdate cfg xs n) := by
  unfold rangeUpdate
  split_ifs
  · rfl
  · simp [List.foldl_append, UInt32.ofNat_add, UInt32.add_assoc]

/-! ### Windows and subblocks in step -/

/-- The windows are in step with the subblock: they end together. -/
structure Aligned (c : Core l F D) (p : Place l.samplesPerSubblock) : Prop where
  counter : c.burst.windowCounter + c.burst.window.remaining ≤ l.samplesPerWindow
  active : c.subblockActive = true → (l.samplesPerWindow : ℤ) ∣ p.remaining - c.burst.window.remaining
  inactive : c.subblockActive = false → c.burst.window.remaining = l.samplesPerWindow

/-- A window that is in step with the start of a subblock is at its own start. -/
theorem at_start {w size : ℕ} (hpos : 0 < w) (hle : w ≤ size) {n : ℤ} (hn : (size : ℤ) ∣ n) (h : (size : ℤ) ∣ n - w) :
    w = size := by
  have hdvd : (size : ℤ) ∣ w := by simpa using dvd_sub hn h
  exact le_antisymm hle (Nat.le_of_dvd hpos (Int.natCast_dvd_natCast.mp hdvd))

theorem samplesPerSubblock_dvd (l : Layout) : (l.samplesPerWindow : ℤ) ∣ l.samplesPerSubblock := by
  rw [l.subblock_eq, Nat.cast_mul]
  exact dvd_mul_right _ _

theorem Aligned.boundary {c : Core l F D} {p : Place l.samplesPerSubblock} (h : Aligned c p)
    (hp : p.remaining = l.samplesPerSubblock) :
    c.burst.window.remaining = l.samplesPerWindow ∧ c.burst.windowCounter = 0 := by
  have hwindow : c.burst.window.remaining = l.samplesPerWindow := by
    cases hc : c.subblockActive with
    | true => exact at_start c.burst.window.pos c.burst.window.le (samplesPerSubblock_dvd l) (hp ▸ h.active hc)
    | false => exact h.inactive hc
  have := h.counter
  exact ⟨hwindow, by omega⟩

/-! ### Subblocks -/

variable [Arithmetic F]

/-- What becomes of the samples inside one subblock, if there are any. -/
def subblockPiece (cfg : Config F) (decoded : Option F) (c : Core l F D) (xs : List Sample) : Core l F D :=
  if 0 < xs.length then updateActive cfg decoded c xs else c

/-- **The loop of `adaptive_update`** is one stream of subblocks. -/
theorem updateFrom_eq (decoded : Option F) (c : Core l F D) (p : Place l.samplesPerSubblock) (xs : List Sample) :
    updateFrom cfg sdr decoded c p xs =
      ⟨(feed l.subblock_pos (subblockPiece cfg decoded) (endOfSubblock cfg sdr) c p xs).1,
        (feed l.subblock_pos (subblockPiece cfg decoded) (endOfSubblock cfg sdr) c p xs).2⟩ := by
  induction c, p, xs using feed.induct l.subblock_pos (subblockPiece cfg decoded) (endOfSubblock cfg sdr) with
  | case1 c p xs h =>
    rw [feed_of_lt h, updateFrom, dif_neg (Nat.not_le.mpr h)]
    by_cases hsome : 0 < xs.length
    · rw [if_pos hsome, subblockPiece, if_pos hsome]
    · obtain rfl : xs = [] := List.length_eq_zero_iff.mp (Nat.eq_zero_of_not_pos hsome)
      rfl
  | case2 c p xs h ih =>
    have hle := Nat.not_lt.mp h
    have hsome : 0 < (xs.take p.remaining).length := by
      have := p.pos
      rw [List.length_take]
      omega
    rw [feed_of_le hle, updateFrom, dif_pos hle, ← ih, subblockPiece, if_pos hsome]

theorem updateActive_nil (c : Core l F D) : updateActive cfg none c [] = c := by
  unfold updateActive updateSubblock
  dsimp only
  rw [burstUpdate_nil, rangeUpdate_nil]
  split_ifs <;> rfl

theorem subblockPiece_none (c : Core l F D) (xs : List Sample) :
    subblockPiece cfg none c xs = updateActive cfg none c xs := by
  unfold subblockPiece
  by_cases h : 0 < xs.length
  · rw [if_pos h]
  · obtain rfl : xs = [] := List.length_eq_zero_iff.mp (Nat.eq_zero_of_not_pos h)
    rw [if_neg h, updateActive_nil]

/-- An inactive subblock is skipped. -/
theorem subblockPiece_inactive (decoded : Option F) {c : Core l F D} (h : c.subblockActive = false) (xs : List Sample) :
    subblockPiece cfg decoded c xs = c := by
  unfold subblockPiece updateActive
  rw [h, if_neg (by decide : ¬ false = true)]
  exact ite_self c

/-- Undecoded samples can be cut anywhere inside a subblock. -/
theorem subblockPiece_append (hburst : cfg.burstControl = true) (c : Core l F D) (xs ys : List Sample) :
    subblockPiece cfg none c (xs ++ ys) = subblockPiece cfg none (subblockPiece cfg none c xs) ys := by
  rw [subblockPiece_none, subblockPiece_none, subblockPiece_none]
  unfold updateActive
  by_cases hactive : c.subblockActive = true
  · have hstill : (updateSubblock cfg none c xs).subblockActive = true := hactive
    rw [if_pos hactive, if_pos hactive, if_pos hstill]
    unfold updateSubblock
    dsimp only
    rw [burstUpdate_append hburst, rangeUpdate_append]
  · rw [if_neg hactive, if_neg hactive, if_neg hactive]

theorem update_eq (hburst : cfg.burstControl = true) (xs : List Sample) (decoded : Option F) (s : State l F D) :
    update cfg sdr xs decoded s =
      ⟨(feed l.subblock_pos (subblockPiece cfg decoded) (endOfSubblock cfg sdr) s.core s.subblock xs).1,
        (feed l.subblock_pos (subblockPiece cfg decoded) (endOfSubblock cfg sdr) s.core s.subblock xs).2⟩ := by
  unfold update
  rw [hburst, if_neg (by simp), updateFrom_eq]

/-- The calls one after the other: each has its samples, and a signal level if they are a message. -/
def run (cfg : Config F) (sdr : Sdr F D) (s : State l F D) (calls : List (List Sample × Option F)) : State l F D :=
  calls.foldl (fun s call => update cfg sdr call.1 call.2 s) s

/-- The chunks one after the other, none of them decoded. -/
def runChunks (cfg : Config F) (sdr : Sdr F D) (s : State l F D) (chunks : List (List Sample)) : State l F D :=
  chunks.foldl (fun s xs => update cfg sdr xs none s) s

theorem update_append (hburst : cfg.burstControl = true) (xs ys : List Sample) (s : State l F D) :
    update cfg sdr (xs ++ ys) none s = update cfg sdr ys none (update cfg sdr xs none s) := by
  rw [update_eq hburst, update_eq hburst xs, update_eq hburst ys, feed_append (subblockPiece_append hburst)]

theorem update_nil (hburst : cfg.burstControl = true) (s : State l F D) : update cfg sdr [] none s = s := by
  rw [update_eq hburst, feed_of_lt (show ([] : List Sample).length < s.subblock.remaining from s.subblock.pos)]
  rfl

theorem runChunks_eq (hburst : cfg.burstControl = true) (s : State l F D) (chunks : List (List Sample)) :
    runChunks cfg sdr s chunks = update cfg sdr chunks.flatten none s := by
  induction chunks generalizing s with
  | nil => rw [List.flatten_nil, update_nil hburst]; rfl
  | cons xs chunks ih => rw [List.flatten_cons, update_append hburst, ← ih]; rfl

/-! ### Runs -/

theorem updateSubblock_place (hburst : cfg.burstControl = true) (decoded : Option F) (c : Core l F D)
    (xs : List Sample) (hcounter : c.burst.windowCounter + c.burst.window.remaining ≤ l.samplesPerWindow) :
    (updateSubblock cfg decoded c xs).burst.windowCounter +
        (updateSubblock cfg decoded c xs).burst.window.remaining ≤ l.samplesPerWindow ∧
      (l.samplesPerWindow : ℤ) ∣
        (updateSubblock cfg decoded c xs).burst.window.remaining - (c.burst.window.remaining - xs.length : ℤ) := by
  cases decoded with
  | none => exact burstUpdate_place hburst xs c.burst hcounter
  | some level =>
    have hquiet : burstCountSamples (List.replicate xs.length 0) = 0 := by
      simp [burstCountSamples, List.countP_replicate]
    unfold updateSubblock
    dsimp only
    have hskip := fun b : Burst l F => burstSkip_eq cfg b (List.replicate xs.length 0) hquiet
    rw [List.length_replicate] at hskip
    rw [hskip]
    have hplace := fun b : Burst l F => burstUpdate_place hburst (List.replicate xs.length 0) b
    rw [List.length_replicate] at hplace
    split_ifs
    · exact hplace _ hcounter
    · exact hplace _ hcounter

variable (cfg sdr) in
theorem endOfSubblock_place (c : Core l F D) :
    (endOfSubblock cfg sdr c).burst.windowCounter = c.burst.windowCounter ∧
      (endOfSubblock cfg sdr c).burst.window = c.burst.window := by
  have hwindow : ∀ b : Burst l F, (burstEndOfWindow 0 b).windowCounter = b.windowCounter ∧
      (burstEndOfWindow 0 b).window = b.window := fun b => by
    unfold burstEndOfWindow
    split_ifs <;> exact ⟨rfl, rfl⟩
  have hblock : ∀ b : Burst l F, (burstEndOfBlock cfg b).windowCounter = b.windowCounter ∧
      (burstEndOfBlock cfg b).window = b.window := fun b => by
    unfold burstEndOfBlock
    split_ifs <;> exact ⟨rfl, rfl⟩
  have hnext : (nextSubblock cfg c).burst.windowCounter = c.burst.windowCounter ∧
      (nextSubblock cfg c).burst.window = c.burst.window := by
    unfold nextSubblock
    dsimp only
    split_ifs
    · exact ⟨rfl, rfl⟩
    · exact hwindow c.burst
  rw [← hnext.1, ← hnext.2]
  unfold endOfSubblock
  dsimp only
  split_ifs
  · exact hblock (nextSubblock cfg c).burst
  · exact ⟨rfl, rfl⟩

/-- Samples inside a subblock keep the windows in step with it. -/
theorem updateActive_place (hburst : cfg.burstControl = true) (decoded : Option F) (c : Core l F D)
    (p : Place l.samplesPerSubblock) (xs : List Sample) (hc : Aligned c p) :
    (updateActive cfg decoded c xs).burst.windowCounter +
        (updateActive cfg decoded c xs).burst.window.remaining ≤ l.samplesPerWindow ∧
      (c.subblockActive = true → (l.samplesPerWindow : ℤ) ∣
        (p.remaining - xs.length : ℤ) - (updateActive cfg decoded c xs).burst.window.remaining) ∧
      (c.subblockActive = false → (updateActive cfg decoded c xs).burst.window.remaining = l.samplesPerWindow) ∧
      (updateActive cfg decoded c xs).subblockActive = c.subblockActive := by
  unfold updateActive
  cases hactive : c.subblockActive with
  | true =>
    obtain ⟨hcounter, hdvd⟩ := updateSubblock_place hburst decoded c xs hc.counter
    rw [if_pos rfl]
    refine ⟨hcounter, fun _ => ?_, nofun, ?_⟩
    · have hsplit : ∀ w : ℤ, (p.remaining - xs.length : ℤ) - w = (p.remaining - c.burst.window.remaining : ℤ) -
          (w - (c.burst.window.remaining - xs.length)) := fun w => by ring
      rw [hsplit]
      exact dvd_sub (hc.active hactive) hdvd
    · rw [← hactive]
      cases decoded <;> rfl
  | false =>
    rw [if_neg (by decide)]
    exact ⟨hc.counter, nofun, fun _ => hc.inactive hactive, hactive⟩

theorem update_aligned (hburst : cfg.burstControl = true) (xs : List Sample) (decoded : Option F) {s : State l F D}
    (hs : Aligned s.core s.subblock) :
    Aligned (update cfg sdr xs decoded s).core (update cfg sdr xs decoded s).subblock := by
  rw [update_eq hburst]
  refine feed_invariant (I := Aligned) (fun c p xs hc hlt => ?_) (fun c p xs hc hfull => ?_) hs xs
  · unfold subblockPiece
    by_cases hsome : 0 < xs.length
    · rw [if_pos hsome]
      obtain ⟨hcounter, hdvd, hidle, hactive⟩ := updateActive_place hburst decoded c p xs hc
      refine ⟨hcounter, fun h => ?_, fun h => hidle (hactive ▸ h)⟩
      rw [Place.advance_remaining, Nat.cast_sub hlt.le]
      exact hdvd (hactive ▸ h)
    · rw [if_neg hsome]
      have hnil : xs.length = 0 := Nat.eq_zero_of_not_pos hsome
      refine ⟨hc.counter, fun h => ?_, hc.inactive⟩
      rw [Place.advance_remaining, hnil, Nat.sub_zero]
      exact hc.active h
  · have hsome : 0 < xs.length := hfull ▸ p.pos
    rw [subblockPiece, if_pos hsome]
    obtain ⟨hcounter, hdvd, hidle, hactive⟩ := updateActive_place hburst decoded c p xs hc
    obtain ⟨hsame, hplace⟩ := endOfSubblock_place cfg sdr (updateActive cfg decoded c xs)
    have hwindow : (updateActive cfg decoded c xs).burst.window.remaining = l.samplesPerWindow := by
      cases h : c.subblockActive with
      | true =>
        have := hdvd h
        rw [hfull, sub_self] at this
        exact at_start (Place.pos _) (Place.le _) (dvd_zero _) this
      | false => exact hidle h
    refine ⟨by rw [hsame, hplace]; exact hcounter, fun _ => ?_, fun _ => by rw [hplace]; exact hwindow⟩
    rw [hplace, hwindow, Place.start_remaining]
    exact dvd_sub (samplesPerSubblock_dvd l) (dvd_refl _)

theorem init_aligned {device : D} {s : State l F D} (h : init cfg sdr l device = some s) :
    Aligned s.core s.subblock := by
  unfold init at h
  split_ifs at h
  cases h
  refine ⟨?_, nofun, fun _ => rfl⟩
  show 0 + l.samplesPerWindow ≤ _
  omega

variable (sdr) in
theorem run_aligned (hburst : cfg.burstControl = true) (calls : List (List Sample × Option F)) {s : State l F D}
    (hs : Aligned s.core s.subblock) :
    Aligned (run cfg sdr s calls).core (run cfg sdr s calls).subblock := by
  induction calls generalizing s with
  | nil => exact hs
  | cons call calls ih => exact ih (update_aligned hburst call.1 call.2 hs)

/-- **Main theorem.** In every state that calls lead to, undecoded samples may be cut into any chunks;
and a subblock starts with a window. -/
theorem update_chunks (hburst : cfg.burstControl = true) {device : D} {start : State l F D}
    (hinit : init cfg sdr l device = some start) (calls : List (List Sample × Option F)) (chunks : List (List Sample)) :
    runChunks cfg sdr (run cfg sdr start calls) chunks =
        update cfg sdr chunks.flatten none (run cfg sdr start calls) ∧
      ((run cfg sdr start calls).subblock.remaining = l.samplesPerSubblock →
        (run cfg sdr start calls).core.burst.window.remaining = l.samplesPerWindow ∧
          (run cfg sdr start calls).core.burst.windowCounter = 0) := by
  exact ⟨runChunks_eq hburst _ chunks, (run_aligned sdr hburst calls (init_aligned hinit)).boundary⟩

theorem update_chunks_tuner : ∃ s, init defaults tuner layout 3 = some s ∧
    runChunks defaults tuner (run defaults tuner s [(List.replicate 100 50000, none)]) [[7], [], [60000, 8]] =
      update defaults tuner [7, 60000, 8] none (run defaults tuner s [(List.replicate 100 50000, none)]) :=
  ⟨_, rfl, (update_chunks rfl rfl _ _).1⟩

end RbFeeder.Adaptive
