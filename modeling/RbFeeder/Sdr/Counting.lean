import RbFeeder.Sdr.ReaderProofs

/-! What the main loop counts.

It counts the samples of each buffer when it releases it, and the buffer's `dropped`
with them. The callback sets that only when something was dropped and nothing resets it,
so a buffer that is used again counts an old gap again (`stale`). -/
namespace RbFeeder.Sdr
open Runs

/-! ### The `dropped` of the buffers -/

section Notes
variable {n : Nat}

/-- `if (dropped) outbuf->dropped = dropped`. -/
def note (noted : Fin n → BitVec 32) (drop : Fin n × BitVec 32) : Fin n → BitVec 32 :=
  if drop.2 ≠ 0 then Function.update noted drop.1 drop.2 else noted

/-- What was dropped in front of these blocks. -/
def missed (drops : List (Fin n × BitVec 32)) : BitVec 64 := (drops.map fun drop => drop.2.setWidth 64).sum

/-- The old gaps that are counted again with these blocks. -/
def stale (noted : Fin n → BitVec 32) : List (Fin n × BitVec 32) → BitVec 64
  | [] => 0
  | drop :: drops => (if drop.2 = 0 then (noted drop.1).setWidth 64 else 0) + stale (note noted drop) drops

theorem stale_concat (noted : Fin n → BitVec 32) (drops : List (Fin n × BitVec 32)) (drop : Fin n × BitVec 32) :
    stale noted (drops ++ [drop]) =
      stale noted drops + if drop.2 = 0 then (drops.foldl note noted drop.1).setWidth 64 else 0 := by
  induction drops generalizing noted with
  | nil => exact (add_zero _).trans (zero_add _).symm
  | cons first drops ih => rw [List.cons_append, stale, ih, stale, ← add_assoc, List.foldl_cons]

/-- A block counts its own gap, or an old one. -/
theorem count_concat (noted : Fin n → BitVec 32) (drops : List (Fin n × BitVec 32)) (drop : Fin n × BitVec 32) :
    missed (drops ++ [drop]) + stale noted (drops ++ [drop]) =
      missed drops + stale noted drops + (note (drops.foldl note noted) drop drop.1).setWidth 64 := by
  have hmissed : missed (drops ++ [drop]) = missed drops + drop.2.setWidth 64 := by
    rw [missed, List.map_append, List.sum_append, List.map_singleton, List.sum_singleton, missed]
  rw [hmissed, stale_concat, note]
  by_cases hzero : drop.2 = 0
  · rw [if_pos hzero, if_neg (not_not.mpr hzero), hzero]
    show missed drops + 0 + _ = _
    ring
  · rw [if_neg hzero, if_pos hzero, Function.update_self]
    ring

end Notes

/-! ### The counts -/

/-- The new samples of a block, as the main loop counts them. -/
def Block.samples (b : Block) : BitVec 64 := BitVec.ofNat 64 (b.validLength - b.overlap)

section Tallied
variable {n : Nat}

/-- The blocks that are queued. -/
def Station.queued (s : Station n) : List (Fin n × Block) := s.system.enqueued.drop s.system.dequeued.length

/-- What has been counted, and what is still to count, is all that was enqueued. -/
structure Tallied (s : Station n) : Prop where
  noted : s.noted = s.drops.foldl note fun _ => 0
  processed : s.samples_processed + ((s.system.hands .consumer).map fun b => (s.system.fifo.heap b).block.samples).sum +
      (s.queued.map fun e => e.2.samples).sum = (s.blocks.map Block.samples).sum
  dropped : s.samples_dropped + ((s.system.hands .consumer).map fun b => (s.noted b).setWidth 64).sum +
      (s.queued.map fun e => (s.noted e.1).setWidth 64).sum =
      missed s.drops + stale (fun _ => 0) s.drops

variable {s s' : Station n} {queue unused : List (Fin n)}

/-- The queue, as the logs have it. -/
theorem queued_eq (h : Holds s.system queue unused) (hrunning : s.system.fifo.fifo_halted = false) :
    s.queued = queue.map fun b => (b, (s.system.fifo.heap b).block) := by
  rw [Station.queued, h.order hrunning, List.drop_left]

/-- A buffer that the callback holds, or that is free, is neither queued nor demodulated. -/
theorem elsewhere (h : Holds s.system queue unused) (hrunning : s.system.fifo.fifo_halted = false) {buf : Fin n}
    (hbuf : buf ∈ s.system.hands .producer ∨ buf ∈ unused) :
    (∀ b ∈ s.system.hands .consumer, b ≠ buf) ∧ ∀ e ∈ s.queued, e.1 ≠ buf := by
  have hone := h.owned buf
  have hcount : 1 ≤ unused.count buf + (s.system.hands .producer).count buf := by
    rcases hbuf with hheld | hfree
    · exact Nat.le_add_left_of_le (List.count_pos_iff.mpr hheld)
    · exact Nat.le_add_right_of_le (List.count_pos_iff.mpr hfree)
  refine ⟨fun b hb heq => ?_, fun e he heq => ?_⟩
  · obtain rfl := heq
    have hpos := List.count_pos_iff.mpr hb
    omega
  · rw [queued_eq h hrunning] at he
    obtain ⟨b, hb, rfl⟩ := List.mem_map.mp he
    obtain rfl : b = buf := heq
    have hpos := List.count_pos_iff.mpr hb
    omega

/-- The main loop has what it had, and the blocks are the same. -/
theorem Tallied.congr (h : Tallied s) (hconsumer : s'.system.hands .consumer = s.system.hands .consumer)
    (hheap : ∀ b ∈ s.system.hands .consumer, (s'.system.fifo.heap b).block = (s.system.fifo.heap b).block)
    (henqueued : s'.system.enqueued = s.system.enqueued) (hdequeued : s'.system.dequeued = s.system.dequeued)
    (hnoted : s'.noted = s.noted) (hdrops : s'.drops = s.drops) (hprocessed : s'.samples_processed = s.samples_processed)
    (hdropped : s'.samples_dropped = s.samples_dropped) : Tallied s' where
  noted := by rw [hnoted, hdrops, h.noted]
  processed := by
    have hmap := List.map_congr_left (f := fun b => (s'.system.fifo.heap b).block.samples)
      (g := fun b => (s.system.fifo.heap b).block.samples) fun b hb => congrArg Block.samples (hheap b hb)
    rw [hprocessed, hconsumer, hmap, Station.queued, henqueued, hdequeued, Station.blocks, henqueued]
    exact h.processed
  dropped := by
    rw [hdropped, hconsumer, hnoted, hdrops, Station.queued, henqueued, hdequeued]
    exact h.dropped

/-- A block that is enqueued is to be counted. -/
theorem Tallied.deliver (h : Tallied s) (hholds : Holds s.system queue unused)
    (hrunning : s.system.fifo.fifo_halted = false) {outbuf : Fin n} (hbuf : outbuf ∈ s.system.hands .producer)
    {b : Block} (hbeside : Beside outbuf s.system s'.system)
    (henqueued : s'.system.enqueued = s.system.enqueued ++ [(outbuf, b)])
    (hnoted : s'.noted = note s.noted (outbuf, s.dropped)) (hdrops : s'.drops = s.drops ++ [(outbuf, s.dropped)])
    (hprocessed : s'.samples_processed = s.samples_processed) (hdropped : s'.samples_dropped = s.samples_dropped) :
    Tallied s' := by
  obtain ⟨hconsumer, hqueued⟩ := elsewhere hholds hrunning (.inl hbuf)
  have hlength : s.system.dequeued.length ≤ s.system.enqueued.length := hholds.delivered.length_le
  have hqueue : s'.queued = s.queued ++ [(outbuf, b)] := by
    rw [Station.queued, henqueued, hbeside.dequeued, List.drop_append_of_le_length hlength, Station.queued]
  have hothers : ∀ c ≠ outbuf, s'.noted c = s.noted c := by
    intro c hc
    rw [hnoted, note]
    split
    · exact Function.update_of_ne hc ..
    · rfl
  refine ⟨?_, ?_, ?_⟩
  · rw [hnoted, hdrops, List.foldl_append, ← h.noted]
    rfl
  · have hmap := List.map_congr_left (f := fun c => (s'.system.fifo.heap c).block.samples)
      (g := fun c => (s.system.fifo.heap c).block.samples)
      fun c hc => congrArg Block.samples (hbeside.blocks c (hconsumer c hc))
    have hblocks : s'.blocks = s.blocks ++ [b] := by
      rw [Station.blocks, henqueued, List.map_append, List.map_singleton, Station.blocks]
    rw [hprocessed, hbeside.consumer, hmap, hqueue, List.map_append, List.sum_append, ← add_assoc, h.processed,
      hblocks, List.map_append, List.sum_append, List.map_singleton, List.map_singleton]
  · have hhand := List.map_congr_left (f := fun c => (s'.noted c).setWidth 64) (g := fun c => (s.noted c).setWidth 64)
      fun c hc => congrArg (BitVec.setWidth 64) (hothers c (hconsumer c hc))
    have hrest := List.map_congr_left (f := fun e : Fin n × Block => (s'.noted e.1).setWidth 64)
      (g := fun e => (s.noted e.1).setWidth 64) fun e he => congrArg (BitVec.setWidth 64) (hothers e.1 (hqueued e he))
    rw [hdropped, hbeside.consumer, hhand, hqueue, List.map_append, List.sum_append, hrest, ← add_assoc, h.dropped,
      hdrops, count_concat, ← h.noted, hnoted, List.map_singleton, List.sum_singleton]

theorem Tallied.dequeue (h : Tallied s) (hholds : Holds s.system queue unused)
    (hstep : s.system.step .dequeue = .ok s'.system) (hnoted : s'.noted = s.noted) (hdrops : s'.drops = s.drops)
    (hprocessed : s'.samples_processed = s.samples_processed) (hdropped : s'.samples_dropped = s.samples_dropped) :
    Tallied s' := by
  have hframed := hholds.framed_dequeue hstep
  simp only [System.step] at hstep
  rcases hholds.lists.dequeue with hnone | ⟨buf, rest, fifo, hrunning, rfl, hdequeue, -, -, hblock⟩
  · rw [hnone] at hstep
    have hsame := Except.ok.inj hstep
    refine h.congr ?_ (fun b _ => hframed.blocks b) hframed.enqueued ?_ hnoted hdrops hprocessed hdropped
    · rw [← hsame]
    · rw [← hsame]
  · rw [hdequeue] at hstep
    have hafter := Except.ok.inj hstep
    have hhands : s'.system.hands .consumer = buf :: s.system.hands .consumer := by
      rw [← hafter]
      show s.system.take .consumer buf .consumer = _
      exact Function.update_self ..
    have hqueued := queued_eq hholds hrunning
    have hrest : s'.queued = rest.map fun b => (b, (s.system.fifo.heap b).block) := by
      have hlength : s'.system.dequeued.length = s.system.dequeued.length + 1 := by
        rw [← hafter]
        exact List.length_append
      rw [Station.queued, hframed.enqueued, hlength, ← List.drop_drop]
      show s.queued.drop 1 = _
      rw [hqueued]
      rfl
    have hprocessedBefore := h.processed
    have hdroppedBefore := h.dropped
    rw [hqueued, List.map_cons, List.map_cons, List.sum_cons] at hprocessedBefore hdroppedBefore
    refine ⟨by rw [hnoted, hdrops, h.noted], ?_, ?_⟩
    · rw [hprocessed, hhands, hrest, List.map_cons, List.sum_cons, Station.blocks, hframed.enqueued]
      simp only [hframed.blocks]
      refine Eq.trans ?_ hprocessedBefore
      ring
    · rw [hdropped, hhands, hrest, hnoted, hdrops, List.map_cons, List.sum_cons, ← hdroppedBefore]
      ring

theorem Tallied.finish (h : Tallied s) {buf : Fin n} {rest : List (Fin n)}
    (hhands : s.system.hands .consumer = buf :: rest)
    (hstep : s.system.step (.release .consumer buf) = .ok s'.system) (hnoted : s'.noted = s.noted)
    (hdrops : s'.drops = s.drops)
    (hprocessed : s'.samples_processed = s.samples_processed + (s.system.fifo.heap buf).block.samples)
    (hdropped : s'.samples_dropped = s.samples_dropped + (s.noted buf).setWidth 64) : Tallied s' := by
  have hframed := framed_release hstep
  simp only [System.step] at hstep
  rw [if_pos (by rw [hhands]; exact List.mem_cons_self)] at hstep
  have hafter := Except.ok.inj hstep
  have hrest : s'.system.hands .consumer = rest := by
    rw [← hafter]
    show s.system.drop .consumer buf .consumer = rest
    rw [System.drop, Function.update_self, hhands, List.erase_cons_head]
  have hdequeued : s'.system.dequeued = s.system.dequeued := by rw [← hafter]
  have hprocessedBefore := h.processed
  have hdroppedBefore := h.dropped
  rw [hhands, List.map_cons, List.sum_cons] at hprocessedBefore hdroppedBefore
  refine ⟨by rw [hnoted, hdrops, h.noted], ?_, ?_⟩
  · rw [hprocessed, hrest, Station.queued, hframed.enqueued, hdequeued, Station.blocks, hframed.enqueued]
    simp only [hframed.blocks]
    refine Eq.trans ?_ hprocessedBefore
    rw [Station.queued]
    ring
  · rw [hdropped, hrest, Station.queued, hframed.enqueued, hdequeued, hnoted, hdrops, ← hdroppedBefore, Station.queued]
    ring

variable {size overlap : Nat} {magnitude : Iq → Sample} {clock : BitVec 64 → BitVec 64}

/-- **One step.** As long as the queue is running, nothing goes uncounted. -/
theorem Sound.tallied (hsound : Sound magnitude clock size overlap s) (hfits : overlap ≤ size)
    (h : s.system.fifo.fifo_halted = false → Tallied s) {a : Action} (hstep : s.step magnitude clock a = .ok s')
    (hrunning' : s'.system.fifo.fifo_halted = false) : Tallied s' := by
  obtain ⟨queue, unused, hholds⟩ := hsound.holds
  cases a with
  | callback buf =>
    simp only [Station.step, Station.callback] at hstep
    split at hstep
    · exact Except.ok.inj hstep ▸ h (Except.ok.inj hstep ▸ hrunning')
    · obtain ⟨hnone, hacquire⟩ | ⟨outbuf, system, hsome, hacquire, hhalted, henqueued, hhands, hbeside, -, -⟩ :=
        acquire_cases hsound
      · rw [hacquire, hnone] at hstep
        obtain rfl := Except.ok.inj hstep
        exact (h hrunning').congr rfl (fun _ _ => rfl) rfl rfl rfl rfl rfl rfl
      · rw [hacquire, hsome] at hstep
        obtain rfl := Except.ok.inj hstep
        have hrunning := hhalted.symm.trans hrunning'
        refine (h hrunning).congr hbeside.consumer (fun b hb => hbeside.blocks b fun heq => ?_) henqueued
          hbeside.dequeued rfl rfl rfl rfl
        obtain rfl := heq
        obtain ⟨queue', unused', hafter⟩ := (hholds.of_step hacquire).1
        have hone := hafter.owned b
        rw [hhands, hbeside.consumer, List.count_cons_self] at hone
        have hpos := List.count_pos_iff.mpr hb
        omega
  | deliver sysTimestamp =>
    simp only [Station.step, Station.deliver] at hstep
    split at hstep
    · exact Except.ok.inj hstep ▸ h (Except.ok.inj hstep ▸ hrunning')
    next outbuf iq hcall =>
    have hmem : outbuf ∈ s.system.hands .producer := by
      rw [hsound.held, hcall]
      exact List.mem_singleton_self outbuf
    obtain ⟨hroom, hvalid, -⟩ := filled_spec magnitude clock s (hsound.ready outbuf iq hcall) (hsound.total outbuf) hfits rfl sysTimestamp
    obtain ⟨system, hrun, -, -, -, -, hhalted, hbeside, henqueued⟩ := hholds.fill hsound.follows hsound.total hmem
      (s.filled magnitude clock (s.system.fifo.heap outbuf).block iq sysTimestamp) (hsound.total outbuf)
      (hvalid.trans_le hroom) (by rw [hvalid]; exact Nat.le_add_right ..)
    rw [hrun] at hstep
    obtain rfl := Except.ok.inj hstep
    have hrunning : s.system.fifo.fifo_halted = false := hhalted.symm.trans hrunning'
    obtain ⟨hstopped, -⟩ | ⟨-, b, happend, -⟩ := henqueued
    · exact absurd (hrunning.symm.trans hstopped) Bool.false_ne_true
    · exact (h hrunning).deliver hholds hrunning hmem hbeside happend rfl
        (if_neg (by rw [hrunning]; exact Bool.false_ne_true)) rfl rfl
  | dequeue =>
    simp only [Station.step, Station.dequeue] at hstep
    split at hstep
    · obtain ⟨system, hdequeue, rfl⟩ := map_ok.mp hstep
      have hrunning : s.system.fifo.fifo_halted = false := by
        cases hhalted : s.system.fifo.fifo_halted with
        | false => rfl
        | true => exact absurd (hrunning'.symm.trans ((hholds.framed_dequeue hdequeue).halted hhalted)) Bool.false_ne_true
      exact (h hrunning).dequeue hholds hdequeue rfl rfl rfl rfl
    · exact Except.ok.inj hstep ▸ h (Except.ok.inj hstep ▸ hrunning')
  | finish =>
    simp only [Station.step, Station.finish] at hstep
    split at hstep
    · exact Except.ok.inj hstep ▸ h (Except.ok.inj hstep ▸ hrunning')
    next buf rest hhands =>
    obtain ⟨system, hrelease, rfl⟩ := map_ok.mp hstep
    have hrunning : s.system.fifo.fifo_halted = false := by
      cases hhalted : s.system.fifo.fifo_halted with
      | false => rfl
      | true => exact absurd (hrunning'.symm.trans ((framed_release hrelease).halted hhalted)) Bool.false_ne_true
    exact (h hrunning).finish hhands hrelease rfl rfl rfl rfl
  | halt =>
    obtain ⟨system, hhalt, rfl⟩ := map_ok.mp hstep
    obtain ⟨system', hhalt', hhalted, -⟩ := hholds.halt
    obtain rfl := Except.ok.inj (hhalt'.symm.trans hhalt)
    exact absurd (hrunning'.symm.trans hhalted) Bool.false_ne_true
  | exit =>
    obtain rfl := Except.ok.inj hstep
    exact (h hrunning').congr rfl (fun _ _ => rfl) rfl rfl rfl rfl rfl rfl

end Tallied

/-- The main loop has nothing left to do. -/
def CaughtUp {n : Nat} (s : Station n) : Prop :=
  s.system.fifo.fifo_halted = false ∧ s.system.fifo.fifo_head = none ∧ s.system.hands .consumer = []

theorem newPart_samples {magnitude : Iq → Sample} {clock : BitVec 64 → BitVec 64} {overlap stop : Nat}
    {arrived : List Iq} {blocks : List Block} {gaps : List Nat}
    (h : Laid magnitude clock overlap arrived blocks gaps stop) :
    (blocks.map Block.samples).sum = BitVec.ofNat 64 (newSamples overlap blocks) := by
  induction h with
  | nil => rfl
  | @snoc blocks gaps stop gap len b _ hlength hoverlap hvalid hnew _ _ ih =>
    have hlen : (newPart overlap b).length = len := by
      rw [hnew]
      refine length_take_converted _ magnitude ?_
      rw [List.length_drop]
      omega
    rw [List.map_append, List.sum_append, ih, newSamples_concat, hlen, BitVec.ofNat_add, List.map_singleton,
      List.sum_singleton, Block.samples, hvalid, hoverlap, Nat.add_sub_cancel_left]

/-- **Main theorem.** Whenever the main loop has caught up, the samples it has processed are those of the blocks.
But the samples it counts as dropped are those that are missing in front of the blocks, and besides, for each block
with nothing missing in front of it, the last gap that its buffer has seen. -/
theorem station_counts (magnitude : Iq → Sample) (clock : BitVec 64 → BitVec 64) {buffer_count buffer_size overlap : Nat}
    (hfits : overlap ≤ buffer_size) {actions : List Action} {s : Station buffer_count}
    (hrun : run (Station.step magnitude clock) (.create buffer_count buffer_size overlap) actions = .ok s)
    (hcaught : CaughtUp s) :
    ∃ gaps stop, Laid magnitude clock overlap s.arrived s.blocks gaps stop ∧
      s.drops.map Prod.snd = gaps.map (BitVec.ofNat 32) ∧
      s.samples_processed = BitVec.ofNat 64 (newSamples overlap s.blocks) ∧
      s.samples_dropped = (gaps.map fun gap => (BitVec.ofNat 32 gap).setWidth 64).sum + stale (fun _ => 0) s.drops := by
  obtain ⟨hrunning, hhead, hhands⟩ := hcaught
  have hinv : Sound magnitude clock buffer_size overlap s ∧ (s.system.fifo.fifo_halted = false → Tallied s) := by
    refine run_invariant (I := fun s : Station buffer_count => Sound magnitude clock buffer_size overlap s ∧
      (s.system.fifo.fifo_halted = false → Tallied s)) ?_ ?_ hrun
    · intro s a s' h hstep
      obtain ⟨s₁, hs₁, hsound⟩ := h.1.step hfits a
      obtain rfl := Except.ok.inj (hs₁.symm.trans hstep)
      exact ⟨hsound, h.1.tallied hfits h.2 hstep⟩
    · exact ⟨sound_create magnitude clock buffer_count buffer_size overlap, fun _ => ⟨rfl, rfl, rfl⟩⟩
  obtain ⟨hsound, htallied⟩ := hinv
  obtain ⟨queue, unused, hholds⟩ := hsound.holds
  obtain ⟨gaps, stop, hlaid, -, -, hdrops⟩ := hsound.laid
  have hqueue : queue = [] := by
    cases queue with
    | nil => rfl
    | cons b queue => exact absurd (hholds.lists.queue_list.1.symm.trans hhead) (by simp)
  have hqueued : s.queued = [] := by rw [queued_eq hholds hrunning, hqueue, List.map_nil]
  have hprocessed := (htallied hrunning).processed
  have hdropped := (htallied hrunning).dropped
  rw [hhands, hqueued, List.map_nil, List.map_nil, List.sum_nil, add_zero, add_zero] at hprocessed hdropped
  refine ⟨gaps, stop, hlaid, hdrops, hprocessed.trans (newPart_samples hlaid), hdropped.trans ?_⟩
  rw [missed]
  have hsplit : s.drops.map (fun drop => drop.2.setWidth 64) = (s.drops.map Prod.snd).map (BitVec.setWidth 64) := by
    rw [List.map_map]
    rfl
  rw [hsplit, hdrops, List.map_map]
  rfl

/-- One sample is dropped, and the buffer is used twice afterwards. -/
def reusing : List Action :=
  [.callback [7, 0], .deliver 0, .callback [8, 0], .dequeue, .finish, .callback [9, 0], .deliver 0, .dequeue, .finish,
    .callback [10, 0], .deliver 0, .dequeue, .finish]

theorem run_reusing :
    (run (Station.step inPhase fiveTicks) (.create 1 4 2) reusing).toOption.map (fun s =>
      (s.system.fifo.fifo_halted, s.system.fifo.fifo_head, s.system.hands .consumer, s.lost, s.samples_dropped)) =
      some (false, none, [], 1, 2) := by
  decide +kernel

/-- It is counted twice. -/
theorem station_counts_reusing :
    ∃ s, run (Station.step inPhase fiveTicks) (.create 1 4 2) reusing = .ok s ∧ CaughtUp s ∧ s.lost = 1 ∧
      s.samples_dropped = 2 ∧ ∃ gaps stop, Laid inPhase fiveTicks 2 s.arrived s.blocks gaps stop ∧
        s.drops.map Prod.snd = gaps.map (BitVec.ofNat 32) ∧
        s.samples_processed = BitVec.ofNat 64 (newSamples 2 s.blocks) ∧
        s.samples_dropped =
          (gaps.map fun gap => (BitVec.ofNat 32 gap).setWidth 64).sum + stale (fun _ => 0) s.drops := by
  have hfacts := run_reusing
  cases hrun : run (Station.step inPhase fiveTicks) (.create 1 4 2) reusing with
  | error fault =>
    rw [hrun] at hfacts
    cases hfacts
  | ok s =>
    rw [hrun] at hfacts
    simp only [Except.toOption, Option.map_some, Option.some.injEq, Prod.mk.injEq] at hfacts
    obtain ⟨hrunning, hhead, hhands, hlost, hdropped⟩ := hfacts
    have hcaught : CaughtUp s := ⟨hrunning, hhead, hhands⟩
    exact ⟨s, rfl, hcaught, hlost, hdropped, station_counts inPhase fiveTicks (by decide) hrun hcaught⟩

end RbFeeder.Sdr
