import RbFeeder.Sdr.Reader

/-! Where the samples of a block come from.

The blocks are stretches of what has arrived, in its order (`Laid`): each one says where
it starts, and says that it is discontinuous exactly if something is missing in front of
it. What is not in a block and not in the hands of the callback has been dropped. Every
step of either thread keeps this (`Sound.step`), and none can fail (`station_lays`). -/
namespace RbFeeder.Sdr
open Runs

/-! ### The steps that pass buffers around -/

/-- Nothing is written to a buffer, and the callback keeps what it holds. -/
structure Framed {n : Nat} (s s' : System n) : Prop where
  blocks : ∀ b, (s'.fifo.heap b).block = (s.fifo.heap b).block
  producer : s'.hands .producer = s.hands .producer
  enqueued : s'.enqueued = s.enqueued
  halted : s.fifo.fifo_halted = true → s'.fifo.fifo_halted = true

section Framed
variable {n : Nat} {s s' : System n} {queue unused : List (Fin n)}

theorem take_producer (buf : Fin n) : s.take .consumer buf .producer = s.hands .producer :=
  Function.update_of_ne (by decide) ..

theorem drop_producer (buf : Fin n) : s.drop .consumer buf .producer = s.hands .producer :=
  Function.update_of_ne (by decide) ..

theorem Holds.framed_dequeue (h : Holds s queue unused) (hs' : s.step .dequeue = .ok s') : Framed s s' := by
  simp only [System.step] at hs'
  rcases h.lists.dequeue with hnone | ⟨buf, rest, fifo, hrunning, -, hdequeue, -, -, hblock⟩
  · rw [hnone] at hs'
    obtain rfl := Except.ok.inj hs'
    exact ⟨fun _ => rfl, rfl, rfl, id⟩
  · rw [hdequeue] at hs'
    obtain rfl := Except.ok.inj hs'
    exact ⟨hblock, take_producer buf, rfl, fun hhalted => absurd (hrunning.symm.trans hhalted) Bool.false_ne_true⟩

theorem Holds.framed_halt (h : Holds s queue unused) (hs' : s.step .halt = .ok s') : Framed s s' := by
  obtain ⟨fifo, hhalt, rfl⟩ := map_ok.mp hs'
  obtain ⟨fifo', hhalt', -, hhalted, hblock⟩ := h.lists.halt
  obtain rfl := Except.ok.inj (hhalt'.symm.trans hhalt)
  exact ⟨hblock, rfl, rfl, fun _ => hhalted⟩

theorem framed_release {buf : Fin n} (hs' : s.step (.release .consumer buf) = .ok s') : Framed s s' := by
  simp only [System.step] at hs'
  split at hs'
  · obtain rfl := Except.ok.inj hs'
    exact ⟨block_free s.fifo buf, drop_producer buf, rfl, id⟩
  · cases hs'

/-- What the callback does to a buffer is nothing to the main loop. -/
structure Beside (buf : Fin n) (s s' : System n) : Prop where
  consumer : s'.hands .consumer = s.hands .consumer
  dequeued : s'.dequeued = s.dequeued
  blocks : ∀ b ≠ buf, (s'.fifo.heap b).block = (s.fifo.heap b).block

/-- A buffer of a right length is enqueued, or freed when the queue is halted. -/
theorem Holds.enqueue_ok (h : Holds s queue unused) {buf : Fin n} (hbuf : buf ∈ s.hands .producer)
    (hvalid : (s.fifo.heap buf).block.validLength ≤ (s.fifo.heap buf).block.totalLength)
    (hoverlap : s.fifo.overlap_length ≤ (s.fifo.heap buf).block.validLength) :
    ∃ s', s.step (.enqueue buf) = .ok s' ∧ s'.fifo.fifo_halted = s.fifo.fifo_halted ∧
      s'.hands .producer = (s.hands .producer).erase buf ∧
      (∀ b, (s'.fifo.heap b).block.totalLength = (s.fifo.heap b).block.totalLength) ∧ Beside buf s s' := by
  have hstep : s.step (.enqueue buf) = (fifoEnqueue s.fifo buf).map fun fifo =>
      { s with
        fifo := fifo
        hands := s.drop .producer buf
        enqueued := if s.fifo.fifo_halted then s.enqueued
          else s.enqueued ++ [(buf, (fifo.heap buf).block)] } := if_pos hbuf
  have hhands : s.drop .producer buf .producer = (s.hands .producer).erase buf := Function.update_self ..
  have hconsumer : s.drop .producer buf .consumer = s.hands .consumer := Function.update_of_ne (by decide) ..
  rcases h.lists.enqueue (h.notMem hbuf) with hassert | ⟨hhalted, henqueue⟩ |
    ⟨fifo, hrunning, henqueue, -, hrunning', -, hblock, -⟩
  · unfold fifoEnqueue at hassert
    dsimp only at hassert
    rw [if_neg (not_not.mpr ⟨hvalid, hoverlap⟩)] at hassert
    split at hassert
    · cases hassert
    · split at hassert
      · cases hassert
      · split at hassert <;> cases hassert
  · rw [hstep, henqueue]
    exact ⟨_, rfl, rfl, hhands, fun b => congrArg Block.totalLength (block_free s.fifo buf b), hconsumer, rfl,
      fun b _ => block_free s.fifo buf b⟩
  · rw [hstep, henqueue]
    have hpopulated : ∀ b, (fifo.heap b).block = if b = buf then _ else (s.fifo.heap b).block :=
      fun b => (hblock b).trans (block_setBlock s.fifo buf _ b)
    refine ⟨_, rfl, hrunning'.trans hrunning.symm, hhands, fun b => ?_, hconsumer, rfl,
      fun b hb => (hpopulated b).trans (if_neg hb)⟩
    dsimp only
    rw [hpopulated]
    split
    · next hb => rw [hb]; rfl
    · rfl

/-- A block as it is queued: all but its overlap region is what was enqueued. -/
structure Passed (k : Nat) (b b' : Block) : Prop where
  overlap : b'.overlap = b.overlap
  validLength : b'.validLength = b.validLength
  sampleTimestamp : b'.sampleTimestamp = b.sampleTimestamp
  flags : b'.flags = b.flags
  newPart : Sdr.newPart k b' = Sdr.newPart k b

/-- The end of a call: a buffer that is held is filled and enqueued, or freed when the queue is halted. -/
theorem Holds.fill {overlap size : Nat} (h : Holds s queue unused) (hfollows : Follows overlap s)
    (htotal : ∀ b, (s.fifo.heap b).block.totalLength = size) {buf : Fin n} (hbuf : buf ∈ s.hands .producer)
    (filled : Block) (hsize : filled.totalLength = size) (hvalid : filled.validLength ≤ size)
    (hoverlap : overlap ≤ filled.validLength) :
    ∃ s', run System.step s [.write .producer buf filled, .enqueue buf] = .ok s' ∧
      (∃ queue' unused', Holds s' queue' unused') ∧ Follows overlap s' ∧
      (∀ b, (s'.fifo.heap b).block.totalLength = size) ∧ s'.hands .producer = (s.hands .producer).erase buf ∧
      s'.fifo.fifo_halted = s.fifo.fifo_halted ∧ Beside buf s s' ∧
      (s.fifo.fifo_halted = true ∧ s'.enqueued = s.enqueued ∨
        s.fifo.fifo_halted = false ∧ ∃ b, s'.enqueued = s.enqueued ++ [(buf, b)] ∧ Passed overlap filled b) := by
  let written : System n := { s with fifo := s.fifo.setBlock buf filled }
  have hwrite : s.step (.write .producer buf filled) = .ok written := if_pos ⟨hbuf, hsize.trans (htotal buf).symm⟩
  obtain ⟨⟨queue', unused', hwritten⟩, -⟩ := h.of_step hwrite
  have hfollows' := hfollows.step h hwrite
  have hheap : (written.fifo.heap buf).block = filled := by
    show ((s.fifo.setBlock buf filled).heap buf).block = filled
    rw [block_setBlock, if_pos rfl]
  have htotals : ∀ b, (written.fifo.heap b).block.totalLength = size := by
    intro b
    show ((s.fifo.setBlock buf filled).heap b).block.totalLength = size
    rw [block_setBlock]
    split
    · exact hsize
    · exact htotal b
  obtain ⟨s', henqueue, hhalted, hhands, hkept, hbeside⟩ := hwritten.enqueue_ok hbuf
    (by rw [hheap, hsize]; exact hvalid) (by rw [hheap, hfollows'.length]; exact hoverlap)
  have hrun : run System.step s [.write .producer buf filled, .enqueue buf] = .ok s' := by
    rw [run, hwrite]
    dsimp only
    rw [run, henqueue]
    rfl
  refine ⟨s', hrun, (hwritten.of_step henqueue).1, hfollows'.step hwritten henqueue,
    fun b => (hkept b).trans (htotals b), hhands, hhalted,
    ⟨hbeside.consumer, hbeside.dequeued, fun b hb => (hbeside.blocks b hb).trans ?_⟩, ?_⟩
  · show ((s.fifo.setBlock buf filled).heap b).block = _
    rw [block_setBlock, if_neg hb]
  cases hrunning : s.fifo.fifo_halted with
  | true => exact .inl ⟨rfl, (step_enqueue_halted henqueue hrunning).2⟩
  | false =>
    obtain ⟨hvalid', hoverlap', -, -, henqueued⟩ := hwritten.enqueue_eq henqueue hrunning
    rw [hfollows'.populate, hheap] at henqueued
    rw [hheap] at hvalid' hoverlap'
    rw [hfollows'.length] at hoverlap'
    exact .inr ⟨rfl, _, henqueued, rfl, rfl, rfl, rfl, newPart_setData (length_lastSamples ..) hvalid' hoverlap'⟩

end Framed

/-! ### Stretches of what has arrived -/

/-- The blocks are stretches of what has arrived, up to some place, with gaps of these lengths in front of them. -/
inductive Laid (magnitude : Iq → Sample) (clock : BitVec 64 → BitVec 64) (overlap : Nat) (arrived : List Iq) :
    List Block → List Nat → Nat → Prop
  | nil : Laid magnitude clock overlap arrived [] [] 0
  | snoc {blocks : List Block} {gaps : List Nat} {stop gap len : Nat} {b : Block} :
      Laid magnitude clock overlap arrived blocks gaps stop → stop + gap + len ≤ arrived.length →
      b.overlap = overlap → b.validLength = overlap + len →
      newPart overlap b = ((arrived.drop (stop + gap)).take len).map magnitude →
      b.sampleTimestamp = clock (BitVec.ofNat 64 (stop + gap)) →
      (b.discontinuous = true ↔ gap % 2 ^ 32 ≠ 0) →
      Laid magnitude clock overlap arrived (blocks ++ [b]) (gaps ++ [gap]) (stop + gap + len)

/-- More samples arrive behind them. -/
theorem Laid.more {magnitude : Iq → Sample} {clock : BitVec 64 → BitVec 64} {overlap stop : Nat} {arrived : List Iq}
    {blocks : List Block} {gaps : List Nat} (h : Laid magnitude clock overlap arrived blocks gaps stop)
    (iq : List Iq) : Laid magnitude clock overlap (arrived ++ iq) blocks gaps stop := by
  induction h with
  | nil => exact .nil
  | snoc _ hlength hoverlap hvalid hnew hclock hgap ih =>
    refine .snoc ih ?_ hoverlap hvalid ?_ hclock hgap
    · rw [List.length_append]
      omega
    · rw [hnew, List.drop_append_of_le_length (by omega), List.take_append_of_le_length]
      rw [List.length_drop]
      omega

/-! ### A block that is filled -/

section Filled
variable {overlap size : Nat} {b : Block}

theorem length_take_converted {α : Type} (xs : List α) (f : α → Sample) {k : Nat} (h : k ≤ xs.length) :
    ((xs.take k).map f).length = k := by
  rw [List.length_map, List.length_take, Nat.min_eq_left h]

theorem to_convert_le (b : Block) (samples_read : Nat) : Station.to_convert b samples_read ≤ samples_read := by
  unfold Station.to_convert
  split <;> omega

/-- Where a block has room for its overlap, what is converted has room behind it. -/
theorem to_convert_fits (b : Block) (samples_read : Nat) (h : b.overlap ≤ b.totalLength) :
    b.overlap + Station.to_convert b samples_read ≤ b.totalLength := by
  unfold Station.to_convert
  split <;> omega

theorem newPart_append (src : List Sample) (h : b.overlap + src.length ≤ b.totalLength) :
    newPart b.overlap (b.append src) = src := by
  have hlength := b.length_data
  have hdata : (b.append src).data = overwriteAt b.data b.overlap src := rfl
  have hvalid : (b.append src).validLength = b.overlap + src.length := rfl
  have hfront : (b.data.take b.overlap).length = b.overlap := by
    rw [List.length_take]
    omega
  rw [newPart, hdata, hvalid, overwriteAt, List.take_take, Nat.min_eq_left (by omega),
    List.take_left' (by rw [List.length_append, hfront]), List.drop_left' hfront]

end Filled

/-! ### What every step keeps -/

def newSamples (overlap : Nat) (blocks : List Block) : Nat := (blocks.map fun b => (newPart overlap b).length).sum

theorem newSamples_concat (overlap : Nat) (blocks : List Block) (b : Block) :
    newSamples overlap (blocks ++ [b]) = newSamples overlap blocks + (newPart overlap b).length := by
  rw [newSamples, List.map_append, List.sum_append]
  rfl

/-- The blocks that are enqueued, in their order. -/
def Station.blocks {n : Nat} (s : Station n) : List Block := s.system.enqueued.map Prod.snd

structure Sound {n : Nat} (magnitude : Iq → Sample) (clock : BitVec 64 → BitVec 64) (size overlap : Nat)
    (s : Station n) : Prop where
  holds : ∃ queue unused, Holds s.system queue unused
  follows : Follows overlap s.system
  total : ∀ b, (s.system.fifo.heap b).block.totalLength = size
  held : s.system.hands .producer = (s.call.map Prod.fst).toList
  ready : ∀ buf iq, s.call = some (buf, iq) → (s.system.fifo.heap buf).block.overlap = overlap
  counter : ∃ before, s.arrived = before ++ s.pending ∧ s.sampleCounter = BitVec.ofNat 64 before.length
  laid : ∃ gaps stop, Laid magnitude clock overlap s.arrived s.blocks gaps stop ∧
    stop + s.pending.length ≤ s.arrived.length ∧
    (s.system.fifo.fifo_halted = false →
      s.dropped = BitVec.ofNat 32 (s.arrived.length - s.pending.length - stop)) ∧
    s.drops.map Prod.snd = gaps.map (BitVec.ofNat 32)
  counted : newSamples overlap s.blocks + s.lost + s.pending.length = s.arrived.length

section Steps
variable {n size overlap : Nat} {magnitude : Iq → Sample} {clock : BitVec 64 → BitVec 64} {s s' : Station n}

/-- The main loop changes nothing that the callback relies on. -/
theorem Sound.framed (h : Sound magnitude clock size overlap s) (hframed : Framed s.system s'.system)
    {e : Event n} (hstep : s.system.step e = .ok s'.system) (he : ∀ buf, e ≠ .enqueue buf)
    (hcall : s'.call = s.call) (harrived : s'.arrived = s.arrived) (hlost : s'.lost = s.lost)
    (hdropped : s'.dropped = s.dropped) (hcounter : s'.sampleCounter = s.sampleCounter) (hdrops : s'.drops = s.drops) :
    Sound magnitude clock size overlap s' := by
  obtain ⟨queue, unused, hholds⟩ := h.holds
  obtain ⟨hsame, -⟩ := step_sameOverlap he hstep
  have hpending : s'.pending = s.pending := by rw [Station.pending, hcall, Station.pending]
  have hblocks : s'.blocks = s.blocks := by rw [Station.blocks, hframed.enqueued, Station.blocks]
  refine ⟨(hholds.of_step hstep).1, h.follows.of_same hsame hframed.enqueued, fun b => ?_, ?_, fun buf iq hbuf => ?_,
    ?_, ?_, ?_⟩
  · rw [hframed.blocks]
    exact h.total b
  · rw [hframed.producer, hcall]
    exact h.held
  · rw [hframed.blocks]
    exact h.ready buf iq (hcall ▸ hbuf)
  · rw [harrived, hpending, hcounter]
    exact h.counter
  · obtain ⟨gaps, stop, hlaid, hstop, hgap, hsame⟩ := h.laid
    rw [harrived, hpending, hblocks, hdropped, hdrops]
    refine ⟨gaps, stop, hlaid, hstop, fun hrunning => hgap ?_, hsame⟩
    cases hhalted : s.system.fifo.fifo_halted with
    | false => rfl
    | true => exact absurd (hrunning.symm.trans (hframed.halted hhalted)) Bool.false_ne_true
  · rw [harrived, hpending, hblocks, hlost]
    exact h.counted

/-- What happens to the buffer that is acquired. -/
theorem acquire_cases (h : Sound magnitude clock size overlap s) :
    ((fifoAcquire s.system.fifo).1 = none ∧ s.system.step .acquire = .ok s.system) ∨
      ∃ buf system, (fifoAcquire s.system.fifo).1 = some buf ∧ s.system.step .acquire = .ok system ∧
        system.fifo.fifo_halted = s.system.fifo.fifo_halted ∧ system.enqueued = s.system.enqueued ∧
        system.hands .producer = buf :: s.system.hands .producer ∧ Beside buf s.system system ∧
        (system.fifo.heap buf).block.overlap = overlap ∧
        ∀ b, (system.fifo.heap b).block.totalLength = size := by
  cases hhalted : s.system.fifo.fifo_halted with
  | true =>
    have hnone : fifoAcquire s.system.fifo = (none, s.system.fifo) := by simp [fifoAcquire, hhalted]
    refine .inl ⟨by rw [hnone], ?_⟩
    rw [System.step, hnone]
  | false =>
    cases hlist : s.system.fifo.fifo_freelist with
    | none =>
      have hnone : fifoAcquire s.system.fifo = (none, s.system.fifo) := by simp [fifoAcquire, hhalted, hlist]
      refine .inl ⟨by rw [hnone], ?_⟩
      rw [System.step, hnone]
    | some buf =>
      obtain ⟨fifo, hacquire, hhalted', hothers, hoverlap, htotal⟩ : ∃ fifo,
          fifoAcquire s.system.fifo = (some buf, fifo) ∧ fifo.fifo_halted = s.system.fifo.fifo_halted ∧
          (∀ b ≠ buf, (fifo.heap b).block = (s.system.fifo.heap b).block) ∧
          (fifo.heap buf).block.overlap = overlap ∧ ∀ b, (fifo.heap b).block.totalLength = size := by
        unfold fifoAcquire
        rw [hhalted, if_neg Bool.false_ne_true, hlist]
        dsimp only
        refine ⟨_, rfl, rfl, fun b hb => ?_, ?_, fun b => ?_⟩
        · rw [block_setNext, block_setBlock, if_neg hb]
        · rw [block_setNext, block_setBlock, if_pos rfl]
          exact h.follows.length
        · rw [block_setNext, block_setBlock]
          split
          · exact h.total buf
          · exact h.total b
      refine .inr ⟨buf, { s.system with
        fifo := fifo, hands := s.system.take .producer buf, acquired := s.system.acquired ++ [buf] }, ?_, ?_,
        hhalted'.trans hhalted, rfl, ?_, ⟨?_, rfl, hothers⟩, hoverlap, htotal⟩
      · rw [hacquire]
      · rw [System.step, hacquire]
      · show s.system.take .producer buf .producer = _
        exact Function.update_self ..
      · show s.system.take .producer buf .consumer = _
        exact Function.update_of_ne (by decide) ..

theorem Sound.callback (h : Sound magnitude clock size overlap s) (buf : List (BitVec 8)) :
    ∃ s', s.callback buf = .ok s' ∧ Sound magnitude clock size overlap s' := by
  unfold Station.callback
  dsimp only
  generalize iqSamples buf = iq
  split
  · exact ⟨s, rfl, h⟩
  next hgo =>
  have hidle : s.call = none := by
    cases hcall : s.call with
    | none => rfl
    | some call => exact absurd (.inl (by rw [hcall]; rfl)) hgo
  have hpending : s.pending = [] := by rw [Station.pending, hidle]; rfl
  obtain ⟨queue, unused, hholds⟩ := h.holds
  obtain ⟨before, harrived, hcounter⟩ := h.counter
  obtain ⟨gaps, stop, hlaid, hstop, hgap, hdrops⟩ := h.laid
  have hcounted := h.counted
  rw [hpending, List.append_nil] at harrived
  rw [hpending, List.length_nil, Nat.add_zero] at hstop hcounted
  rw [hpending, List.length_nil, Nat.sub_zero] at hgap
  obtain ⟨hnone, hstep⟩ | ⟨outbuf, system, hsome, hstep, hhalted, henqueued, hhands, -, hoverlap, htotal⟩ :=
    acquire_cases h
  · rw [hstep, hnone]
    refine ⟨_, rfl, ⟨h.holds, h.follows, h.total, h.held, h.ready, ⟨before ++ iq, ?_, ?_⟩,
      ⟨gaps, stop, ?_, ?_, ?_, hdrops⟩, ?_⟩⟩
    · rw [Station.pending, hidle, harrived]
      exact (List.append_nil _).symm
    · dsimp only
      rw [hcounter, List.length_append, BitVec.ofNat_add]
    · exact hlaid.more iq
    · rw [Station.pending, hidle, List.length_append]
      show stop + 0 ≤ _
      omega
    · intro hrunning
      dsimp only
      rw [hgap hrunning, Station.pending, hidle, List.length_append, ← BitVec.ofNat_add]
      congr 1
      show _ = s.arrived.length + iq.length - 0 - stop
      omega
    · rw [Station.pending, hidle, List.length_append]
      show newSamples overlap s.blocks + (s.lost + iq.length) + 0 = _
      omega
  · rw [hstep, hsome]
    obtain ⟨hsame, -⟩ := step_sameOverlap (fun _ => by simp) hstep
    refine ⟨_, rfl, ⟨(hholds.of_step hstep).1, h.follows.of_same hsame henqueued, htotal, ?_, ?_, ⟨before, ?_, hcounter⟩,
      ⟨gaps, stop, ?_, ?_, ?_, hdrops⟩, ?_⟩⟩
    · rw [hhands, h.held, hidle]
      rfl
    · intro buf' iq' hcall
      obtain ⟨rfl, -⟩ := Prod.mk.inj (Option.some.inj hcall)
      exact hoverlap
    · rw [← harrived]
      rfl
    · rw [Station.blocks, henqueued]
      exact hlaid.more iq
    · rw [List.length_append]
      show stop + iq.length ≤ _
      omega
    · intro hrunning
      rw [hhalted] at hrunning
      rw [List.length_append]
      show _ = BitVec.ofNat 32 (s.arrived.length + iq.length - iq.length - stop)
      rw [Nat.add_sub_cancel]
      exact hgap hrunning
    · rw [Station.blocks, henqueued, List.length_append]
      show newSamples overlap s.blocks + s.lost + iq.length = _
      omega

variable (s magnitude clock) in
theorem discontinuous_filled (block : Block) (iq : List Iq) (sysTimestamp : BitVec 64) :
    (s.filled magnitude clock block iq sysTimestamp).discontinuous = true ↔ s.dropped ≠ 0 := by
  unfold Station.filled Block.discontinuous
  dsimp only
  split
  · next hdropped => exact iff_of_true (by decide) hdropped
  · next hdropped => exact iff_of_false (by decide) hdropped

variable (s magnitude clock) in
/-- The block of a call. -/
theorem filled_spec {block : Block} {iq : List Iq} {converted : Nat} (hoverlap : block.overlap = overlap)
    (htotal : block.totalLength = size) (hfits : overlap ≤ size)
    (hconverted : Station.to_convert block iq.length = converted) (sysTimestamp : BitVec 64) :
    overlap + converted ≤ size ∧
      (s.filled magnitude clock block iq sysTimestamp).validLength = overlap + converted ∧
      newPart overlap (s.filled magnitude clock block iq sysTimestamp) = (iq.take converted).map magnitude := by
  obtain rfl := hconverted
  have hroom := to_convert_fits block iq.length (by omega)
  have hsrc := length_take_converted iq magnitude (to_convert_le block iq.length)
  refine ⟨by omega, ?_, ?_⟩
  · show block.overlap + ((iq.take (Station.to_convert block iq.length)).map magnitude).length = _
    rw [hsrc, hoverlap]
  · rw [← hoverlap]
    exact newPart_append (b := block) _ (by rw [hsrc]; exact hroom)

/-- What is dropped in front of a block, as the callback counts it. -/
theorem ofNat_ne_zero (k : Nat) : BitVec.ofNat 32 k ≠ 0 ↔ k % 2 ^ 32 ≠ 0 := by
  refine not_congr ⟨fun hzero => ?_, fun hzero => ?_⟩
  · have htoNat := congrArg BitVec.toNat hzero
    rwa [BitVec.toNat_ofNat] at htoNat
  · apply BitVec.eq_of_toNat_eq
    rw [BitVec.toNat_ofNat, hzero]
    rfl

/-- What is enqueued is the next stretch. -/
theorem Sound.deliver (h : Sound magnitude clock size overlap s) (hfits : overlap ≤ size) (sysTimestamp : BitVec 64) :
    ∃ s', s.deliver magnitude clock sysTimestamp = .ok s' ∧ Sound magnitude clock size overlap s' := by
  unfold Station.deliver
  split
  · exact ⟨s, rfl, h⟩
  next outbuf iq hcall =>
  have hpending : s.pending = iq := by rw [Station.pending, hcall]; rfl
  have hheld : s.system.hands .producer = [outbuf] := by rw [h.held, hcall]; rfl
  have hmem : outbuf ∈ s.system.hands .producer := by rw [hheld]; exact List.mem_singleton_self outbuf
  obtain ⟨queue, unused, hholds⟩ := h.holds
  obtain ⟨before, harrived, hcounter⟩ := h.counter
  obtain ⟨gaps, stop, hlaid, hstop, hgap, hdrops⟩ := h.laid
  have hcounted := h.counted
  have hlength : s.arrived.length = before.length + iq.length := by rw [harrived, hpending, List.length_append]
  rw [hpending] at harrived hstop hgap hcounted
  dsimp only
  generalize hconverted : Station.to_convert (s.system.fifo.heap outbuf).block iq.length = converted
  have hle : converted ≤ iq.length := hconverted ▸ to_convert_le _ iq.length
  obtain ⟨hroom, hvalid, hnew⟩ := filled_spec magnitude clock s (h.ready outbuf iq hcall) (h.total outbuf) hfits hconverted sysTimestamp
  obtain ⟨system, hrun, hholds', hfollows, htotal, hhands, hhalted, -, henqueued⟩ := hholds.fill h.follows h.total hmem
    (s.filled magnitude clock (s.system.fifo.heap outbuf).block iq sysTimestamp) (h.total outbuf)
    (hvalid.trans_le hroom) (by rw [hvalid]; exact Nat.le_add_right ..)
  rw [hrun]
  have hidle : system.hands .producer = [] := by rw [hhands, hheld, List.erase_cons_head]
  have hafter : ∃ before', s.arrived = before' ++ [] ∧
      s.sampleCounter + BitVec.ofNat 64 iq.length = BitVec.ofNat 64 before'.length := by
    refine ⟨s.arrived, (List.append_nil _).symm, ?_⟩
    rw [hcounter, hlength, BitVec.ofNat_add]
  refine ⟨_, rfl, ⟨hholds', hfollows, htotal, hidle, (fun _ _ hnone => by cases hnone), hafter, ?_, ?_⟩⟩
  · show ∃ gaps' stop', Laid magnitude clock overlap s.arrived (system.enqueued.map Prod.snd) gaps' stop' ∧
      stop' + 0 ≤ s.arrived.length ∧ (system.fifo.fifo_halted = false →
        BitVec.ofNat 32 (iq.length - converted) = BitVec.ofNat 32 (s.arrived.length - 0 - stop')) ∧
      (if s.system.fifo.fifo_halted then s.drops else s.drops ++ [(outbuf, s.dropped)]).map Prod.snd =
        gaps'.map (BitVec.ofNat 32)
    obtain ⟨hstopped, hsame⟩ | ⟨hrunning, b, happend, hpassed⟩ := henqueued
    · rw [hsame, if_pos hstopped]
      refine ⟨gaps, stop, hlaid, by omega, fun hfalse => ?_, hdrops⟩
      exact absurd (hfalse.symm.trans (hhalted.trans hstopped)) Bool.false_ne_true
    · have hflags := discontinuous_filled magnitude clock s
        (s.system.fifo.heap outbuf).block iq sysTimestamp
      have hdropped := hgap hrunning
      rw [show s.arrived.length - iq.length - stop = before.length - stop by omega] at hdropped
      have hbefore : stop + (before.length - stop) = before.length := by omega
      rw [happend, List.map_append, List.map_singleton, if_neg (by rw [hrunning]; exact Bool.false_ne_true)]
      refine ⟨gaps ++ [before.length - stop], stop + (before.length - stop) + converted,
        .snoc hlaid (by omega) ?_ (hpassed.validLength.trans hvalid) ?_ ?_ ?_, by omega, fun _ => ?_, ?_⟩
      · exact hpassed.overlap.trans (h.ready outbuf iq hcall)
      · rw [hpassed.newPart, hnew, hbefore, harrived, List.drop_left]
      · rw [hpassed.sampleTimestamp, hbefore, ← hcounter]
        rfl
      · have hdiscontinuous : b.discontinuous = true ↔ s.dropped ≠ 0 := by
          rw [← hflags, Block.discontinuous, hpassed.flags, Block.discontinuous]
        rw [hdiscontinuous, hdropped, ofNat_ne_zero]
      · congr 1
        omega
      · rw [List.map_append, List.map_append, hdrops, List.map_singleton, List.map_singleton, hdropped]
  · show newSamples overlap (system.enqueued.map Prod.snd) +
      (s.lost + if s.system.fifo.fifo_halted then iq.length else iq.length - converted) + 0 = s.arrived.length
    obtain ⟨hstopped, hsame⟩ | ⟨hrunning, b, happend, hpassed⟩ := henqueued
    · rw [hsame, if_pos hstopped]
      show newSamples overlap s.blocks + _ + 0 = _
      omega
    · rw [happend, List.map_append, List.map_singleton, newSamples_concat, hpassed.newPart, hnew,
        length_take_converted iq magnitude hle, if_neg (by rw [hrunning]; exact Bool.false_ne_true)]
      show newSamples overlap s.blocks + converted + _ + 0 = _
      omega

theorem Sound.dequeue (h : Sound magnitude clock size overlap s) :
    ∃ s', s.dequeue = .ok s' ∧ Sound magnitude clock size overlap s' := by
  obtain ⟨queue, unused, hholds⟩ := h.holds
  unfold Station.dequeue
  split
  · obtain ⟨system, hstep⟩ : ∃ system, s.system.step .dequeue = .ok system := by
      rcases hholds.dequeue with hnone | ⟨system, -, -, hstep, -⟩
      · exact ⟨_, hnone⟩
      · exact ⟨_, hstep⟩
    rw [hstep]
    exact ⟨_, rfl, h.framed (hholds.framed_dequeue hstep) hstep (fun _ => by simp) rfl rfl rfl rfl rfl rfl⟩
  · exact ⟨s, rfl, h⟩

theorem Sound.finish (h : Sound magnitude clock size overlap s) :
    ∃ s', s.finish = .ok s' ∧ Sound magnitude clock size overlap s' := by
  unfold Station.finish
  split
  · exact ⟨s, rfl, h⟩
  next buf rest hhands =>
  have hstep : s.system.step (.release .consumer buf) = .ok { s.system with
      fifo := fifoRelease s.system.fifo buf, hands := s.system.drop .consumer buf } :=
    if_pos (by rw [hhands]; exact List.mem_cons_self)
  dsimp only
  rw [hstep]
  exact ⟨_, rfl, h.framed (framed_release hstep) hstep (fun _ => by simp) rfl rfl rfl rfl rfl rfl⟩

/-- **One step**, of either thread. -/
theorem Sound.step (h : Sound magnitude clock size overlap s) (hfits : overlap ≤ size) (a : Action) :
    ∃ s', s.step magnitude clock a = .ok s' ∧ Sound magnitude clock size overlap s' := by
  cases a with
  | callback buf => exact h.callback buf
  | deliver sysTimestamp => exact h.deliver hfits sysTimestamp
  | dequeue => exact h.dequeue
  | finish => exact h.finish
  | halt =>
    obtain ⟨queue, unused, hholds⟩ := h.holds
    obtain ⟨system, hstep, -⟩ := hholds.halt
    rw [Station.step, hstep]
    exact ⟨_, rfl, h.framed (hholds.framed_halt hstep) hstep (fun _ => by simp) rfl rfl rfl rfl rfl rfl⟩
  | exit =>
    exact ⟨_, rfl, ⟨h.holds, h.follows, h.total, h.held, h.ready, h.counter, h.laid, h.counted⟩⟩

end Steps

theorem block_foldl_free {n : Nat} (bufs : List (Fin n)) (s : Fifo n) (b : Fin n) :
    ((bufs.foldl Fifo.free s).heap b).block = (s.heap b).block := by
  induction bufs generalizing s with
  | nil => rfl
  | cons buf bufs ih => exact (ih (s.free buf)).trans (block_free s buf b)

theorem total_create (buffer_count buffer_size overlap : Nat) (b : Fin buffer_count) :
    ((System.create buffer_count buffer_size overlap).fifo.heap b).block.totalLength = buffer_size :=
  congrArg Block.totalLength (block_foldl_free (List.finRange buffer_count) _ b)

theorem sound_create (magnitude : Iq → Sample) (clock : BitVec 64 → BitVec 64) (buffer_count buffer_size overlap : Nat) :
    Sound magnitude clock buffer_size overlap (Station.create buffer_count buffer_size overlap) where
  holds := ⟨_, _, holds_create buffer_count buffer_size overlap⟩
  follows := follows_create buffer_count buffer_size overlap
  total := total_create buffer_count buffer_size overlap
  held := rfl
  ready _ _ h := by cases h
  counter := ⟨[], rfl, rfl⟩
  laid := ⟨[], 0, .nil, Nat.le_refl 0, fun _ => rfl, rfl⟩
  counted := rfl

/-- **Main theorem.** Whatever the order of the steps, nothing fails: no `assert`, no write beyond a buffer. The
blocks are stretches of what has arrived, each with its time and flagged if samples are missing in front of it, their
number being what is counted as dropped there; and each sample that has arrived is in a block, in the hands of the
callback, or lost. -/
theorem station_lays (magnitude : Iq → Sample) (clock : BitVec 64 → BitVec 64) (buffer_count : Nat)
    {buffer_size overlap : Nat} (hfits : overlap ≤ buffer_size) (actions : List Action) :
    ∃ s, run (Station.step magnitude clock) (.create buffer_count buffer_size overlap) actions = .ok s ∧
      (∃ gaps stop, Laid magnitude clock overlap s.arrived s.blocks gaps stop ∧
        stop + s.pending.length ≤ s.arrived.length ∧ s.drops.map Prod.snd = gaps.map (BitVec.ofNat 32)) ∧
      newSamples overlap s.blocks + s.lost + s.pending.length = s.arrived.length := by
  obtain ⟨s, hrun, h⟩ := run_total (fun s a hs => Sound.step hs hfits a)
    (sound_create magnitude clock buffer_count buffer_size overlap) actions
  obtain ⟨gaps, stop, hlaid, hstop, -, hdrops⟩ := h.laid
  exact ⟨s, hrun, ⟨gaps, stop, hlaid, hstop, hdrops⟩, h.counted⟩

def inPhase (iq : Iq) : Sample := iq.1.setWidth 16

def fiveTicks (sampleCounter : BitVec 64) : BitVec 64 := 5 * sampleCounter

/-- A sample is dropped while the only buffer is queued. -/
theorem station_lays_dropped :
    ∃ s, run (Station.step inPhase fiveTicks) (.create 1 4 2)
        [.callback [7, 0], .deliver 0, .callback [8, 0], .dequeue, .finish, .callback [9, 0], .deliver 0] = .ok s ∧
      (∃ gaps stop, Laid inPhase fiveTicks 2 s.arrived s.blocks gaps stop ∧
        stop + s.pending.length ≤ s.arrived.length ∧ s.drops.map Prod.snd = gaps.map (BitVec.ofNat 32)) ∧
      newSamples 2 s.blocks + s.lost + s.pending.length = s.arrived.length :=
  station_lays inPhase fiveTicks 1 (by decide) _

/-! ### When nothing is lost -/

/-- The samples that have arrived, as the queue sees them: there are zeros in front. -/
def padded (magnitude : Iq → Sample) (overlap : Nat) (arrived : List Iq) : List Sample :=
  List.replicate overlap 0 ++ arrived.map magnitude

/-- A block that carries what has arrived from `base` on, with the overlap in front of it. -/
structure Stretch (magnitude : Iq → Sample) (clock : BitVec 64 → BitVec 64) (k : Nat) (arrived : List Iq)
    (base : Nat) (b : Block) : Prop where
  overlap : b.overlap = k
  valid : k ≤ b.validLength
  continuous : b.discontinuous = false
  sampleTimestamp : b.sampleTimestamp = clock (BitVec.ofNat 64 base)
  within : base + (b.validLength - k) ≤ arrived.length
  samples : newPart k b = ((arrived.drop base).take (b.validLength - k)).map magnitude

section Stretches
variable {magnitude : Iq → Sample} {clock : BitVec 64 → BitVec 64} {overlap stop base : Nat} {arrived : List Iq}
  {blocks : List Block} {b : Block}

theorem Stretch.length_newPart (h : Stretch magnitude clock overlap arrived base b) :
    (newPart overlap b).length = b.validLength - overlap := by
  rw [h.samples]
  refine length_take_converted _ magnitude ?_
  rw [List.length_drop]
  have hwithin := h.within
  omega

/-- Each block starts where the one before ends. -/
def Contiguous (magnitude : Iq → Sample) (clock : BitVec 64 → BitVec 64) (overlap : Nat) (arrived : List Iq)
    (blocks : List Block) : Prop :=
  ∀ history b later, blocks = history ++ b :: later →
    Stretch magnitude clock overlap arrived (newSamples overlap history) b

theorem Contiguous.concat (h : Contiguous magnitude clock overlap arrived blocks)
    (hb : Stretch magnitude clock overlap arrived (newSamples overlap blocks) b) :
    Contiguous magnitude clock overlap arrived (blocks ++ [b]) := by
  intro history b' later hsplit
  rcases List.eq_nil_or_concat later with rfl | ⟨later, last, rfl⟩
  · obtain ⟨rfl, hlast⟩ := List.append_inj' hsplit rfl
    obtain rfl := List.singleton_inj.mp hlast
    exact hb
  · rw [List.concat_eq_append, ← List.cons_append, ← List.append_assoc] at hsplit
    exact h history b' later (List.append_inj' hsplit rfl).1

/-- There is nothing else in the blocks; and where nothing is missing between them, they are contiguous. -/
theorem Laid.contiguous {gaps : List Nat} (h : Laid magnitude clock overlap arrived blocks gaps stop) :
    newSamples overlap blocks + gaps.sum = stop ∧
      (stop ≤ newSamples overlap blocks → Contiguous magnitude clock overlap arrived blocks) := by
  induction h with
  | nil => exact ⟨rfl, fun _ history b later hsplit => absurd hsplit (by simp)⟩
  | @snoc blocks gaps stop gap len b hlaid hlength hoverlap hvalid hnew hclock hgap ih =>
    obtain ⟨hsum, hcontiguous⟩ := ih
    have hlen : (newPart overlap b).length = len := by
      rw [hnew]
      refine length_take_converted _ magnitude ?_
      rw [List.length_drop]
      omega
    rw [newSamples_concat, hlen, List.sum_append, List.sum_singleton]
    refine ⟨by omega, fun hwhole => ?_⟩
    obtain rfl : gap = 0 := by omega
    obtain rfl : stop = newSamples overlap blocks := by omega
    rw [Nat.add_zero] at hlength hnew hclock
    have hsize : b.validLength - overlap = len := by omega
    refine (hcontiguous (Nat.le_refl _)).concat ⟨hoverlap, by omega, ?_, hclock, by omega, by rw [hsize]; exact hnew⟩
    rw [← Bool.not_eq_true, hgap]
    exact fun hne => hne rfl

/-- The stream of the queue is what has arrived. -/
theorem Contiguous.stream (h : Contiguous magnitude clock overlap arrived blocks) :
    newSamples overlap blocks ≤ arrived.length ∧
      streamOf overlap blocks = (arrived.take (newSamples overlap blocks)).map magnitude := by
  induction blocks using List.reverseRecOn with
  | nil => exact ⟨Nat.zero_le _, rfl⟩
  | append_singleton blocks b ih =>
    have hfront : Contiguous magnitude clock overlap arrived blocks := by
      intro history b' later hsplit
      exact h history b' (later ++ [b]) (by rw [hsplit, List.append_assoc, List.cons_append])
    have hb := h blocks b [] rfl
    obtain ⟨-, hstream⟩ := ih hfront
    rw [newSamples_concat, hb.length_newPart, streamOf_concat, continued, hb.continuous, if_neg Bool.false_ne_true,
      hstream, hb.samples, ← List.map_append, List.take_add]
    exact ⟨hb.within, rfl⟩

/-- The valid samples of a block, when the ones in front of it are the end of the stream. -/
theorem Stretch.valid_samples (h : Stretch magnitude clock overlap arrived base b)
    (hfront : b.data.take overlap = lastSamples overlap ((arrived.take base).map magnitude)) :
    b.data.take b.validLength = ((padded magnitude overlap arrived).drop base).take b.validLength := by
  have hwithin := h.within
  have hvalid := h.valid
  have hbase : ((arrived.take base).map magnitude).length = base := length_take_converted arrived magnitude (by omega)
  have hsplit : b.data.take b.validLength = b.data.take overlap ++ newPart overlap b := by
    have happend := List.take_append_drop overlap (b.data.take b.validLength)
    rw [List.take_take, Nat.min_eq_left hvalid] at happend
    exact happend.symm
  have hpadded : padded magnitude overlap arrived =
      List.replicate overlap 0 ++ (arrived.take base).map magnitude ++ (arrived.drop base).map magnitude := by
    rw [padded, List.append_assoc, ← List.map_append, List.take_append_drop]
  have hlast : (lastSamples overlap ((arrived.take base).map magnitude)).length = overlap := length_lastSamples ..
  rw [hsplit, hfront, h.samples, hpadded, List.drop_append_of_le_length (by rw [List.length_append, hbase]; omega)]
  have hdrop : (List.replicate overlap 0 ++ (arrived.take base).map magnitude).drop base =
      lastSamples overlap ((arrived.take base).map magnitude) := by rw [lastSamples, hbase]
  have hall : (lastSamples overlap ((arrived.take base).map magnitude)).take b.validLength = _ :=
    List.take_of_length_le (hlast.trans_le hvalid)
  rw [hdrop, List.take_append, hlast, hall]
  exact congrArg _ List.map_take

end Stretches

end RbFeeder.Sdr
