import RbFeeder.Sdr.FifoProofs

/-! The overlap between consecutive blocks.

Each block begins with the last samples of the stream before it, so that a message
across the border can be decoded. The queue saves the tail of each block it is given
and writes it to the front of the next; a block shorter than twice the overlap saves
part of its own front with it. `Follows` ties the saved samples to the stream, and
`overlap_is_stream` says what the front of every block is. -/
namespace RbFeeder.Sdr
open Runs

/-! ### The stream -/

/-- The samples that a block adds to the stream. -/
def newPart (overlap : Nat) (b : Block) : List Sample := (b.data.take b.validLength).drop overlap

/-- The stream that a block continues: none, if it is discontinuous. -/
def continued (stream : List Sample) (b : Block) : List Sample :=
  if b.discontinuous then [] else stream

/-- The stream after these blocks: the new parts since the last discontinuous one. -/
def streamOf (overlap : Nat) (blocks : List Block) : List Sample :=
  blocks.foldl (fun stream b => continued stream b ++ newPart overlap b) []

/-- The last `k` samples of a stream that is preceded by zeros. -/
def lastSamples (k : Nat) (stream : List Sample) : List Sample :=
  (List.replicate k 0 ++ stream).drop stream.length

@[simp] theorem length_lastSamples (k : Nat) (stream : List Sample) :
    (lastSamples k stream).length = k := by
  simp [lastSamples]

@[simp] theorem lastSamples_nil (k : Nat) : lastSamples k [] = List.replicate k 0 := by
  simp [lastSamples]

theorem lastSamples_append (k : Nat) (stream new : List Sample) :
    lastSamples k (stream ++ new) = (lastSamples k stream ++ new).drop new.length := by
  have hle : stream.length ≤ (List.replicate k (0 : Sample) ++ stream).length := by simp
  rw [lastSamples, List.length_append, ← List.drop_drop, ← List.append_assoc,
    List.drop_append_of_le_length hle]
  rfl

theorem streamOf_concat (overlap : Nat) (blocks : List Block) (b : Block) :
    streamOf overlap (blocks ++ [b]) =
      continued (streamOf overlap blocks) b ++ newPart overlap b := by
  rw [streamOf, List.foldl_append]
  rfl

/-! ### Populating the overlap region -/

theorem overwrite_eq {data src : List Sample} (h : src.length ≤ data.length) :
    overwrite data src = src ++ data.drop src.length := by
  rw [overwrite]
  apply List.take_of_length_le
  simp
  omega

section Populate
variable {overlap : Nat} {b : Block} {src : List Sample} (hsrc : src.length = overlap)
  (hvalid : b.validLength ≤ b.totalLength) (hoverlap : overlap ≤ b.validLength)
include hsrc hvalid hoverlap

theorem data_setData : (b.setData src).data = src ++ b.data.drop overlap := by
  have hlength := b.length_data
  have hdata : (b.setData src).data = overwrite b.data src := rfl
  rw [hdata, overwrite_eq (by omega), hsrc]

theorem take_setData : (b.setData src).data.take overlap = src := by
  rw [data_setData hsrc hvalid hoverlap, ← hsrc, List.take_left]

/-- The valid samples are the overlap region and the new part. -/
theorem valid_setData : (b.setData src).data.take b.validLength = src ++ newPart overlap b := by
  rw [data_setData hsrc hvalid hoverlap, List.take_append, hsrc, newPart, List.drop_take,
    List.take_of_length_le (by omega)]

theorem newPart_setData : newPart overlap (b.setData src) = newPart overlap b := by
  have hlength : (b.setData src).validLength = b.validLength := rfl
  rw [newPart, hlength, valid_setData hsrc hvalid hoverlap, ← hsrc, List.drop_left]

/-- The tail that is saved. -/
theorem tail_setData :
    ((b.setData src).data.drop (b.validLength - overlap)).take overlap =
      (src ++ newPart overlap b).drop (newPart overlap b).length := by
  have hlength := b.length_data
  have hnew : (newPart overlap b).length = b.validLength - overlap := by
    simp [newPart]
    omega
  rw [← valid_setData hsrc hvalid hoverlap, hnew, List.drop_take]
  congr 1
  omega

end Populate

/-! ### Runs -/

/-- The saved samples are the last of the stream, and every block enqueued so far
begins with the last of the stream before it. -/
structure Follows {n : Nat} (overlap : Nat) (s : System n) : Prop where
  length : s.fifo.overlap_length = overlap
  saved : s.fifo.overlap_buffer = lastSamples overlap (streamOf overlap (s.enqueued.map Prod.snd))
  fronts : ∀ history b block later, s.enqueued = history ++ (b, block) :: later →
    block.data.take overlap =
      lastSamples overlap (continued (streamOf overlap (history.map Prod.snd)) block)

section Steps
variable {n overlap : Nat} {s s' : System n} {queue unused : List (Fin n)}

/-- The variables of the overlap are the same. -/
def SameOverlap (fifo fifo' : Fifo n) : Prop :=
  fifo'.overlap_length = fifo.overlap_length ∧ fifo'.overlap_buffer = fifo.overlap_buffer

theorem fifoAcquire_sameOverlap (fifo : Fifo n) : SameOverlap fifo (fifoAcquire fifo).2 := by
  unfold fifoAcquire
  split
  · exact ⟨rfl, rfl⟩
  · split <;> exact ⟨rfl, rfl⟩

theorem fifoDequeue_sameOverlap (fifo : Fifo n) : SameOverlap fifo (fifoDequeue fifo).2 := by
  unfold fifoDequeue
  split
  · exact ⟨rfl, rfl⟩
  · split
    · exact ⟨rfl, rfl⟩
    · dsimp only
      split <;> exact ⟨rfl, rfl⟩

theorem drainToFreelist_sameOverlap (steps : Nat) {fifo fifo' : Fifo n}
    (h : drainToFreelist steps fifo = .ok fifo') : SameOverlap fifo fifo' := by
  induction steps generalizing fifo with
  | zero =>
    unfold drainToFreelist at h
    split at h
    · obtain rfl := Except.ok.inj h
      exact ⟨rfl, rfl⟩
    · exact absurd h (by simp)
  | succ steps ih =>
    unfold drainToFreelist at h
    split at h
    · obtain rfl := Except.ok.inj h
      exact ⟨rfl, rfl⟩
    · have hdrain : drainToFreelist steps _ = .ok fifo' := h
      exact ⟨(ih hdrain).1, (ih hdrain).2⟩

theorem fifoHalt_sameOverlap {fifo fifo' : Fifo n} (h : fifoHalt fifo = .ok fifo') :
    SameOverlap fifo fifo' := by
  obtain ⟨drained, hdrain, rfl⟩ := map_ok.mp h
  have hsame := drainToFreelist_sameOverlap n hdrain
  exact ⟨hsame.1, hsame.2⟩

/-- Only enqueueing saves a tail. -/
theorem step_sameOverlap {e : Event n} (he : ∀ buf, e ≠ .enqueue buf) (h : s.step e = .ok s') :
    SameOverlap s.fifo s'.fifo ∧ s'.enqueued = s.enqueued := by
  cases e with
  | acquire =>
    have hsame := fifoAcquire_sameOverlap s.fifo
    simp only [System.step] at h
    split at h
    all_goals
      next hacquire =>
      rw [hacquire] at hsame
      obtain rfl := Except.ok.inj h
      exact ⟨hsame, rfl⟩
  | write party buf block =>
    simp only [System.step] at h
    split at h
    · obtain rfl := Except.ok.inj h
      exact ⟨⟨rfl, rfl⟩, rfl⟩
    · exact absurd h (by simp)
  | enqueue buf => exact absurd rfl (he buf)
  | dequeue =>
    have hsame := fifoDequeue_sameOverlap s.fifo
    simp only [System.step] at h
    split at h
    all_goals
      next hdequeue =>
      rw [hdequeue] at hsame
      obtain rfl := Except.ok.inj h
      exact ⟨hsame, rfl⟩
  | release party buf =>
    simp only [System.step] at h
    split at h
    · obtain rfl := Except.ok.inj h
      exact ⟨⟨rfl, rfl⟩, rfl⟩
    · exact absurd h (by simp)
  | halt =>
    obtain ⟨fifo, hhalt, rfl⟩ := map_ok.mp h
    exact ⟨fifoHalt_sameOverlap hhalt, rfl⟩

/-- A halted queue saves no tail. -/
theorem step_enqueue_halted {buf : Fin n} (h : s.step (.enqueue buf) = .ok s')
    (hhalted : s.fifo.fifo_halted = true) : SameOverlap s.fifo s'.fifo ∧ s'.enqueued = s.enqueued := by
  by_cases hbuf : buf ∈ s.hands .producer
  · obtain ⟨fifo, henqueue, rfl⟩ := map_ok.mp ((if_pos hbuf).symm.trans h)
    unfold fifoEnqueue at henqueue
    rw [if_pos hhalted] at henqueue
    dsimp only at henqueue
    split at henqueue
    · exact absurd henqueue (by simp)
    · obtain rfl := Except.ok.inj henqueue
      exact ⟨⟨rfl, rfl⟩, if_pos hhalted⟩
  · exact absurd ((if_neg hbuf).symm.trans h) (by simp)

/-- What enqueueing adds to the log, and what it leaves in the saved samples. -/
theorem Holds.enqueue_eq (h : Holds s queue unused) {buf : Fin n} (hs' : s.step (.enqueue buf) = .ok s')
    (hrunning : s.fifo.fifo_halted = false) :
    (s.fifo.heap buf).block.validLength ≤ (s.fifo.heap buf).block.totalLength ∧
      s.fifo.overlap_length ≤ (s.fifo.heap buf).block.validLength ∧
      s'.fifo.overlap_length = s.fifo.overlap_length ∧
      s'.fifo.overlap_buffer = (populateOverlap s.fifo buf).overlap_buffer ∧
      s'.enqueued = s.enqueued ++ [(buf, ((populateOverlap s.fifo buf).heap buf).block)] := by
  by_cases hbuf : buf ∈ s.hands .producer
  · have hstep := (if_pos hbuf).symm.trans hs'
    obtain ⟨fifo, henqueue, rfl⟩ := map_ok.mp hstep
    rcases h.lists.enqueue (h.notMem hbuf) with hassert | ⟨hhalted, -⟩ |
      ⟨fifo', -, henqueue', -, -, ⟨hvalid, hoverlap⟩, hblock, hlength, hbuffer⟩
    · exact absurd (hassert.symm.trans henqueue) (by simp)
    · exact absurd (hrunning.symm.trans hhalted) Bool.false_ne_true
    · obtain rfl := Except.ok.inj (henqueue'.symm.trans henqueue)
      refine ⟨hvalid, hoverlap, hlength, hbuffer, ?_⟩
      rw [← hblock]
      exact if_neg (by rw [hrunning]; exact Bool.false_ne_true)
  · have hmisuse := (if_neg hbuf).symm.trans hs'
    exact absurd hmisuse (by simp)

end Steps

section Follows
variable {n overlap : Nat} {s s' : System n} {queue unused : List (Fin n)}

theorem Follows.of_same (h : Follows overlap s) (hsame : SameOverlap s.fifo s'.fifo)
    (henqueued : s'.enqueued = s.enqueued) : Follows overlap s' where
  length := hsame.1.trans h.length
  saved := by rw [hsame.2, henqueued, h.saved]
  fronts := by
    rw [henqueued]
    exact h.fronts

/-- The block as it is queued: the front is filled in, and nothing else is changed. -/
theorem Follows.populate (h : Follows overlap s) {buf : Fin n} :
    ((populateOverlap s.fifo buf).heap buf).block = (s.fifo.heap buf).block.setData
      (lastSamples overlap (continued (streamOf overlap (s.enqueued.map Prod.snd))
        (s.fifo.heap buf).block)) := by
  have hblock := block_setBlock s.fifo buf ((s.fifo.heap buf).block.setData
    (if (s.fifo.heap buf).block.discontinuous then List.replicate s.fifo.overlap_length 0
      else s.fifo.overlap_buffer.take s.fifo.overlap_length)) buf
  rw [if_pos rfl] at hblock
  refine hblock.trans ?_
  congr 1
  rw [continued, h.length, h.saved]
  split
  · rw [lastSamples_nil]
  · exact List.take_of_length_le (length_lastSamples ..).le

theorem populateOverlap_buffer (fifo : Fifo n) (buf : Fin n) :
    (populateOverlap fifo buf).overlap_buffer =
      ((((populateOverlap fifo buf).heap buf).block.data.drop
        (((populateOverlap fifo buf).heap buf).block.validLength - fifo.overlap_length)).take
          fifo.overlap_length) := by
  have hblock := block_setBlock fifo buf ((fifo.heap buf).block.setData
    (if (fifo.heap buf).block.discontinuous then List.replicate fifo.overlap_length 0
      else fifo.overlap_buffer.take fifo.overlap_length)) buf
  rw [if_pos rfl] at hblock
  have hpopulated : ((populateOverlap fifo buf).heap buf).block = _ := hblock
  rw [hpopulated]
  rfl

theorem Follows.enqueue (h : Follows overlap s) (hholds : Holds s queue unused) {buf : Fin n}
    (hs' : s.step (.enqueue buf) = .ok s') (hrunning : s.fifo.fifo_halted = false) :
    Follows overlap s' ∧ ∃ block, s'.enqueued = s.enqueued ++ [(buf, block)] ∧
      newPart overlap block = newPart overlap (s.fifo.heap buf).block ∧
      block.flags = (s.fifo.heap buf).block.flags := by
  obtain ⟨hvalid, hoverlap, hlength, hbuffer, henqueued⟩ := hholds.enqueue_eq hs' hrunning
  rw [h.populate] at henqueued
  rw [h.length] at hoverlap
  have hsrc := length_lastSamples overlap (continued (streamOf overlap (s.enqueued.map Prod.snd))
    (s.fifo.heap buf).block)
  have hnew := newPart_setData hsrc hvalid hoverlap
  refine ⟨⟨hlength.trans h.length, ?_, ?_⟩, _, henqueued, hnew, rfl⟩
  · rw [hbuffer, populateOverlap_buffer, h.populate, h.length, henqueued, List.map_append,
      List.map_singleton, streamOf_concat, lastSamples_append, hnew]
    exact tail_setData hsrc hvalid hoverlap
  · intro history b block later hsplit
    rw [henqueued] at hsplit
    rcases List.eq_nil_or_concat later with rfl | ⟨later, last, rfl⟩
    · obtain ⟨hhistory, hlast⟩ := List.append_inj' hsplit rfl
      obtain rfl := (Prod.mk.inj (List.singleton_inj.mp hlast)).2
      rw [← hhistory]
      exact take_setData hsrc hvalid hoverlap
    · rw [List.concat_eq_append, ← List.cons_append, ← List.append_assoc] at hsplit
      exact h.fronts history b block later (List.append_inj' hsplit rfl).1

theorem Follows.step (h : Follows overlap s) (hholds : Holds s queue unused) {e : Event n}
    (hs' : s.step e = .ok s') : Follows overlap s' := by
  by_cases henqueue : ∃ buf, e = .enqueue buf
  · obtain ⟨buf, rfl⟩ := henqueue
    cases hhalted : s.fifo.fifo_halted with
    | false => exact (h.enqueue hholds hs' hhalted).1
    | true =>
      obtain ⟨hsame, henqueued⟩ := step_enqueue_halted hs' hhalted
      exact h.of_same hsame henqueued
  · obtain ⟨hsame, henqueued⟩ := step_sameOverlap (fun buf he => henqueue ⟨buf, he⟩) hs'
    exact h.of_same hsame henqueued

theorem follows_create (buffer_count buffer_size overlap : Nat) :
    Follows overlap (System.create buffer_count buffer_size overlap) where
  length := (lists_create buffer_count buffer_size overlap).2.2.1
  saved := by
    rw [show (System.create buffer_count buffer_size overlap).fifo.overlap_buffer =
      List.replicate overlap 0 from (lists_create buffer_count buffer_size overlap).2.2.2]
    exact (lastSamples_nil overlap).symm
  fronts history b block later h := absurd h.symm (by simp [System.create])

end Follows

/-- **The front of every block is the end of the stream before it**, whatever the
threads do and however short the blocks are. The new part of a block is enqueued as
the producer wrote it. -/
theorem overlap_is_stream (buffer_count buffer_size overlap : Nat) (events : List (Event buffer_count)) :
    ∀ s, run System.step (.create buffer_count buffer_size overlap) events = .ok s →
      (∀ history b block later, s.enqueued = history ++ (b, block) :: later →
        block.data.take overlap =
          lastSamples overlap (continued (streamOf overlap (history.map Prod.snd)) block)) ∧
      ∀ buf s', s.step (.enqueue buf) = .ok s' → s.fifo.fifo_halted = false →
        ∃ block, s'.enqueued = s.enqueued ++ [(buf, block)] ∧
          newPart overlap block = newPart overlap (s.fifo.heap buf).block ∧
          block.flags = (s.fifo.heap buf).block.flags := by
  intro s hs
  have hinv : (∃ queue unused, Holds s queue unused) ∧ Follows overlap s := by
    refine run_invariant (I := fun s : System buffer_count =>
      (∃ queue unused, Holds s queue unused) ∧ Follows overlap s) ?_ ?_ hs
    · intro s e s' h hs'
      obtain ⟨⟨queue, unused, hholds⟩, h⟩ := h
      exact ⟨(hholds.of_step hs').1, h.step hholds hs'⟩
    · exact ⟨⟨_, _, holds_create buffer_count buffer_size overlap⟩,
        follows_create buffer_count buffer_size overlap⟩
  obtain ⟨⟨queue, unused, hholds⟩, h⟩ := hinv
  exact ⟨h.fronts, fun buf s' hs' hrunning => (h.enqueue hholds hs' hrunning).2⟩

theorem length_shortBlock (x : Sample) : [0, 0, x, 0].length = 4 := rfl

/-- A block with one new sample, which is shorter than the overlap. -/
def shortBlock (x : Sample) (flags : BitVec 32) : Block :=
  ⟨[0, 0, x, 0], 4, 3, 2, 0, 0, flags, length_shortBlock x⟩

/-- Three of them, the last one after a gap. -/
theorem overlap_is_stream_short :
    ∃ s, run System.step (.create 4 4 2)
        [.acquire, .write .producer 3 (shortBlock 5 0), .enqueue 3, .acquire, .write .producer 2 (shortBlock 6 0), .enqueue 2,
          .acquire, .write .producer 1 (shortBlock 7 1), .enqueue 1] = .ok s ∧
      (s.enqueued.map fun e => e.2.data) = [[0, 0, 5, 0], [0, 5, 6, 0], [0, 0, 7, 0]] ∧
      ∀ history b block later, s.enqueued = history ++ (b, block) :: later →
        block.data.take 2 = lastSamples 2 (continued (streamOf 2 (history.map Prod.snd)) block) := by
  obtain ⟨s, hs, henqueued⟩ : ∃ s, run System.step (.create 4 4 2)
      [.acquire, .write .producer 3 (shortBlock 5 0), .enqueue 3, .acquire, .write .producer 2 (shortBlock 6 0), .enqueue 2,
        .acquire, .write .producer 1 (shortBlock 7 1), .enqueue 1] = .ok s ∧
      (s.enqueued.map fun e => e.2.data) = [[0, 0, 5, 0], [0, 5, 6, 0], [0, 0, 7, 0]] := by
    refine ⟨_, rfl, ?_⟩
    rfl
  exact ⟨s, hs, henqueued, (overlap_is_stream 4 4 2 _ s hs).1⟩

end RbFeeder.Sdr
