import RbFeeder.Sdr.Fifo
import RbFeeder.Lib.LinkedList

/-! Whose buffer is whose.

At every moment the queue and the freelist are two lists through the buffers
(`Lists`), and each buffer is in one of them or in the hands of one of the threads
(`Owned`). From this and the order of the queue (`Holds`), which every step keeps
(`Holds.step`), follows what the queue is for (`fifo_conserves`): no buffer is lost
or handed out twice, and the consumer gets the blocks that were enqueued, in their
order, until the queue is halted. -/
namespace RbFeeder.Sdr
open LinkedList Runs

/-! ### Writes to a buffer -/

section Writes
variable {n : Nat} (s : Fifo n) (b : Fin n) (z : Option (Fin n)) (block : Block)

@[simp] theorem next_setNext : (s.setNext b z).next = Function.update s.next b z := by
  funext c
  by_cases h : c = b
  · subst h
    simp [Fifo.next, Fifo.setNext]
  · simp [Fifo.next, Fifo.setNext, h]

@[simp] theorem next_setBlock : (s.setBlock b block).next = s.next := by
  funext c
  by_cases h : c = b
  · subst h
    simp [Fifo.next, Fifo.setBlock]
  · simp [Fifo.next, Fifo.setBlock, h]

@[simp] theorem block_setNext (c : Fin n) : ((s.setNext b z).heap c).block = (s.heap c).block := by
  by_cases h : c = b
  · subst h
    simp [Fifo.setNext]
  · simp [Fifo.setNext, h]

theorem block_setBlock (c : Fin n) :
    ((s.setBlock b block).heap c).block = if c = b then block else (s.heap c).block := by
  by_cases h : c = b
  · subst h
    simp [Fifo.setBlock]
  · simp [Fifo.setBlock, h]

@[simp] theorem block_free (c : Fin n) : ((s.free b).heap c).block = (s.heap c).block :=
  block_setNext s b s.fifo_freelist c

end Writes

/-! ### The two lists -/

/-- The queue and the freelist are these buffers, all different. -/
structure Lists {n : Nat} (s : Fifo n) (queue unused : List (Fin n)) : Prop where
  queue_list : IsList s.next s.fifo_head queue
  free_list : IsList s.next s.fifo_freelist unused
  tail : s.fifo_tail = queue.getLast?
  nodup : (queue ++ unused).Nodup

section Lists
variable {n : Nat} {s : Fifo n} {queue unused : List (Fin n)} {buf : Fin n}

theorem Lists.free (h : Lists s queue unused) (hbuf : buf ∉ queue ++ unused) :
    Lists (s.free buf) queue (buf :: unused) where
  queue_list := by
    change IsList (s.setNext buf s.fifo_freelist).next s.fifo_head queue
    rw [next_setNext]
    exact h.queue_list.update fun hmem => hbuf (List.mem_append_left unused hmem)
  free_list := by
    change IsList (s.setNext buf s.fifo_freelist).next (some buf) (buf :: unused)
    rw [next_setNext]
    exact h.free_list.push fun hmem => hbuf (List.mem_append_right queue hmem)
  tail := h.tail
  nodup := List.nodup_middle.mpr (List.nodup_cons.mpr ⟨hbuf, h.nodup⟩)

/-- The loop of `fifo_halt` moves the queue to the freelist. -/
theorem drainToFreelist_ok (steps : Nat) (hsteps : queue.length ≤ steps)
    (hqueue : IsList s.next s.fifo_head queue) (hfree : IsList s.next s.fifo_freelist unused)
    (hnodup : (queue ++ unused).Nodup) :
    ∃ s', drainToFreelist steps s = .ok s' ∧ s'.fifo_head = none ∧
      IsList s'.next s'.fifo_freelist (queue.reverse ++ unused) ∧
      ∀ b, (s'.heap b).block = (s.heap b).block := by
  induction queue generalizing s unused steps with
  | nil =>
    have hhead : s.fifo_head = none := hqueue
    refine ⟨s, ?_, hhead, hfree, fun b => rfl⟩
    unfold drainToFreelist
    rw [hhead]
  | cons x queue ih =>
    obtain ⟨steps, rfl⟩ : ∃ m, steps = m + 1 := ⟨steps - 1, by simp at hsteps; omega⟩
    obtain ⟨hx, hnodup'⟩ := List.nodup_cons.mp (show (x :: (queue ++ unused)).Nodup from hnodup)
    have hstep : Lists (Fifo.free { s with fifo_head := s.next x, fifo_tail := queue.getLast? } x)
        queue (x :: unused) :=
      Lists.free ⟨hqueue.2, hfree, rfl, hnodup'⟩ hx
    have hqueue' : IsList (Fifo.free { s with fifo_head := s.next x } x).next
        (Fifo.free { s with fifo_head := s.next x } x).fifo_head queue := hstep.queue_list
    obtain ⟨s', hdrain, hhead, hlist, hblock⟩ :=
      ih steps (by simpa using hsteps) hqueue' hstep.free_list hstep.nodup
    refine ⟨s', ?_, hhead, ?_, fun b => (hblock b).trans (block_free _ x b)⟩
    · unfold drainToFreelist
      rw [hqueue.1]
      exact hdrain
    · rwa [List.reverse_cons, List.append_assoc]

theorem Lists.halt (h : Lists s queue unused) :
    ∃ s', fifoHalt s = .ok s' ∧ Lists s' [] (queue.reverse ++ unused) ∧ s'.fifo_halted = true ∧
      ∀ b, (s'.heap b).block = (s.heap b).block := by
  have hlength : queue.length ≤ n := by
    have := (List.nodup_append.mp h.nodup).1.length_le_card
    rwa [Fintype.card_fin] at this
  obtain ⟨s', hdrain, hhead, hlist, hblock⟩ :=
    drainToFreelist_ok n hlength h.queue_list h.free_list h.nodup
  refine ⟨{ s' with fifo_tail := none, fifo_halted := true }, by rw [fifoHalt, hdrain]; rfl,
    ⟨hhead, hlist, rfl, ?_⟩, rfl, hblock⟩
  exact ((List.reverse_perm queue).append_right unused).nodup_iff.mpr h.nodup

/-- A buffer handed out is the first of the freelist. -/
theorem Lists.acquire (h : Lists s queue unused) :
    fifoAcquire s = (none, s) ∨ ∃ buf rest s', s.fifo_halted = false ∧ unused = buf :: rest ∧
      fifoAcquire s = (some buf, s') ∧ Lists s' queue rest ∧ s'.fifo_halted = false ∧
      ∀ b ≠ buf, (s'.heap b).block = (s.heap b).block := by
  cases hhalted : s.fifo_halted with
  | true => exact .inl (by simp [fifoAcquire, hhalted])
  | false =>
    cases hlist : s.fifo_freelist with
    | none => exact .inl (by simp [fifoAcquire, hhalted, hlist])
    | some buf =>
      obtain ⟨rest, rfl, hrest⟩ := IsList.of_some (hlist ▸ h.free_list)
      obtain ⟨hbuf, hnodup⟩ := List.nodup_cons.mp (List.nodup_middle.mp h.nodup)
      let t : Fifo n := Fifo.setBlock { s with fifo_freelist := s.next buf } buf
        { (s.heap buf).block with
          overlap := s.overlap_length
          validLength := s.overlap_length
          sampleTimestamp := 0
          sysTimestamp := 0
          flags := 0 }
      have hnext : t.next = s.next := next_setBlock _ _ _
      refine .inr ⟨buf, rest, t.setNext buf none, rfl, rfl, ?_, ⟨?_, ?_, h.tail, hnodup⟩, hhalted,
        fun b hb => ?_⟩
      · unfold fifoAcquire
        rw [if_neg (by rw [hhalted]; exact Bool.false_ne_true), hlist]
      · rw [next_setNext, hnext]
        exact h.queue_list.update fun hmem => hbuf (List.mem_append_left rest hmem)
      · rw [next_setNext, hnext]
        exact hrest.update fun hmem => hbuf (List.mem_append_right queue hmem)
      · rw [block_setNext]
        exact (block_setBlock _ _ _ _).trans (if_neg hb)

/-- A buffer taken off is the first of the queue, and its block is what it was. -/
theorem Lists.dequeue (h : Lists s queue unused) :
    fifoDequeue s = (none, s) ∨ ∃ buf rest s', s.fifo_halted = false ∧ queue = buf :: rest ∧
      fifoDequeue s = (some buf, s') ∧ Lists s' rest unused ∧ s'.fifo_halted = false ∧
      ∀ b, (s'.heap b).block = (s.heap b).block := by
  cases hhalted : s.fifo_halted with
  | true => exact .inl (by simp [fifoDequeue, hhalted])
  | false =>
    cases hlist : s.fifo_head with
    | none => exact .inl (by simp [fifoDequeue, hhalted, hlist])
    | some buf =>
      obtain ⟨rest, rfl, hrest⟩ := IsList.of_some (hlist ▸ h.queue_list)
      obtain ⟨hbuf, hnodup⟩ := List.nodup_cons.mp (show (buf :: (rest ++ unused)).Nodup from h.nodup)
      let t : Fifo n := Fifo.setNext { s with fifo_head := s.next buf } buf none
      have hnext : t.next = Function.update s.next buf none := next_setNext _ _ _
      have hhead : IsList t.next t.fifo_head rest := by
        rw [hnext]
        exact hrest.update fun hmem => hbuf (List.mem_append_left unused hmem)
      have hfree : IsList t.next t.fifo_freelist unused := by
        rw [hnext]
        exact h.free_list.update fun hmem => hbuf (List.mem_append_right rest hmem)
      have hdequeue : fifoDequeue s =
          (some buf, if t.fifo_head = none then { t with fifo_tail := none } else t) := by
        unfold fifoDequeue
        rw [if_neg (by rw [hhalted]; exact Bool.false_ne_true), hlist]
      refine .inr ⟨buf, rest, _, rfl, rfl, hdequeue, ?_⟩
      cases rest with
      | nil =>
        have hnone : t.fifo_head = none := hhead
        rw [if_pos hnone]
        exact ⟨⟨hhead, hfree, rfl, hnodup⟩, hhalted, fun b => block_setNext _ _ _ _⟩
      | cons x rest =>
        have hsome : t.fifo_head ≠ none := fun hnone => absurd (hhead.1.symm.trans hnone) (by simp)
        rw [if_neg hsome]
        refine ⟨⟨hhead, hfree, ?_, hnodup⟩, hhalted, fun b => block_setNext _ _ _ _⟩
        exact h.tail.trans List.getLast?_cons_cons

/-- A buffer enqueued is the last of the queue; a halted queue puts it on the freelist. -/
theorem Lists.enqueue (h : Lists s queue unused) (hbuf : buf ∉ queue ++ unused) :
    fifoEnqueue s buf = .error .assertion ∨
      (s.fifo_halted = true ∧ fifoEnqueue s buf = .ok (s.free buf)) ∨
      ∃ s', s.fifo_halted = false ∧ fifoEnqueue s buf = .ok s' ∧ Lists s' (queue ++ [buf]) unused ∧
        s'.fifo_halted = false ∧
        ((s.heap buf).block.validLength ≤ (s.heap buf).block.totalLength ∧
          s.overlap_length ≤ (s.heap buf).block.validLength) ∧
        (∀ b, (s'.heap b).block = ((populateOverlap s buf).heap b).block) ∧
        s'.overlap_length = s.overlap_length ∧
        s'.overlap_buffer = (populateOverlap s buf).overlap_buffer := by
  by_cases hassert : ¬ ((s.heap buf).block.validLength ≤ (s.heap buf).block.totalLength ∧
      s.overlap_length ≤ (s.heap buf).block.validLength)
  · exact .inl (if_pos hassert)
  cases hhalted : s.fifo_halted with
  | true =>
    refine .inr (.inl ⟨rfl, ?_⟩)
    rw [fifoEnqueue, if_neg hassert, if_pos hhalted]
  | false =>
    obtain ⟨hqueue, hfree⟩ := not_or.mp (mt List.mem_append.mpr hbuf)
    let t : Fifo n := (populateOverlap s buf).setNext buf none
    have hpopulate : (populateOverlap s buf).next = s.next := next_setBlock s buf _
    have hnext : t.next = Function.update s.next buf none := by
      rw [← hpopulate]
      exact next_setNext _ _ _
    have hlist : IsList t.next s.fifo_head queue := by
      rw [hnext]
      exact h.queue_list.update hqueue
    have hlist' : IsList t.next s.fifo_freelist unused := by
      rw [hnext]
      exact h.free_list.update hfree
    have hend : t.next buf = none := by
      rw [hnext, Function.update_self]
    have hnodup : (queue ++ [buf] ++ unused).Nodup := by
      rw [List.append_assoc, List.singleton_append]
      exact List.nodup_middle.mpr (List.nodup_cons.mpr ⟨hbuf, h.nodup⟩)
    have hnodupQueue := (List.nodup_append.mp h.nodup).1
    have hrunning : ¬ s.fifo_halted = true := by
      rw [hhalted]
      exact Bool.false_ne_true
    have hblock (b : Fin n) : (t.heap b).block = ((populateOverlap s buf).heap b).block :=
      block_setNext _ _ _ _
    rcases List.eq_nil_or_concat queue with rfl | ⟨front, last, rfl⟩
    · have hhead : t.fifo_head = none := h.queue_list
      have henqueue : fifoEnqueue s buf = .ok { t with fifo_head := some buf, fifo_tail := some buf } := by
        unfold fifoEnqueue
        rw [if_neg hassert, if_neg hrunning]
        simp only [show ((populateOverlap s buf).setNext buf none).fifo_head = none from hhead]
        rfl
      exact .inr (.inr ⟨_, rfl, henqueue, ⟨⟨rfl, hend⟩, hlist', rfl, hnodup⟩, hhalted,
        not_not.mp hassert, hblock, rfl, rfl⟩)
    · rw [List.concat_eq_append] at *
      obtain ⟨x, hhead⟩ : ∃ x, t.fifo_head = some x := by
        have := h.queue_list.head_eq
        cases front with
        | nil => exact ⟨last, this⟩
        | cons y front => exact ⟨y, this⟩
      have htail : t.fifo_tail = some last := h.tail.trans (by simp)
      have henqueue : fifoEnqueue s buf =
          .ok { t.setNext last (some buf) with fifo_tail := some buf } := by
        unfold fifoEnqueue
        rw [if_neg hassert, if_neg hrunning]
        simp only [show ((populateOverlap s buf).setNext buf none).fifo_head = some x from hhead,
          show ((populateOverlap s buf).setNext buf none).fifo_tail = some last from htail]
        rfl
      refine .inr (.inr ⟨_, rfl, henqueue, ⟨?_, ?_, ?_, hnodup⟩, hhalted, not_not.mp hassert,
        fun b => ?_, rfl, rfl⟩)
      · change IsList (t.setNext last (some buf)).next s.fifo_head _
        rw [next_setNext]
        exact hlist.concat hnodupQueue hqueue hend
      · change IsList (t.setNext last (some buf)).next s.fifo_freelist _
        rw [next_setNext]
        refine hlist'.update fun hmem => ?_
        exact (List.nodup_append.mp h.nodup).2.2 last (by simp) last hmem rfl
      · simp
      · exact (block_setNext t last (some buf) b).trans (hblock b)

end Lists

/-! ### Ownership -/

/-- The queue and the freelist, and that each buffer is in one place. -/
structure Holds {n : Nat} (s : System n) (queue unused : List (Fin n)) : Prop where
  lists : Lists s.fifo queue unused
  owned : ∀ b, queue.count b + unused.count b + (s.hands .producer).count b +
    (s.hands .consumer).count b = 1
  order : s.fifo.fifo_halted = false →
    s.enqueued = s.dequeued ++ queue.map fun b => (b, (s.fifo.heap b).block)
  delivered : s.dequeued <+: s.enqueued
  halted : s.fifo.fifo_halted = true → queue = []

section System
variable {n : Nat} {s : System n} {queue unused : List (Fin n)} {party : Party} {buf : Fin n}

theorem count_take (party' : Party) (b : Fin n) :
    (s.take party buf party').count b =
      (s.hands party').count b + if party' = party ∧ buf = b then 1 else 0 := by
  by_cases hparty : party' = party
  · subst hparty
    simp [System.take, List.count_cons]
  · simp [System.take, hparty]

theorem count_drop (party' : Party) (b : Fin n) :
    (s.drop party buf party').count b =
      (s.hands party').count b - if party' = party ∧ buf = b then 1 else 0 := by
  by_cases hparty : party' = party
  · subst hparty
    simp [System.drop, List.count_erase]
  · simp [System.drop, hparty]

/-- A buffer that a party holds is in neither list. -/
theorem Holds.notMem (h : Holds s queue unused) (hbuf : buf ∈ s.hands party) :
    buf ∉ queue ++ unused := by
  have hone := h.owned buf
  have hheld := List.count_pos_iff.mpr hbuf
  rw [← List.count_pos_iff, List.count_append]
  cases party <;> omega

/-- The count of a buffer that is given back. -/
theorem Holds.count_given (h : Holds s queue unused) (hbuf : buf ∈ s.hands party) (b : Fin n) :
    queue.count b + unused.count b + (if buf = b then 1 else 0) + (s.drop party buf .producer).count b +
      (s.drop party buf .consumer).count b = 1 := by
  have hone := h.owned b
  have hheld := List.count_pos_iff.mpr hbuf
  rw [count_drop, count_drop]
  by_cases hb : buf = b
  · subst hb
    cases party <;> simp <;> omega
  · simp only [hb, and_false, if_false]
    omega

/-- Blocks of buffers that are not queued do not matter for the order. -/
theorem map_block_congr {fifo fifo' : Fifo n} (queue : List (Fin n))
    (hblock : ∀ b ∈ queue, (fifo'.heap b).block = (fifo.heap b).block) :
    (queue.map fun b => (b, (fifo'.heap b).block)) = queue.map fun b => (b, (fifo.heap b).block) :=
  List.map_congr_left fun b hb => Prod.ext rfl (hblock b hb)

theorem Holds.acquire (h : Holds s queue unused) :
    s.step .acquire = .ok s ∨ ∃ s' rest, s.fifo.fifo_halted = false ∧ s.step .acquire = .ok s' ∧
      Holds s' queue rest := by
  rcases h.lists.acquire with hnone | ⟨buf, rest, fifo, hrunning, rfl, hacquire, hlists, hhalted, hblock⟩
  · refine .inl ?_
    rw [System.step, hnone]
  · let s' : System n :=
      { s with fifo := fifo, hands := s.take .producer buf, acquired := s.acquired ++ [buf] }
    refine .inr ⟨s', rest, hrunning, by rw [System.step, hacquire], hlists, fun b => ?_, fun _ => ?_,
      h.delivered, fun h => absurd (hhalted.symm.trans h) Bool.false_ne_true⟩
    · have hone := h.owned b
      change _ + _ + (s.take .producer buf .producer).count b + (s.take .producer buf .consumer).count b = 1
      rw [count_take, count_take]
      simp only [List.count_cons, beq_iff_eq] at hone
      simp
      omega
    · refine (h.order hrunning).trans (congrArg _ (map_block_congr queue fun b hb => ?_).symm)
      refine hblock b ?_
      intro hgiven
      obtain rfl := hgiven
      exact (List.nodup_append.mp h.lists.nodup).2.2 b hb b List.mem_cons_self rfl

theorem Holds.write (h : Holds s queue unused) (party : Party) (buf : Fin n) (block : Block) :
    s.step (.write party buf block) = .error .misuse ∨
      ∃ s', s.step (.write party buf block) = .ok s' ∧ s'.fifo.fifo_halted = s.fifo.fifo_halted ∧
        s'.acquired = s.acquired ∧ s'.dequeued = s.dequeued ∧ Holds s' queue unused := by
  by_cases hallowed : buf ∈ s.hands party ∧ block.totalLength = (s.fifo.heap buf).block.totalLength
  · have hnext : (s.fifo.setBlock buf block).next = s.fifo.next := next_setBlock _ _ _
    refine .inr ⟨{ s with fifo := s.fifo.setBlock buf block }, if_pos hallowed, rfl, rfl, rfl,
      ⟨?_, ?_, h.lists.tail, h.lists.nodup⟩, h.owned, fun hrunning => ?_, h.delivered, h.halted⟩
    · change IsList (s.fifo.setBlock buf block).next s.fifo.fifo_head queue
      rw [hnext]
      exact h.lists.queue_list
    · change IsList (s.fifo.setBlock buf block).next s.fifo.fifo_freelist unused
      rw [hnext]
      exact h.lists.free_list
    · refine (h.order hrunning).trans (congrArg _ (map_block_congr queue fun b hb => ?_).symm)
      rw [block_setBlock, if_neg]
      intro hgiven
      obtain rfl := hgiven
      exact h.notMem hallowed.1 (List.mem_append_left unused hb)
  · exact .inl (if_neg hallowed)

theorem Holds.release (h : Holds s queue unused) (party : Party) (buf : Fin n) :
    s.step (.release party buf) = .error .misuse ∨
      ∃ s', s.step (.release party buf) = .ok s' ∧ s'.fifo.fifo_halted = s.fifo.fifo_halted ∧
        s'.acquired = s.acquired ∧ s'.dequeued = s.dequeued ∧ Holds s' queue (buf :: unused) := by
  by_cases hbuf : buf ∈ s.hands party
  · refine .inr ⟨{ s with fifo := fifoRelease s.fifo buf, hands := s.drop party buf }, if_pos hbuf, rfl,
      rfl, rfl, h.lists.free (h.notMem hbuf), fun b => ?_, fun hrunning => ?_, h.delivered, h.halted⟩
    · have hone := h.count_given hbuf b
      simp only [List.count_cons, beq_iff_eq]
      omega
    · exact (h.order hrunning).trans (congrArg _ (map_block_congr queue fun b _ => block_free _ _ _).symm)
  · exact .inl (if_neg hbuf)

theorem Holds.enqueue (h : Holds s queue unused) (buf : Fin n) :
    s.step (.enqueue buf) = .error .misuse ∨ s.step (.enqueue buf) = .error .assertion ∨
      ∃ s' queue' unused', s.step (.enqueue buf) = .ok s' ∧
        s'.fifo.fifo_halted = s.fifo.fifo_halted ∧ s'.acquired = s.acquired ∧
        s'.dequeued = s.dequeued ∧ Holds s' queue' unused' := by
  by_cases hbuf : buf ∈ s.hands .producer
  · have hstep : s.step (.enqueue buf) = (fifoEnqueue s.fifo buf).map fun fifo =>
        { s with
          fifo := fifo
          hands := s.drop .producer buf
          enqueued := if s.fifo.fifo_halted then s.enqueued
            else s.enqueued ++ [(buf, (fifo.heap buf).block)] } := if_pos hbuf
    have hcount := h.count_given hbuf
    rcases h.lists.enqueue (h.notMem hbuf) with hassert | ⟨hhalted, henqueue⟩ |
      ⟨fifo, hrunning, henqueue, hlists, hrunning', -, hblock, -⟩
    · rw [hstep, hassert]
      exact .inr (.inl rfl)
    · rw [hstep, henqueue, hhalted]
      refine .inr (.inr ⟨_, queue, buf :: unused, rfl, hhalted, rfl, rfl, h.lists.free (h.notMem hbuf),
        fun b => ?_, fun hrunning => ?_, h.delivered, h.halted⟩)
      · have hone := hcount b
        simp only [List.count_cons, beq_iff_eq]
        omega
      · exact absurd (hrunning.symm.trans hhalted) Bool.false_ne_true
    · rw [hstep, henqueue, hrunning]
      refine .inr (.inr ⟨_, queue ++ [buf], unused, rfl, hrunning', rfl, rfl, hlists, fun b => ?_,
        fun _ => ?_, ?_, fun hhalted => absurd (hrunning'.symm.trans hhalted) Bool.false_ne_true⟩)
      · have hone := hcount b
        simp only [List.count_append, List.count_singleton, beq_iff_eq]
        omega
      · change s.enqueued ++ [(buf, (fifo.heap buf).block)] = s.dequeued ++ List.map _ (queue ++ [buf])
        rw [h.order hrunning, List.map_append, List.append_assoc]
        refine congrArg _ (congrArg (· ++ _) (map_block_congr queue fun b hb => ?_).symm)
        rw [hblock]
        refine (block_setBlock _ _ _ _).trans (if_neg ?_)
        intro hgiven
        obtain rfl := hgiven
        exact h.notMem hbuf (List.mem_append_left unused hb)
      · exact h.delivered.trans (List.prefix_append ..)
  · exact .inl (if_neg hbuf)

theorem Holds.dequeue (h : Holds s queue unused) :
    s.step .dequeue = .ok s ∨ ∃ s' rest, s.fifo.fifo_halted = false ∧ s.step .dequeue = .ok s' ∧
      Holds s' rest unused := by
  rcases h.lists.dequeue with hnone | ⟨buf, rest, fifo, hrunning, rfl, hdequeue, hlists, hhalted, hblock⟩
  · refine .inl ?_
    rw [System.step, hnone]
  · let s' : System n :=
      { s with
        fifo := fifo
        hands := s.take .consumer buf
        dequeued := s.dequeued ++ [(buf, (fifo.heap buf).block)] }
    have horder : s.enqueued =
        s.dequeued ++ [(buf, (fifo.heap buf).block)] ++ rest.map fun b => (b, (fifo.heap b).block) := by
      rw [h.order hrunning, List.map_cons, hblock, List.append_assoc, List.singleton_append]
      exact congrArg _ (congrArg _ (map_block_congr rest fun b _ => hblock b).symm)
    refine .inr ⟨s', rest, hrunning, by rw [System.step, hdequeue], hlists, fun b => ?_,
      fun _ => horder, ⟨_, horder.symm⟩,
      fun h => absurd (hhalted.symm.trans h) Bool.false_ne_true⟩
    have hone := h.owned b
    change _ + _ + (s.take .consumer buf .producer).count b + (s.take .consumer buf .consumer).count b = 1
    rw [count_take, count_take]
    simp only [List.count_cons, beq_iff_eq] at hone
    simp
    omega

theorem Holds.halt (h : Holds s queue unused) :
    ∃ s', s.step .halt = .ok s' ∧ s'.fifo.fifo_halted = true ∧ s'.acquired = s.acquired ∧
      s'.dequeued = s.dequeued ∧ Holds s' [] (queue.reverse ++ unused) := by
  obtain ⟨fifo, hhalt, hlists, hhalted, hblock⟩ := h.lists.halt
  refine ⟨{ s with fifo := fifo }, by rw [System.step, hhalt]; rfl, hhalted, rfl, rfl, hlists,
    fun b => ?_, fun hrunning => absurd (hrunning.symm.trans hhalted) Bool.false_ne_true, h.delivered,
    fun _ => rfl⟩
  have hone := h.owned b
  simp only [List.count_append, List.count_reverse, List.count_nil]
  omega

/-- **One step.** Nothing gets lost, and a halted queue hands nothing out. -/
theorem Holds.step (h : Holds s queue unused) (e : Event n) :
    (∃ s' queue' unused', s.step e = .ok s' ∧ Holds s' queue' unused' ∧
        (s.fifo.fifo_halted = true → s'.fifo.fifo_halted = true ∧ s'.acquired = s.acquired ∧
          s'.dequeued = s.dequeued)) ∨
      s.step e = .error .misuse ∨ s.step e = .error .assertion := by
  cases e with
  | acquire =>
    rcases h.acquire with hnone | ⟨s', rest, hrunning, hstep, hs'⟩
    · exact .inl ⟨s, queue, unused, hnone, h, fun hhalted => ⟨hhalted, rfl, rfl⟩⟩
    · exact .inl ⟨s', queue, rest, hstep, hs',
        fun hhalted => absurd (hrunning.symm.trans hhalted) Bool.false_ne_true⟩
  | write party buf block =>
    rcases h.write party buf block with hmisuse | ⟨s', hstep, hsame, hacquired, hdequeued, hs'⟩
    · exact .inr (.inl hmisuse)
    · exact .inl ⟨s', queue, unused, hstep, hs', fun hhalted => ⟨hsame.trans hhalted, hacquired, hdequeued⟩⟩
  | enqueue buf =>
    rcases h.enqueue buf with hmisuse | hassert |
      ⟨s', queue', unused', hstep, hsame, hacquired, hdequeued, hs'⟩
    · exact .inr (.inl hmisuse)
    · exact .inr (.inr hassert)
    · exact .inl ⟨s', queue', unused', hstep, hs',
        fun hhalted => ⟨hsame.trans hhalted, hacquired, hdequeued⟩⟩
  | dequeue =>
    rcases h.dequeue with hnone | ⟨s', rest, hrunning, hstep, hs'⟩
    · exact .inl ⟨s, queue, unused, hnone, h, fun hhalted => ⟨hhalted, rfl, rfl⟩⟩
    · exact .inl ⟨s', rest, unused, hstep, hs',
        fun hhalted => absurd (hrunning.symm.trans hhalted) Bool.false_ne_true⟩
  | release party buf =>
    rcases h.release party buf with hmisuse | ⟨s', hstep, hsame, hacquired, hdequeued, hs'⟩
    · exact .inr (.inl hmisuse)
    · exact .inl ⟨s', queue, buf :: unused, hstep, hs',
        fun hhalted => ⟨hsame.trans hhalted, hacquired, hdequeued⟩⟩
  | halt =>
    obtain ⟨s', hstep, hhalted, hacquired, hdequeued, hs'⟩ := h.halt
    exact .inl ⟨s', [], _, hstep, hs', fun _ => ⟨hhalted, hacquired, hdequeued⟩⟩

theorem Holds.of_step {s' : System n} {e : Event n} (h : Holds s queue unused) (hs' : s.step e = .ok s') :
    (∃ queue' unused', Holds s' queue' unused') ∧ (s.fifo.fifo_halted = true →
      s'.fifo.fifo_halted = true ∧ s'.acquired = s.acquired ∧ s'.dequeued = s.dequeued) := by
  rcases h.step e with ⟨s₁, queue', unused', hs₁, h', hhalted⟩ | herror | herror
  · obtain rfl := Except.ok.inj (hs₁.symm.trans hs')
    exact ⟨⟨queue', unused', h'⟩, hhalted⟩
  · exact absurd (herror.symm.trans hs') (by simp)
  · exact absurd (herror.symm.trans hs') (by simp)

end System

/-! ### Runs -/

theorem lists_foldl_free {n : Nat} {s : Fifo n} {queue unused : List (Fin n)} (h : Lists s queue unused)
    (bufs : List (Fin n)) (hnodup : (bufs ++ (queue ++ unused)).Nodup) :
    Lists (bufs.foldl Fifo.free s) queue (bufs.reverse ++ unused) ∧
      (bufs.foldl Fifo.free s).fifo_halted = s.fifo_halted ∧
      (bufs.foldl Fifo.free s).overlap_length = s.overlap_length ∧
      (bufs.foldl Fifo.free s).overlap_buffer = s.overlap_buffer := by
  induction bufs generalizing s unused with
  | nil => exact ⟨h, rfl, rfl, rfl⟩
  | cons b bufs ih =>
    obtain ⟨hb, hnodup⟩ := List.nodup_cons.mp (show (b :: (bufs ++ (queue ++ unused))).Nodup from hnodup)
    obtain ⟨hb', hrest⟩ := not_or.mp (mt List.mem_append.mpr hb)
    have hmoved : (bufs ++ (queue ++ b :: unused)).Nodup := by
      rw [← List.append_assoc]
      refine List.nodup_middle.mpr (List.nodup_cons.mpr ?_)
      rw [List.append_assoc]
      exact ⟨hb, hnodup⟩
    obtain ⟨hlists, hhalted, hlength, hbuffer⟩ := ih (h.free hrest) hmoved
    rw [List.reverse_cons, List.append_assoc, List.singleton_append]
    exact ⟨hlists, hhalted, hlength, hbuffer⟩

theorem lists_create (buffer_count buffer_size overlap : Nat) :
    Lists (fifoCreate buffer_count buffer_size overlap) [] (List.finRange buffer_count).reverse ∧
      (fifoCreate buffer_count buffer_size overlap).fifo_halted = false ∧
      (fifoCreate buffer_count buffer_size overlap).overlap_length = overlap ∧
      (fifoCreate buffer_count buffer_size overlap).overlap_buffer = List.replicate overlap 0 := by
  have hempty : Lists (⟨fun _ => ⟨zeroBlock buffer_size, none⟩, none, none, none, false, overlap,
      List.replicate overlap 0⟩ : Fifo buffer_count) [] [] := ⟨rfl, rfl, rfl, List.nodup_nil⟩
  have h := lists_foldl_free hempty (List.finRange buffer_count) (by
    rw [List.append_nil, List.append_nil]
    exact List.nodup_finRange buffer_count)
  rwa [List.append_nil] at h

theorem holds_create (buffer_count buffer_size overlap : Nat) :
    Holds (System.create buffer_count buffer_size overlap) []
      (List.finRange buffer_count).reverse where
  lists := (lists_create buffer_count buffer_size overlap).1
  owned b := by
    have := List.count_eq_one_of_mem (List.nodup_finRange buffer_count) (List.mem_finRange b)
    simp [System.create, this]
  order _ := rfl
  delivered := List.prefix_rfl
  halted _ := rfl

/-- **The queue loses nothing and keeps the order**, whatever the threads do.

After any steps, each buffer is in exactly one of the queue, the freelist and the
two parties' hands, both lists are intact and `fifo_tail` is the last of the queue.
What was dequeued is what was enqueued first, block for block, and as long as the
queue is not halted the rest is queued in order. A halted queue is empty and hands
out no buffer any more. A run ends early only because a party passed a buffer that
it does not hold, wrote beyond one, or enqueued one with a wrong length. -/
theorem fifo_conserves (buffer_count buffer_size overlap : Nat) (events : List (Event buffer_count)) :
    (∀ s, run System.step (.create buffer_count buffer_size overlap) events = .ok s →
      (∃ queue unused,
        IsList s.fifo.next s.fifo.fifo_head queue ∧ IsList s.fifo.next s.fifo.fifo_freelist unused ∧
        s.fifo.fifo_tail = queue.getLast? ∧
        (∀ b, queue.count b + unused.count b + (s.hands .producer).count b +
          (s.hands .consumer).count b = 1) ∧
        (s.fifo.fifo_halted = false →
          s.enqueued = s.dequeued ++ queue.map fun b => (b, (s.fifo.heap b).block)) ∧
        (s.fifo.fifo_halted = true → queue = [])) ∧
      s.dequeued <+: s.enqueued ∧
      (s.fifo.fifo_halted = true → ∀ more s', run System.step s more = .ok s' →
        s'.fifo.fifo_halted = true ∧ s'.fifo.fifo_head = none ∧ s'.acquired = s.acquired ∧
          s'.dequeued = s.dequeued)) ∧
    ∀ fault, run System.step (.create buffer_count buffer_size overlap) events = .error fault →
      fault = .misuse ∨ fault = .assertion := by
  have hinv (s : System buffer_count) (e : Event buffer_count) (s' : System buffer_count)
      (h : ∃ queue unused, Holds s queue unused) (hs' : s.step e = .ok s') :
      ∃ queue unused, Holds s' queue unused := by
    obtain ⟨queue, unused, h⟩ := h
    exact (h.of_step hs').1
  have hcreate : ∃ queue unused, Holds (System.create buffer_count buffer_size overlap) queue unused :=
    ⟨_, _, holds_create buffer_count buffer_size overlap⟩
  refine ⟨fun s hs => ?_, fun fault hfault => ?_⟩
  · have hreached := run_invariant hinv hcreate hs
    obtain ⟨queue, unused, h⟩ := hreached
    refine ⟨⟨queue, unused, h.lists.queue_list, h.lists.free_list, h.lists.tail, h.owned, h.order,
      h.halted⟩, h.delivered, fun hhalted more s' hs' => ?_⟩
    have hafter : (∃ queue unused, Holds s' queue unused) ∧ s'.fifo.fifo_halted = true ∧
        s'.acquired = s.acquired ∧ s'.dequeued = s.dequeued := by
      refine run_invariant (I := fun s' : System buffer_count => (∃ queue unused, Holds s' queue unused) ∧
        s'.fifo.fifo_halted = true ∧ s'.acquired = s.acquired ∧ s'.dequeued = s.dequeued) ?_
        ⟨⟨queue, unused, h⟩, hhalted, rfl, rfl⟩ hs'
      intro s₁ e s₂ h₁ hs₂
      obtain ⟨⟨queue₁, unused₁, h₁⟩, hhalted₁, hacquired, hdequeued⟩ := h₁
      obtain ⟨h₂, hkept⟩ := h₁.of_step hs₂
      obtain ⟨hhalted₂, hacquired₂, hdequeued₂⟩ := hkept hhalted₁
      exact ⟨h₂, hhalted₂, hacquired₂.trans hacquired, hdequeued₂.trans hdequeued⟩
    obtain ⟨⟨queue', unused', h'⟩, hhalted', hacquired, hdequeued⟩ := hafter
    refine ⟨hhalted', ?_, hacquired, hdequeued⟩
    have hempty := h'.lists.queue_list
    rw [h'.halted hhalted'] at hempty
    exact hempty
  · refine run_error (F := fun fault => fault = .misuse ∨ fault = .assertion) hinv
      (fun s e fault h hfail => ?_) hcreate hfault
    obtain ⟨queue, unused, h⟩ := h
    rcases h.step e with ⟨s', -, -, hs', -⟩ | herror | herror
    · exact absurd (hs'.symm.trans hfail) (by simp)
    · exact .inl (Except.error.inj (hfail.symm.trans herror))
    · exact .inr (Except.error.inj (hfail.symm.trans herror))

end RbFeeder.Sdr
