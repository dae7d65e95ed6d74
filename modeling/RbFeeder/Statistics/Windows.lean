import RbFeeder.Statistics.Background

/-! The statistics windows.

What is added up is exact, and so are the ends. The starts are wrong as long as the first
period, which has none, is in the window. -/
namespace RbFeeder.Statistics

variable {F : Type}

/-! ### Folds over periods -/

theorem folded_sum {M : Type} [AddCommMonoid M] (l : List M) : Ring.folded (· + ·) 0 l = l.sum := by
  induction l with
  | nil => rfl
  | cons a l ih => rw [Ring.folded_cons add_comm add_assoc, ih, List.sum_cons]

def records (h : History F) : List (Stats F) := h.completed.map Period.record

/-- What was counted is in the open period or in one of the others, and in their records. -/
structure Tallied {M : Type} [AddCommMonoid M] (φ : Stats F → M) (calls : List (Call F)) (r : State F × History F) :
    Prop where
  events : r.2.events ++ r.2.completed.flatMap Period.events = (calls.map Call.counted).reverse
  current : φ r.1.current = (r.2.events.map φ).sum
  records : ∀ p ∈ r.2.completed, φ p.record = (p.events.map φ).sum

theorem total_records {M : Type} [AddCommMonoid M] {φ : Stats F → M} {r : State F × History F} {calls : List (Call F)} (hr : Tallied φ calls r) (n : ℕ) :
    (((records r.2).take n).map φ).sum = total φ (r.2.completed.take n) := by
  have hmem : ∀ p ∈ r.2.completed.take n, φ p.record = (p.events.map φ).sum := fun p hp =>
    hr.records p (List.mem_of_mem_take hp)
  unfold records total
  rw [← List.map_take]
  generalize r.2.completed.take n = periods at hmem
  induction periods with
  | nil => rfl
  | cons p periods ih =>
    rw [List.map_cons, List.map_cons, List.sum_cons, List.flatMap_cons, List.map_append, List.sum_append,
      hmem p List.mem_cons_self, ih fun q hq => hmem q (List.mem_cons_of_mem _ hq)]

/-- The first period has no start in its record, every later one has its own. -/
structure Started (begun : ℕ) (later : List (Period F)) (first : Period F) : Prop where
  none : first.start = begun ∧ first.record.start = 0
  own : ∀ p ∈ later, p.record.start = p.start ∧ begun < p.start
  ordered : later.Pairwise fun p q => q.start ≤ p.start

/-- The earliest start, of records that all have one. -/
theorem folded_starts {l : List (Period F)} (hpos : ∀ p ∈ l, 0 < p.start)
    (hordered : l.Pairwise fun p q => q.start ≤ p.start) :
    ∀ p, l.getLast? = some p → Ring.folded addStart 0 (l.map Period.start) = p.start := by
  induction l with
  | nil => exact nofun
  | cons q l ih =>
    obtain ⟨hle, hordered⟩ := List.pairwise_cons.mp hordered
    intro p hlast
    rw [List.map_cons, Ring.folded_cons addStart_comm addStart_assoc]
    cases hl : l with
    | nil =>
      rw [hl] at hlast
      obtain rfl : q = p := by simpa using hlast
      exact (addStart_comm _ _).trans (addStart_zero _)
    | cons q' l' =>
      rw [hl, List.getLast?_cons_cons, ← hl] at hlast
      rw [← hl, ih (fun p hp => hpos p (List.mem_cons_of_mem _ hp)) hordered p hlast]
      have hmem := List.mem_of_getLast? hlast
      have := hle p hmem
      have := hpos p (List.mem_cons_of_mem _ hmem)
      have := hpos q List.mem_cons_self
      unfold addStart
      split_ifs <;> omega

/-- The latest end is that of the latest record. -/
theorem folded_stops {l : List (Period F)} (hordered : l.Pairwise fun p q => q.stop ≤ p.stop) :
    ∀ p, l.head? = some p → Ring.folded max 0 (l.map Period.stop) = p.stop := by
  induction l with
  | nil => exact nofun
  | cons q l ih =>
    obtain ⟨hle, hordered⟩ := List.pairwise_cons.mp hordered
    intro p hhead
    obtain rfl : q = p := by simpa using hhead
    rw [List.map_cons, Ring.folded_cons max_comm max_assoc]
    cases hl : l with
    | nil => exact max_eq_left (Nat.zero_le _)
    | cons q' l' =>
      rw [← hl, ih hordered q' (by rw [hl]; rfl)]
      exact max_eq_left (hle q' (by rw [hl]; exact List.mem_cons_self))

/-- Without a start in one of the records, what comes out is no start or a later one. -/
theorem folded_late {begun : ℕ} {l : List ℕ} (hlate : ∀ n ∈ l, n = 0 ∨ begun < n) :
    Ring.folded addStart 0 l = 0 ∨ begun < Ring.folded addStart 0 l := by
  induction l with
  | nil => exact .inl rfl
  | cons n l ih =>
    have := ih fun m hm => hlate m (List.mem_cons_of_mem _ hm)
    have := hlate n List.mem_cons_self
    rw [Ring.folded_cons addStart_comm addStart_assoc]
    generalize Ring.folded addStart 0 l = m at *
    unfold addStart
    split_ifs <;> omega

variable [Zero F] [Add F] [LinearOrder F]

/-! ### Additive projections -/

/-- A projection that is added up and does not depend on the times. -/
structure Additive {M : Type} [AddCommMonoid M] (φ : Stats F → M) : Prop where
  zero : φ zeroStats = 0
  add : ∀ a b, φ (addStats a b) = φ a + φ b
  count : ∀ s d, φ (s.count d) = φ s + φ d
  times : ∀ s start stop, φ { s with start, stop } = φ s

theorem additive_count32 (k : Counter32) : Additive fun s : Stats F => s.count32 k :=
  ⟨rfl, fun _ _ => rfl, fun _ _ => rfl, fun _ _ _ => rfl⟩

theorem additive_count64 (k : Counter64) : Additive fun s : Stats F => s.count64 k :=
  ⟨rfl, fun _ _ => rfl, fun _ _ => rfl, fun _ _ _ => rfl⟩

theorem additive_cpu (k : Cpu) : Additive fun s : Stats F => (s.cpu k).total :=
  ⟨rfl, fun _ _ => addTimespecs_total _ _, fun _ _ => addTimespecs_total _ _, fun _ _ _ => rfl⟩

/-! ### The records -/

/-- The records are kept in the ring and added up. -/
structure Kept (r : State F × History F) : Prop where
  ring : Ring.Holds 15 zeroStats r.1.oneMin (records r.2)
  alltime : r.1.alltime = Ring.folded addStats zeroStats (records r.2).reverse
  none : r.2.completed = [] → r.1.fiveMin = zeroStats ∧ r.1.fifteenMin = zeroStats
  some : r.2.completed ≠ [] →
    r.1.fiveMin = Ring.folded addStats zeroStats ((List.range 5).map (r.1.oneMin.recent 15)) ∧
      r.1.fifteenMin = Ring.folded addStats zeroStats ((List.range 15).map r.1.oneMin.slots)

theorem initial_kept (begun : ℕ) : Kept ((initial : State F), ⟨[], [], begun⟩) :=
  ⟨Ring.Holds.initial zeroStats (by decide), rfl, fun _ => ⟨rfl, rfl⟩, fun h => absurd rfl h⟩

/-- A call that completes a period. -/
theorem step_completes {r : State F × History F} {call : Call F} (h : Completes r.1 call.now) :
    step r call =
      (completePeriod call.now { r.1 with current := { r.1.current.count call.counted with stop := call.stop } },
        { completed :=
            { events := call.counted :: r.2.events, start := r.2.start, stop := call.stop
              record := { r.1.current.count call.counted with stop := call.stop } } :: r.2.completed
          events := []
          start := call.now }) := by
  unfold step backgroundTasks History.next
  dsimp only
  rw [if_pos h, if_pos h.2, if_neg h.1]

/-- A call that does not. -/
theorem step_goes_on {r : State F × History F} {call : Call F} (h : ¬ Completes r.1 call.now) :
    ∃ next, step r call =
      ({ r.1 with
          nextStatsUpdate := next
          current := { r.1.current.count call.counted with stop := call.stop } },
        { r.2 with events := call.counted :: r.2.events }) ∧
      (next = r.1.nextStatsUpdate ∨ r.1.nextStatsUpdate = 0 ∧ next = call.now + 60000) := by
  unfold step backgroundTasks History.next
  dsimp only
  rw [if_neg h]
  by_cases hdue : call.now ≥ r.1.nextStatsUpdate
  · have hzero : r.1.nextStatsUpdate = 0 := by
      by_contra hset
      exact h ⟨hset, hdue⟩
    rw [if_pos hdue, if_pos hzero]
    exact ⟨_, rfl, .inr ⟨hzero, rfl⟩⟩
  · rw [if_neg hdue]
    exact ⟨_, rfl, .inl rfl⟩

theorem step_kept {r : State F × History F} (hr : Kept r) (call : Call F) : Kept (step r call) := by
  by_cases h : Completes r.1 call.now
  · rw [step_completes h]
    refine ⟨hr.ring.push _, ?_, fun hnone => absurd hnone (List.cons_ne_nil _ _), fun _ => ⟨rfl, rfl⟩⟩
    show addStats _ r.1.alltime = Ring.folded addStats zeroStats (List.reverse (_ :: records r.2))
    rw [hr.alltime, List.reverse_cons, Ring.folded, Ring.folded, List.foldl_append]
    rfl
  · obtain ⟨next, hstep, -⟩ := step_goes_on h
    rw [hstep]
    exact ⟨hr.ring, hr.alltime, hr.none, hr.some⟩

/-! ### What a record comes to -/

section Fold
variable {M : Type} {op : M → M → M} {e : M} {φ : Stats F → M}

variable (hcomm : ∀ a b, op a b = op b a) (hassoc : ∀ a b c, op (op a b) c = op a (op b c))
  (hzero : φ zeroStats = e) (hadd : ∀ a b, φ (addStats a b) = op (φ a) (φ b))
include hcomm hassoc hzero hadd

theorem Kept.alltime_fold {r : State F × History F} (hr : Kept r) :
    φ r.1.alltime = Ring.folded op e ((records r.2).map φ) := by
  rw [hr.alltime, Ring.folded_hom hzero hadd, List.map_reverse,
    Ring.folded_perm hcomm hassoc (List.reverse_perm _)]

variable (hunit : ∀ a, op e a = a)
include hunit

theorem Kept.fiveMin_fold {r : State F × History F} (hr : Kept r) :
    φ r.1.fiveMin = Ring.folded op e (((records r.2).take 5).map φ) := by
  by_cases hnone : r.2.completed = []
  · rw [(hr.none hnone).1, hzero, records, hnone]
    rfl
  · rw [(hr.some hnone).1, Ring.folded_hom hzero hadd, hr.ring.fold_recent hcomm hassoc hunit hzero (by decide)]

theorem Kept.fifteenMin_fold {r : State F × History F} (hr : Kept r) :
    φ r.1.fifteenMin = Ring.folded op e (((records r.2).take 15).map φ) := by
  by_cases hnone : r.2.completed = []
  · rw [(hr.none hnone).2, hzero, records, hnone]
    rfl
  · rw [(hr.some hnone).2, Ring.folded_hom hzero hadd, hr.ring.fold_slots hcomm hassoc hunit hzero]

end Fold

/-! ### Counters -/

section Counters
variable {M : Type} [AddCommMonoid M] {φ : Stats F → M}

theorem step_tallied (hφ : Additive φ) {calls : List (Call F)} {r : State F × History F} (hr : Tallied φ calls r)
    (call : Call F) : Tallied φ (calls ++ [call]) (step r call) := by
  have hevents : call.counted :: (r.2.events ++ r.2.completed.flatMap Period.events) =
      ((calls ++ [call]).map Call.counted).reverse := by
    rw [hr.events, List.map_append, List.reverse_append]
    rfl
  have hcurrent : φ { r.1.current.count call.counted with stop := call.stop } =
      ((call.counted :: r.2.events).map φ).sum := by
    have htimes := hφ.times (r.1.current.count call.counted) (r.1.current.count call.counted).start call.stop
    rw [List.map_cons, List.sum_cons, ← hr.current, add_comm, ← hφ.count]
    exact htimes
  by_cases h : Completes r.1 call.now
  · rw [step_completes h]
    refine ⟨hevents, ?_, fun p hp => ?_⟩
    · exact (hφ.times zeroStats call.now call.now).trans hφ.zero
    · obtain rfl | hp := List.mem_cons.mp hp
      · exact hcurrent
      · exact hr.records p hp
  · obtain ⟨next, hstep, -⟩ := step_goes_on h
    rw [hstep]
    exact ⟨hevents, hcurrent, hr.records⟩

theorem counts_exact (hφ : Additive φ) {calls : List (Call F)} {r : State F × History F} (hkept : Kept r)
    (htallied : Tallied φ calls r) : CountsExact φ calls r := by
  constructor
  · have hall := total_records htallied r.2.completed.length
    rw [List.take_length, List.take_of_length_le (by rw [records, List.length_map])] at hall
    rw [hkept.alltime_fold add_comm add_assoc hφ.zero hφ.add, folded_sum, hall, htallied.current, total, add_comm,
      ← List.sum_append, ← List.map_append, htallied.events, List.map_reverse, List.sum_reverse, List.map_map]
    rfl
  · rw [hkept.fiveMin_fold add_comm add_assoc hφ.zero hφ.add zero_add, folded_sum, total_records htallied]
  · rw [hkept.fifteenMin_fold add_comm add_assoc hφ.zero hφ.add zero_add, folded_sum, total_records htallied]

end Counters

/-! ### Times -/

/-- The times so far, up to `t`. -/
structure Timed (begun t : ℕ) (r : State F × History F) : Prop where
  clock : begun ≤ t
  timer : r.1.nextStatsUpdate = 0 ∨ begun + 60000 ≤ r.1.nextStatsUpdate
  start : r.2.start ≤ t
  starts : r.2.completed = [] ∧ r.2.start = begun ∧ r.1.current.start = 0 ∨
    ∃ later first, r.2.completed = later ++ [first] ∧ Started begun later first ∧
      (∀ p ∈ later, p.start ≤ r.2.start) ∧ r.1.current.start = r.2.start ∧ begun < r.2.start
  stops : (r.2.completed.Pairwise fun p q => q.stop ≤ p.stop) ∧
    ∀ p ∈ r.2.completed, p.stop ≤ t ∧ p.record.stop = p.stop

theorem step_timed {begun t : ℕ} {r : State F × History F} (hr : Timed begun t r) {call : Call F}
    (hnow : t ≤ call.now) (hstop : call.now ≤ call.stop) : Timed begun call.stop (step r call) := by
  obtain ⟨hbegun, htimer, hstart, hstarts, hordered, hstops⟩ := hr
  have hbefore : ∀ p ∈ r.2.completed, p.stop ≤ call.stop ∧ p.record.stop = p.stop := fun p hp =>
    ⟨((hstops p hp).1.trans hnow).trans hstop, (hstops p hp).2⟩
  by_cases h : Completes r.1 call.now
  · have hlate : begun < call.now := by
      have := h.1
      have := h.2
      omega
    rw [step_completes h]
    refine ⟨hlate.le.trans hstop, ?_, hstop, .inr ?_, List.pairwise_cons.mpr ⟨fun p hp => (hbefore p hp).1, hordered⟩,
      fun p hp => ?_⟩
    · right
      show begun + 60000 ≤ r.1.nextStatsUpdate + 60000
      have := h.1
      omega
    · obtain ⟨hnone, hfirst, hzero⟩ | ⟨later, first, hsome, hstarted, hles, hcurrent, hpast⟩ := hstarts
      · refine ⟨[], _, by rw [hnone, List.nil_append], ⟨⟨hfirst, hzero⟩, nofun, List.Pairwise.nil⟩, nofun, rfl, hlate⟩
      · refine ⟨_ :: later, first, by rw [hsome, List.cons_append], ⟨hstarted.none, fun p hp => ?_,
          List.pairwise_cons.mpr ⟨hles, hstarted.ordered⟩⟩, fun p hp => ?_, rfl, hlate⟩
        · obtain rfl | hp := List.mem_cons.mp hp
          · exact ⟨hcurrent, hpast⟩
          · exact hstarted.own p hp
        · obtain rfl | hp := List.mem_cons.mp hp
          · exact hstart.trans hnow
          · exact (hles p hp).trans (hstart.trans hnow)
    · obtain rfl | hp := List.mem_cons.mp hp
      · exact ⟨le_refl _, rfl⟩
      · exact hbefore p hp
  · obtain ⟨next, hstep, hnext⟩ := step_goes_on h
    rw [hstep]
    refine ⟨(hbegun.trans hnow).trans hstop, ?_, (hstart.trans hnow).trans hstop, hstarts, hordered, hbefore⟩
    show next = 0 ∨ begun + 60000 ≤ next
    omega

/-! ### Starts and ends -/

section Ends
variable {begun t : ℕ} {r : State F × History F}

omit [Zero F] [Add F] [LinearOrder F] in
theorem take_records (h : History F) (k : ℕ) : (records h).take k = (h.completed.take k).map Period.record :=
  List.map_take.symm

omit [Zero F] [Add F] [LinearOrder F] in
/-- **When a start is right.** -/
theorem Timed.startRight_iff (hbegun : 0 < begun) (hr : Timed begun t r) (k : ℕ) (record : Stats F)
    (hfold : record.start = Ring.folded addStart 0 (((records r.2).take k).map Stats.start)) :
    StartRight record (r.2.completed.take k) ↔ r.2.completed.length = 0 ∨ k < r.2.completed.length := by
  rw [take_records, List.map_map] at hfold
  obtain ⟨hnone, -⟩ | ⟨later, first, hsome, hstarted, -⟩ := hr.starts
  · rw [hnone, List.take_nil]
    exact ⟨fun _ => .inl rfl, fun _ => nofun⟩
  rw [hsome] at hfold ⊢
  rw [List.length_append, List.length_singleton]
  by_cases hk : k ≤ later.length
  · rw [List.take_append_of_le_length hk] at hfold ⊢
    refine ⟨fun _ => .inr (by omega), fun _ p hp => ?_⟩
    have hown : (later.take k).map (Stats.start ∘ Period.record) = (later.take k).map Period.start :=
      List.map_congr_left fun q hq => (hstarted.own q (List.mem_of_mem_take hq)).1
    rw [hfold, hown]
    refine folded_starts (fun q hq => ?_) (hstarted.ordered.sublist (List.take_sublist _ _)) p hp
    exact hbegun.trans (hstarted.own q (List.mem_of_mem_take hq)).2
  · have hall : (later ++ [first]).take k = later ++ [first] := by
      refine List.take_of_length_le ?_
      rw [List.length_append, List.length_singleton]
      omega
    rw [hall] at hfold ⊢
    refine ⟨fun hright => ?_, fun h => by omega⟩
    have hstart := hright first List.getLast?_concat
    have hlate : record.start = 0 ∨ begun < record.start := by
      rw [hfold]
      refine folded_late fun n hn => ?_
      obtain ⟨p, hp, rfl⟩ := List.mem_map.mp hn
      obtain hp | hp := List.mem_append.mp hp
      · obtain ⟨hown, hpast⟩ := hstarted.own p hp
        refine .inr ?_
        show begun < p.record.start
        rw [hown]
        exact hpast
      · obtain rfl := List.mem_singleton.mp hp
        exact .inl hstarted.none.2
    have := hstarted.none.1
    omega

omit [Zero F] [Add F] [LinearOrder F] in
theorem Timed.endRight (hr : Timed begun t r) (k : ℕ) (record : Stats F)
    (hfold : record.stop = Ring.folded max 0 (((records r.2).take k).map Stats.stop)) :
    EndRight record (r.2.completed.take k) := by
  intro p hp
  have hown : (r.2.completed.take k).map (Stats.stop ∘ Period.record) = (r.2.completed.take k).map Period.stop :=
    List.map_congr_left fun q hq => (hr.stops.2 q (List.mem_of_mem_take hq)).2
  rw [hfold, take_records, List.map_map, hown]
  exact folded_stops (hr.stops.1.sublist (List.take_sublist _ _)) p hp

end Ends

/-! ### Runs -/

theorem run_kept (begun : ℕ) (calls : List (Call F)) : Kept (run begun calls) := by
  unfold run
  have hstart := initial_kept (F := F) begun
  generalize ((initial, ⟨[], [], begun⟩) : State F × History F) = r at hstart
  induction calls generalizing r with
  | nil => exact hstart
  | cons call calls ih => exact ih _ (step_kept hstart call)

theorem run_tallied {M : Type} [AddCommMonoid M] {φ : Stats F → M} (hφ : Additive φ) (begun : ℕ)
    (calls : List (Call F)) : Tallied φ calls (run begun calls) := by
  induction calls using List.reverseRecOn with
  | nil => exact ⟨rfl, hφ.zero, nofun⟩
  | append_singleton calls call ih =>
    rw [run, List.foldl_append]
    exact step_tallied hφ ih call

theorem calls_timed {begun t : ℕ} {r : State F × History F} (hr : Timed begun t r) {calls : List (Call F)}
    (hclock : Clock t calls) : ∃ t', Timed begun t' (calls.foldl step r) := by
  induction calls generalizing r t with
  | nil => exact ⟨t, hr⟩
  | cons call calls ih => exact ih (step_timed hr hclock.1 hclock.2.1) hclock.2.2

theorem run_timed {begun : ℕ} {calls : List (Call F)} (hclock : Clock begun calls) :
    ∃ t, Timed begun t (run begun calls) := by
  have hstart : Timed begun begun ((initial, ⟨[], [], begun⟩) : State F × History F) :=
    ⟨le_refl _, .inl rfl, le_refl _, .inl ⟨rfl, rfl, rfl⟩, List.Pairwise.nil, nofun⟩
  exact calls_timed hstart hclock

/-- **Main theorem.** In every run whose clock does not go back: each event is in one period, the records
count what they are to count and end where the latest period ends; the records of 5 and 15 minutes start
where the earliest period starts as soon as the first period is out of them, and the totals never do once
there is a period. -/
theorem windows {begun : ℕ} (hbegun : 0 < begun) {calls : List (Call F)} (hclock : Clock begun calls) :
    ((run begun calls).2.events ++ (run begun calls).2.completed.flatMap Period.events =
        (calls.map Call.counted).reverse) ∧
      (∀ k, CountsExact (fun s => s.count32 k) calls (run begun calls)) ∧
      (∀ k, CountsExact (fun s => s.count64 k) calls (run begun calls)) ∧
      (∀ k, CountsExact (fun s => (s.cpu k).total) calls (run begun calls)) ∧
      EndRight (run begun calls).1.fiveMin ((run begun calls).2.completed.take 5) ∧
      EndRight (run begun calls).1.fifteenMin ((run begun calls).2.completed.take 15) ∧
      EndRight (run begun calls).1.alltime (run begun calls).2.completed ∧
      (StartRight (run begun calls).1.fiveMin ((run begun calls).2.completed.take 5) ↔
        (run begun calls).2.completed.length = 0 ∨ 5 < (run begun calls).2.completed.length) ∧
      (StartRight (run begun calls).1.fifteenMin ((run begun calls).2.completed.take 15) ↔
        (run begun calls).2.completed.length = 0 ∨ 15 < (run begun calls).2.completed.length) ∧
      (StartRight (run begun calls).1.alltime (run begun calls).2.completed ↔
        (run begun calls).2.completed.length = 0) := by
  have hkept := run_kept begun calls
  obtain ⟨t, htimed⟩ := run_timed hclock
  have hevents := (run_tallied (additive_count32 .messagesTotal) begun calls).events
  have hcount32 := fun k => counts_exact (additive_count32 k) hkept (run_tallied (additive_count32 k) begun calls)
  have hcount64 := fun k => counts_exact (additive_count64 k) hkept (run_tallied (additive_count64 k) begun calls)
  have hcpu := fun k => counts_exact (additive_cpu k) hkept (run_tallied (additive_cpu k) begun calls)
  generalize run begun calls = r at *
  have hall : (records r.2).take r.2.completed.length = records r.2 :=
    List.take_of_length_le (by rw [records, List.length_map])
  have hstart := fun a b : Stats F => (rfl : (addStats a b).start = addStart a.start b.start)
  have hmax : ∀ a : ℕ, max 0 a = a := fun a => Nat.zero_max a
  have hzero : (zeroStats : Stats F).start = 0 := rfl
  have hstop : (zeroStats : Stats F).stop = 0 := rfl
  refine ⟨hevents, hcount32, hcount64, hcpu, htimed.endRight 5 _ ?_, htimed.endRight 15 _ ?_, ?_,
    htimed.startRight_iff hbegun 5 _ ?_, htimed.startRight_iff hbegun 15 _ ?_, ?_⟩
  · exact hkept.fiveMin_fold max_comm max_assoc hstop addStats_stop hmax
  · exact hkept.fifteenMin_fold max_comm max_assoc hstop addStats_stop hmax
  · have hend := htimed.endRight r.2.completed.length r.1.alltime
    rw [hall, List.take_length] at hend
    exact hend (hkept.alltime_fold max_comm max_assoc hstop addStats_stop)
  · exact hkept.fiveMin_fold addStart_comm addStart_assoc hzero hstart addStart_zero
  · exact hkept.fifteenMin_fold addStart_comm addStart_assoc hzero hstart addStart_zero
  · have hright := htimed.startRight_iff hbegun r.2.completed.length r.1.alltime
    rw [hall, List.take_length] at hright
    rw [hright (hkept.alltime_fold addStart_comm addStart_assoc hzero hstart)]
    omega

/-- One message in every call. -/
def message (now : ℕ) : Call ℚ :=
  ⟨{ zeroStats with count32 := fun k => if k = .messagesTotal then 1 else 0 }, now, now⟩

/-- The first period of a process goes into the record of five minutes without its start. -/
theorem start_missing : Clock 1700000000000 [message 1700000000100, message 1700000060100] ∧
    ¬ StartRight (run 1700000000000 [message 1700000000100, message 1700000060100]).1.fiveMin
      ((run 1700000000000 [message 1700000000100, message 1700000060100]).2.completed.take 5) :=
  ⟨⟨by decide, le_refl _, by decide, le_refl _, trivial⟩, fun h => absurd (h _ rfl) (by decide)⟩

/-- A message a minute. -/
def minutes (n : ℕ) : List (Call ℚ) := (List.range n).map fun k => message (1700000000100 + 60000 * k)

/-- Of seven periods of a minute the first one has left the record of five minutes. -/
theorem windows_minutes : Clock 1700000000000 (minutes 8) ∧
    (run 1700000000000 (minutes 8)).2.completed.length = 7 ∧
    EndRight (run 1700000000000 (minutes 8)).1.fiveMin ((run 1700000000000 (minutes 8)).2.completed.take 5) ∧
    StartRight (run 1700000000000 (minutes 8)).1.fiveMin ((run 1700000000000 (minutes 8)).2.completed.take 5) := by
  have hclock : Clock 1700000000000 (minutes 8) := by
    simp [minutes, message, Clock, List.range_succ]
  have hperiods : (run 1700000000000 (minutes 8)).2.completed.length = 7 := by
    decide +kernel
  obtain ⟨-, -, -, -, hend, -, -, hstart, -⟩ := windows (by decide) hclock
  exact ⟨hclock, hperiods, hend, hstart.mpr (.inr (by rw [hperiods]; decide))⟩

end RbFeeder.Statistics
