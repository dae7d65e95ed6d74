import RbFeeder.ModeS.IcaoFilter
import RbFeeder.Lib.Probing

/-! Which addresses the filter knows.

Both tables are open-addressed tables to which addresses are only added, so the
library's results apply to each. The filter is to be the set of the addresses that
were added since the last flip and the set of those added in the period before
(`Recent`); `icaoFilter_refines` says that it is, over any run, and that a lookup
finds exactly the addresses in the two sets. -/
namespace RbFeeder.ModeS
open Probing

theorem probe_eq (table : IcaoTable) (addr : BitVec 32) (h0 : Fin 4096) (steps : Nat) (h : Fin 4096) :
    probe table addr h0 steps h = Probing.probe table.slots emptySlot addr h0 steps h := by
  induction steps generalizing h with
  | zero => rfl
  | succ steps ih =>
    rw [ModeS.probe, Probing.probe, ih]
    change (if table.slots h ≠ emptySlot ∧ table.slots h ≠ addr then _ else h) = _
    by_cases huse : table.slots h ≠ emptySlot ∧ table.slots h ≠ addr
    · rw [if_pos huse]
    · rw [if_neg huse]

theorem slots_replicate : IcaoTable.slots (Vector.replicate 4096 emptySlot) = fun _ => emptySlot := by
  funext h
  simp [slots_eq]

/-- The addresses in a table. -/
def IcaoTable.addresses (table : IcaoTable) : Finset (BitVec 32) := entries emptySlot table.slots

/-- A table that `icaoFilterAdd` can have filled. -/
def IcaoTable.Chained (table : IcaoTable) : Prop := Probing.Chained icaoHash emptySlot table.slots

/-! ### One table -/

theorem chained_replicate : IcaoTable.Chained (Vector.replicate 4096 emptySlot) := by
  rw [IcaoTable.Chained, slots_replicate]
  exact chained_empty icaoHash emptySlot

theorem addresses_replicate : IcaoTable.addresses (Vector.replicate 4096 emptySlot) = ∅ := by
  rw [IcaoTable.addresses, slots_replicate, entries_empty]

/-- A lookup in one table. -/
theorem lookup_iff {table : IcaoTable} (hc : table.Chained) {addr : BitVec 32}
    (haddr : addr ≠ emptySlot) :
    table[probe table addr (icaoHash addr) 4096 (icaoHash addr)] = addr ↔ addr ∈ table.addresses := by
  rw [IcaoTable.addresses, mem_entries, and_iff_right haddr]
  change table.slots (probe table addr (icaoHash addr) 4096 (icaoHash addr)) = addr ↔ _
  rw [probe_eq]
  exact table_probe_eq_iff hc haddr

/-- What `icaoFilterAdd` does to the active table. -/
def IcaoTable.add (table : IcaoTable) (addr : BitVec 32) : IcaoTable :=
  let h := probe table addr (icaoHash addr) 4096 (icaoHash addr)
  if table[h] = emptySlot then table.set h addr else table

theorem slots_add (table : IcaoTable) (addr : BitVec 32) :
    (table.add addr).slots = store icaoHash emptySlot addr table.slots := by
  unfold store
  rw [← probe_eq]
  exact slots_ite table addr _

theorem IcaoTable.Chained.add {table : IcaoTable} (hc : table.Chained) (addr : BitVec 32) :
    (table.add addr).Chained := by
  rw [IcaoTable.Chained, slots_add]
  exact Probing.Chained.store hc addr

theorem addresses_add {table : IcaoTable} (hc : table.Chained) {addr : BitVec 32}
    (haddr : addr ≠ emptySlot) :
    (table.add addr).addresses =
      if table.addresses.card = 4096 then table.addresses else insert addr table.addresses := by
  rw [IcaoTable.addresses, slots_add]
  exact entries_store hc haddr

/-! ### The two tables -/

/-- The table that is not active. -/
def IcaoFilter.inactive (filter : IcaoFilter) : IcaoTable :=
  if filter.active_a then filter.icao_filter_b else filter.icao_filter_a

theorem icaoFilterAdd_eq (filter : IcaoFilter) (addr : BitVec 32) :
    icaoFilterAdd filter addr = filter.setActive (filter.active.add addr) := by
  have hsame : filter.setActive filter.active = filter := by
    unfold IcaoFilter.setActive IcaoFilter.active
    split <;> rfl
  have hif : ∀ (p : Prop) [Decidable p] (table : IcaoTable),
      (if p then filter.setActive table else filter) =
        filter.setActive (if p then table else filter.active) := by
    intro p _ table
    split
    · rfl
    · exact hsame.symm
  exact hif _ _

@[simp] theorem active_setActive (filter : IcaoFilter) (table : IcaoTable) :
    (filter.setActive table).active = table := by
  unfold IcaoFilter.setActive IcaoFilter.active
  split <;> simp [*]

@[simp] theorem inactive_setActive (filter : IcaoFilter) (table : IcaoTable) :
    (filter.setActive table).inactive = filter.inactive := by
  unfold IcaoFilter.setActive IcaoFilter.inactive
  split <;> simp [*]

@[simp] theorem active_flip (filter : IcaoFilter) :
    (icaoFilterFlip filter).active = Vector.replicate 4096 emptySlot := by
  unfold icaoFilterFlip IcaoFilter.active
  split <;> rfl

@[simp] theorem inactive_flip (filter : IcaoFilter) : (icaoFilterFlip filter).inactive = filter.active := by
  unfold icaoFilterFlip IcaoFilter.inactive IcaoFilter.active
  split <;> simp [*]

/-- A lookup consults both tables. -/
theorem icaoFilterTest_iff {filter : IcaoFilter} (hactive : filter.active.Chained)
    (hinactive : filter.inactive.Chained) {addr : BitVec 32} (haddr : addr ≠ emptySlot) :
    icaoFilterTest filter addr = true ↔
      addr ∈ filter.active.addresses ∨ addr ∈ filter.inactive.addresses := by
  have hboth : filter.icao_filter_a.Chained ∧ filter.icao_filter_b.Chained := by
    unfold IcaoFilter.active at hactive
    unfold IcaoFilter.inactive at hinactive
    split at hactive <;> simp_all
  rw [icaoFilterTest, Bool.or_eq_true, beq_iff_eq, beq_iff_eq, lookup_iff hboth.1 haddr,
    lookup_iff hboth.2 haddr, IcaoFilter.active, IcaoFilter.inactive]
  split
  · rfl
  · exact or_comm

/-! ### Runs -/

/-- An address that can be stored. -/
abbrev IcaoAddress := {addr : BitVec 32 // addr ≠ emptySlot}

/-- A call of one of the three functions. -/
inductive FilterCall
  | add (addr : IcaoAddress)
  | test (addr : IcaoAddress)
  | expire (now : Nat)

/-- The filter and the static variable of `icaoFilterExpire`. -/
structure FilterState where
  filter : IcaoFilter
  next_flip : Nat

def FilterState.init : FilterState := ⟨icaoFilterInit, 0⟩

def FilterState.step (s : FilterState) : FilterCall → FilterState
  | .add addr => { s with filter := icaoFilterAdd s.filter addr }
  | .test _ => s
  | .expire now =>
    let (filter, next_flip) := icaoFilterExpire now s.next_flip s.filter
    ⟨filter, next_flip⟩

/-- What the filter is for: the addresses stored since the last flip, and in the
period before it. A period has room for so many addresses. -/
structure Recent where
  current : Finset (BitVec 32)
  preceding : Finset (BitVec 32)
  next_flip : Nat

def Recent.init : Recent := ⟨∅, ∅, 0⟩

def Recent.step (r : Recent) : FilterCall → Recent
  | .add addr =>
    { r with current := if r.current.card = 4096 then r.current else insert addr.val r.current }
  | .test _ => r
  | .expire now => if now ≥ r.next_flip then ⟨∅, r.current, now + icaoFilterTTL⟩ else r

/-- The filter's tables hold the recent addresses. -/
structure Holds (s : FilterState) (r : Recent) : Prop where
  chained_active : s.filter.active.Chained
  chained_inactive : s.filter.inactive.Chained
  current : s.filter.active.addresses = r.current
  preceding : s.filter.inactive.addresses = r.preceding
  next_flip : s.next_flip = r.next_flip

theorem Holds.step {s : FilterState} {r : Recent} (h : Holds s r) (call : FilterCall) :
    Holds (s.step call) (r.step call) := by
  cases call with
  | add addr =>
    refine ⟨?_, ?_, ?_, ?_, h.next_flip⟩ <;> simp only [FilterState.step, icaoFilterAdd_eq,
      active_setActive, inactive_setActive]
    · exact h.chained_active.add addr
    · exact h.chained_inactive
    · rw [addresses_add h.chained_active addr.2, h.current]
      rfl
    · exact h.preceding
  | test addr => exact h
  | expire now =>
    simp only [FilterState.step, Recent.step, icaoFilterExpire, h.next_flip]
    split
    · refine ⟨?_, ?_, ?_, ?_, rfl⟩ <;> simp only [active_flip, inactive_flip]
      · exact chained_replicate
      · exact h.chained_active
      · exact addresses_replicate
      · exact h.current
    · exact ⟨h.chained_active, h.chained_inactive, h.current, h.preceding, rfl⟩

theorem holds_init : Holds FilterState.init Recent.init where
  chained_active := chained_replicate
  chained_inactive := chained_replicate
  current := addresses_replicate
  preceding := addresses_replicate
  next_flip := rfl

/-- Whatever the calls, the tables hold the recent addresses. -/
theorem Holds.run {s : FilterState} {r : Recent} (h : Holds s r) (calls : List FilterCall) :
    Holds (calls.foldl FilterState.step s) (calls.foldl Recent.step r) := by
  induction calls generalizing s r with
  | nil => exact h
  | cons call calls ih => exact ih (h.step call)

/-- **The filter knows the recent addresses**, whatever the calls.

A lookup finds the addresses stored in the current or the preceding period. An
address that is added is in the current period's set unless that is full of others.
What is in a slot stays there, and no address is in two slots of a table. Every
probe ends within 4096 steps, and where the functions take it to end. -/
theorem icaoFilter_refines (calls : List FilterCall) :
    let s := calls.foldl FilterState.step .init
    let r := calls.foldl Recent.step .init
    (∀ addr : IcaoAddress,
        icaoFilterTest s.filter addr = true ↔ addr.val ∈ r.current ∨ addr.val ∈ r.preceding) ∧
      (∀ addr : IcaoAddress, addr.val ∉ (r.step (.add addr)).current ↔
        r.current.card = 4096 ∧ addr.val ∉ r.current) ∧
      (∀ (addr : BitVec 32) (h : Fin 4096), s.filter.active.slots h ≠ emptySlot →
        (icaoFilterAdd s.filter addr).active.slots h = s.filter.active.slots h) ∧
      (∀ h h' : Fin 4096, s.filter.active.slots h ≠ emptySlot →
        s.filter.active.slots h = s.filter.active.slots h' → h = h') ∧
      ∀ (table : IcaoTable) (addr : BitVec 32) (h0 : Fin 4096),
        ∃ k ≤ 4096, Probes table.slots emptySlot addr h0 h0 k (probe table addr h0 4096 h0) := by
  intro s r
  have hholds : Holds s r := holds_init.run calls
  refine ⟨fun addr => ?_, fun addr => ?_, fun addr h hused => ?_, fun h h' hused heq => ?_,
    fun table addr h0 => ?_⟩
  · rw [icaoFilterTest_iff hholds.chained_active hholds.chained_inactive addr.2, hholds.current,
      hholds.preceding]
  · simp only [Recent.step]
    split
    · next hfull => rw [and_iff_right hfull]
    · next hroom => simp [hroom]
  · rw [icaoFilterAdd_eq, active_setActive]
    have hkept := store_of_ne icaoHash emptySlot addr s.filter.active.slots hused
    rw [← slots_add] at hkept
    exact hkept
  · exact hholds.chained_active.inj hused heq
  · rw [probe_eq]
    exact probes_probe table.slots emptySlot addr h0

end RbFeeder.ModeS
