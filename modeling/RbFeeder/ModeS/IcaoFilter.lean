import RbFeeder.ModeS.Message

/-! The filter of recently seen addresses, `icao_filter.c`.

Two open-addressed hash tables with linear probing; new addresses go to the
active one and a lookup consults both. -/
namespace RbFeeder.ModeS

/-- `EMPTY`. -/
def emptySlot : BitVec 32 := 0xFFFFFFFF

/-- `ICAO_FILTER_ADSB_NT`. -/
def icaoFilterAdsbNt : BitVec 32 := 1#32 <<< 25

/-- One round of the one-at-a-time hash: a byte added and mixed in. -/
def hashByte (hash byte : BitVec 32) : BitVec 32 :=
  let hash := hash + byte
  let hash := hash + hash <<< 10
  hash ^^^ hash >>> 6

instance instNeZeroSlots : NeZero 4096 := ⟨by decide⟩

/-- `icaoHash(a)`; the mask `ICAO_FILTER_SIZE - 1` is the reduction to `Fin 4096`. -/
def icaoHash (a : BitVec 32) : Fin 4096 :=
  let hash := hashByte 0#32 (a &&& 0xff)
  let hash := hashByte hash ((a >>> 8) &&& 0xff)
  let hash := hashByte hash ((a >>> 16) &&& 0xff)
  let hash := hash + hash <<< 3
  let hash := hash ^^^ hash >>> 11
  let hash := hash + hash <<< 15
  Fin.ofNat 4096 hash.toNat

/-- `icao_filter_a` or `icao_filter_b`. -/
abbrev IcaoTable := Vector (BitVec 32) 4096

structure IcaoFilter where
  icao_filter_a : IcaoTable
  icao_filter_b : IcaoTable
  /-- Whether `icao_filter_active` points to `icao_filter_a`. -/
  active_a : Bool

/-- `icaoFilterInit`. -/
def icaoFilterInit : IcaoFilter :=
  ⟨Vector.replicate 4096 emptySlot, Vector.replicate 4096 emptySlot, true⟩

/-- The probing loop of `icaoFilterTest` over one table, from slot `h`; it ends at
the latest when it is back at `h0`. With 4096 steps to go it always gets there. -/
def probe (table : IcaoTable) (addr : BitVec 32) (h0 : Fin 4096) : Nat → Fin 4096 → Fin 4096
  | 0, h => h
  | steps + 1, h =>
    if table[h] ≠ emptySlot ∧ table[h] ≠ addr then
      if h + 1 = h0 then h + 1 else probe table addr h0 steps (h + 1)
    else h

/-- `icaoFilterTest(addr)`. -/
def icaoFilterTest (filter : IcaoFilter) (addr : BitVec 32) : Bool :=
  let h0 := icaoHash addr
  filter.icao_filter_a[probe filter.icao_filter_a addr h0 4096 h0] == addr ||
    filter.icao_filter_b[probe filter.icao_filter_b addr h0 4096 h0] == addr

/-- `icao_filter_active`. -/
def IcaoFilter.active (filter : IcaoFilter) : IcaoTable :=
  if filter.active_a then filter.icao_filter_a else filter.icao_filter_b

def IcaoFilter.setActive (filter : IcaoFilter) (table : IcaoTable) : IcaoFilter :=
  if filter.active_a then { filter with icao_filter_a := table }
  else { filter with icao_filter_b := table }

/-- `icaoFilterAdd(addr)`. If the loop comes back to its start, that slot is not
empty, and nothing is stored. -/
def icaoFilterAdd (filter : IcaoFilter) (addr : BitVec 32) : IcaoFilter :=
  let h0 := icaoHash addr
  let h := probe filter.active addr h0 4096 h0
  if filter.active[h] = emptySlot then filter.setActive (filter.active.set h addr) else filter

/-- `MODES_ICAO_FILTER_TTL`. -/
def icaoFilterTTL : Nat := 60000

/-- The tables change places, and the active one is cleared. -/
def icaoFilterFlip (filter : IcaoFilter) : IcaoFilter :=
  if filter.active_a then
    { filter with icao_filter_b := Vector.replicate 4096 emptySlot, active_a := false }
  else { filter with icao_filter_a := Vector.replicate 4096 emptySlot, active_a := true }

/-- `icaoFilterExpire()` at time `now`; `next_flip` is its static variable. -/
def icaoFilterExpire (now next_flip : Nat) (filter : IcaoFilter) : IcaoFilter × Nat :=
  if now ≥ next_flip then (icaoFilterFlip filter, now + icaoFilterTTL) else (filter, next_flip)

/-! ### A table as a function of the slot -/

def IcaoTable.slots (table : IcaoTable) (h : Fin 4096) : BitVec 32 := table.get h

theorem slots_eq (table : IcaoTable) (h : Fin 4096) : table.slots h = table[h] := rfl

theorem slots_set (table : IcaoTable) (h : Fin 4096) (addr : BitVec 32) :
    IcaoTable.slots (table.set h addr) = Function.update (IcaoTable.slots table) h addr := by
  funext h'
  by_cases heq : h' = h
  · subst heq
    simp [slots_eq]
  · have hne : (h : Nat) ≠ h' := fun hval => heq (Fin.ext hval.symm)
    simp [slots_eq, heq, Vector.getElem_set_ne _ _ hne]

theorem slots_ite (table : IcaoTable) (addr : BitVec 32) (h : Fin 4096) :
    IcaoTable.slots (if table[h] = emptySlot then table.set h addr else table) =
      if table.slots h = emptySlot then Function.update table.slots h addr else table.slots := by
  by_cases hempty : table[h] = emptySlot
  · rw [if_pos hempty, slots_set]
    exact (if_pos hempty).symm
  · rw [if_neg hempty]
    exact (if_neg hempty).symm

end RbFeeder.ModeS
