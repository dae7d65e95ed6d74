import Mathlib

/-! Open addressing with linear probing, in a table of `n` slots.

A probe for a key starts at the key's hash and goes on, around the end, to the first
slot that is empty or holds the key; back at the start it gives up
(`probe_cases`). Nothing is ever removed, so a key is reached from its hash through
slots that are in use (`Chained`), and a probe finds exactly the keys that the table
holds (`table_probe_eq_iff`). Storing a key keeps this (`Chained.store`) and changes
the set of keys as it should: only a table full of other keys takes no more
(`entries_store`). -/
namespace Probing
variable {κ : Type*} [DecidableEq κ] {n : Nat} [NeZero n]

/-- The slot `d` after `h`, around the end. -/
def slot (h : Fin n) (d : Nat) : Fin n := ⟨(h + d) % n, Nat.mod_lt _ (NeZero.pos n)⟩

@[simp] theorem slot_zero (h : Fin n) : slot h 0 = h := by
  ext
  simp [slot, Nat.mod_eq_of_lt h.isLt]

theorem slot_succ (h : Fin n) (d : Nat) : slot h (d + 1) = slot h d + 1 := by
  ext
  simp [slot, Fin.val_add, Nat.add_assoc]

theorem slot_inj {h : Fin n} {d e : Nat} (hd : d < n) (he : e < n) (heq : slot h d = slot h e) :
    d = e := by
  have hval : (h + d) % n = (h + e) % n := congrArg Fin.val heq
  have hmod : d % n = e % n := Nat.ModEq.add_left_cancel' _ hval
  rwa [Nat.mod_eq_of_lt hd, Nat.mod_eq_of_lt he] at hmod

/-- Every slot is on the way. -/
theorem exists_slot (h h' : Fin n) : ∃ d < n, slot h d = h' := by
  refine ⟨(h' + (n - h)) % n, Nat.mod_lt _ (NeZero.pos n), ?_⟩
  ext
  have hlt := h.isLt
  simp only [slot, Nat.add_mod_mod]
  rw [show (h : Nat) + (h' + (n - h)) = h' + n by omega, Nat.add_mod_right,
    Nat.mod_eq_of_lt h'.isLt]

/-! ### The probe -/

section Probe
variable (table : Fin n → κ) (empty key : κ)

/-- The loop from slot `h` on, with so many steps to go; back at `h0` it ends. -/
def probe (h0 : Fin n) : Nat → Fin n → Fin n
  | 0, h => h
  | steps + 1, h =>
    if table h ≠ empty ∧ table h ≠ key then
      if h + 1 = h0 then h + 1 else probe h0 steps (h + 1)
    else h

/-- The loop without a bound: from `h` it ends in the last slot after so many steps. -/
inductive Probes (h0 : Fin n) : Fin n → Nat → Fin n → Prop
  | found {h : Fin n} : ¬ (table h ≠ empty ∧ table h ≠ key) → Probes h0 h 0 h
  | back {h : Fin n} : table h ≠ empty ∧ table h ≠ key → h + 1 = h0 → Probes h0 h 1 (h + 1)
  | next {h h' : Fin n} {steps : Nat} : table h ≠ empty ∧ table h ≠ key → h + 1 ≠ h0 →
      Probes h0 (h + 1) steps h' → Probes h0 h (steps + 1) h'

/-- The loop from the slot `d` after the start. -/
theorem probe_from (h0 : Fin n) (steps d : Nat) (hn : d + steps = n) (hsteps : 0 < steps)
    (hd : ∀ e < d, table (slot h0 e) ≠ empty ∧ table (slot h0 e) ≠ key) :
    (∃ k ≤ steps, Probes table empty key h0 (slot h0 d) k
        (probe table empty key h0 steps (slot h0 d))) ∧
      ((∃ e < n, (∀ e' < e, table (slot h0 e') ≠ empty ∧ table (slot h0 e') ≠ key) ∧
          (table (slot h0 e) = empty ∨ table (slot h0 e) = key) ∧
          probe table empty key h0 steps (slot h0 d) = slot h0 e) ∨
        ((∀ h, table h ≠ empty ∧ table h ≠ key) ∧
          probe table empty key h0 steps (slot h0 d) = h0)) := by
  induction steps generalizing d with
  | zero => omega
  | succ steps ih =>
    rw [probe]
    by_cases huse : table (slot h0 d) ≠ empty ∧ table (slot h0 d) ≠ key
    · have hd' : ∀ e < d + 1, table (slot h0 e) ≠ empty ∧ table (slot h0 e) ≠ key := by
        intro e he
        rcases Nat.lt_succ_iff_lt_or_eq.mp he with he | rfl
        · exact hd e he
        · exact huse
      rw [if_pos huse]
      by_cases hback : slot h0 d + 1 = h0
      · rw [if_pos hback]
        have hlast : d + 1 = n := by
          by_contra hne
          rw [← slot_succ] at hback
          have := slot_inj (by omega) (NeZero.pos n) (hback.trans (slot_zero h0).symm)
          omega
        refine ⟨⟨1, by omega, .back huse hback⟩, .inr ⟨fun h => ?_, hback⟩⟩
        obtain ⟨e, he, rfl⟩ := exists_slot h0 h
        exact hd' e (by omega)
      · rw [if_neg hback, ← slot_succ]
        have hmore : 0 < steps := by
          by_contra hnone
          refine hback ?_
          rw [← slot_succ, show d + 1 = n by omega]
          ext
          simp [slot, Nat.mod_eq_of_lt h0.isLt]
        obtain ⟨⟨k, hk, hprobes⟩, hcases⟩ := ih (d + 1) (by omega) hmore hd'
        rw [slot_succ] at hprobes
        exact ⟨⟨k + 1, by omega, .next huse hback (by rwa [slot_succ])⟩, hcases⟩
    · rw [if_neg huse]
      refine ⟨⟨0, Nat.zero_le _, .found huse⟩, .inl ⟨d, by omega, hd, ?_, rfl⟩⟩
      by_cases hempty : table (slot h0 d) = empty
      · exact .inl hempty
      · exact .inr (by_contra fun hkey => huse ⟨hempty, hkey⟩)

/-- **A probe ends** after at most as many steps as there are slots. -/
theorem probes_probe (h0 : Fin n) :
    ∃ k ≤ n, Probes table empty key h0 h0 k (probe table empty key h0 n h0) := by
  have := (probe_from table empty key h0 n 0 (by omega) (NeZero.pos n) (by omega)).1
  rwa [slot_zero] at this

/-- **Where a probe ends**: in the first slot that is empty or holds the key, or back
at the start if there is none. -/
theorem probe_cases (h0 : Fin n) :
    (∃ e < n, (∀ e' < e, table (slot h0 e') ≠ empty ∧ table (slot h0 e') ≠ key) ∧
        (table (slot h0 e) = empty ∨ table (slot h0 e) = key) ∧
        probe table empty key h0 n h0 = slot h0 e) ∨
      ((∀ h, table h ≠ empty ∧ table h ≠ key) ∧ probe table empty key h0 n h0 = h0) := by
  have := (probe_from table empty key h0 n 0 (by omega) (NeZero.pos n) (by omega)).2
  rwa [slot_zero] at this

end Probe

/-! ### The keys in a table -/

section Keys
variable {hash : κ → Fin n} {empty key : κ} {table : Fin n → κ}

/-- Every key is reached from its hash through slots in use, none of them its own. -/
def Chained (hash : κ → Fin n) (empty : κ) (table : Fin n → κ) : Prop :=
  ∀ h, table h ≠ empty → ∃ d < n, slot (hash (table h)) d = h ∧
    ∀ e < d, table (slot (hash (table h)) e) ≠ empty ∧ table (slot (hash (table h)) e) ≠ table h

omit [DecidableEq κ] in
theorem chained_empty (hash : κ → Fin n) (empty : κ) : Chained hash empty fun _ => empty :=
  fun _ h => absurd rfl h

omit [DecidableEq κ] in
/-- No key is in the table twice. -/
theorem Chained.inj (hc : Chained hash empty table) {h h' : Fin n} (hh : table h ≠ empty)
    (heq : table h = table h') : h = h' := by
  obtain ⟨d, hd, hslot, hbefore⟩ := hc h hh
  obtain ⟨d', hd', hslot', hbefore'⟩ := hc h' (heq ▸ hh)
  rw [← heq] at hslot' hbefore'
  rcases lt_trichotomy d d' with hlt | rfl | hlt
  · exact absurd (by rw [hslot]) (hbefore' d hlt).2
  · exact hslot.symm.trans hslot'
  · exact absurd (by rw [hslot', heq]) (hbefore d' hlt).2

/-- **A probe finds a key exactly if the table holds it.** -/
theorem table_probe_eq_iff (hc : Chained hash empty table) (hkey : key ≠ empty) :
    table (probe table empty key (hash key) n (hash key)) = key ↔ ∃ h, table h = key := by
  refine ⟨fun h => ⟨_, h⟩, fun ⟨h, hh⟩ => ?_⟩
  obtain ⟨d, hd, hslot, hbefore⟩ := hc h (hh ▸ hkey)
  rw [hh] at hslot hbefore
  rcases probe_cases table empty key (hash key) with ⟨e, he, hpast, hstop, hprobe⟩ | ⟨hfull, -⟩
  · rcases lt_trichotomy e d with hlt | rfl | hlt
    · rcases hstop with hempty | hfound
      · exact absurd hempty (hbefore e hlt).1
      · exact absurd hfound (hbefore e hlt).2
    · rw [hprobe, hslot, hh]
    · exact absurd (by rw [hslot, hh]) (hpast d hlt).2
  · exact absurd hh (hfull h).2

/-- A key is put where its probe ends, if that slot is empty. -/
def store (hash : κ → Fin n) (empty key : κ) (table : Fin n → κ) : Fin n → κ :=
  let h := probe table empty key (hash key) n (hash key)
  if table h = empty then Function.update table h key else table

/-- What storing does: nothing, because the key is there or the table is full, or it
fills one empty slot. -/
theorem store_cases (hash : κ → Fin n) (empty key : κ) (table : Fin n → κ) :
    (store hash empty key table = table ∧
        ((∃ h, table h = key) ∨ ∀ h, table h ≠ empty ∧ table h ≠ key)) ∨
      ∃ d < n, table (slot (hash key) d) = empty ∧
        (∀ e < d, table (slot (hash key) e) ≠ empty ∧ table (slot (hash key) e) ≠ key) ∧
        store hash empty key table = Function.update table (slot (hash key) d) key := by
  unfold store
  rcases probe_cases table empty key (hash key) with ⟨d, hd, hpast, hstop, hprobe⟩ | ⟨hfull, hprobe⟩
  · rw [hprobe]
    by_cases hempty : table (slot (hash key) d) = empty
    · exact .inr ⟨d, hd, hempty, hpast, if_pos hempty⟩
    · exact .inl ⟨if_neg hempty, .inl ⟨_, hstop.resolve_left hempty⟩⟩
  · rw [hprobe]
    exact .inl ⟨if_neg (hfull _).1, .inr hfull⟩

/-- Storing leaves every key where it is. -/
theorem store_of_ne (hash : κ → Fin n) (empty key : κ) (table : Fin n → κ) {h : Fin n}
    (hh : table h ≠ empty) : store hash empty key table h = table h := by
  rcases store_cases hash empty key table with ⟨hsame, -⟩ | ⟨d, -, hempty, -, hstore⟩
  · rw [hsame]
  · rw [hstore, Function.update_of_ne]
    intro hgiven
    obtain rfl := hgiven
    exact hh hempty

theorem Chained.store (hc : Chained hash empty table) (key : κ) :
    Chained hash empty (store hash empty key table) := by
  rcases store_cases hash empty key table with ⟨hsame, -⟩ | ⟨d, hd, hempty, hpast, hstore⟩
  · rwa [hsame]
  · intro h hh
    -- a slot in use is not the one that is filled
    have hkept : ∀ h', table h' ≠ empty → Probing.store hash empty key table h' = table h' :=
      fun h' => store_of_ne hash empty key table
    by_cases hnew : h = slot (hash key) d
    · subst hnew
      have hkey : Probing.store hash empty key table (slot (hash key) d) = key := by
        rw [hstore, Function.update_self]
      rw [hkey]
      refine ⟨d, hd, rfl, fun e he => ?_⟩
      rw [hkept _ (hpast e he).1]
      exact hpast e he
    · have hold : Probing.store hash empty key table h = table h := by
        rw [hstore, Function.update_of_ne hnew]
      rw [hold] at hh ⊢
      obtain ⟨d', hd', hslot, hbefore⟩ := hc h hh
      refine ⟨d', hd', hslot, fun e he => ?_⟩
      rw [hkept _ (hbefore e he).1]
      exact hbefore e he

/-- The keys that the table holds. -/
def entries (empty : κ) (table : Fin n → κ) : Finset κ := (Finset.univ.image table).erase empty

omit [NeZero n] in
theorem mem_entries {k : κ} : k ∈ entries empty table ↔ k ≠ empty ∧ ∃ h, table h = k := by
  simp [entries]

omit [NeZero n] in
@[simp] theorem entries_empty (empty : κ) : entries empty (fun _ : Fin n => empty) = ∅ := by
  ext k
  simp only [mem_entries, Finset.notMem_empty, iff_false, not_and, not_exists]
  exact fun hk _ h => hk h.symm

/-- A table is full when it holds as many keys as it has slots. -/
theorem full_iff (hc : Chained hash empty table) :
    (∀ h, table h ≠ empty) ↔ (entries empty table).card = n := by
  constructor
  · intro hfull
    have hinj : Function.Injective table := fun h h' heq => hc.inj (hfull h) heq
    have hnone : empty ∉ Finset.univ.image table := by
      simpa using hfull
    rw [entries, Finset.erase_eq_of_notMem hnone, Finset.card_image_of_injective _ hinj,
      Finset.card_univ, Fintype.card_fin]
  · intro hcard h hempty
    have hmem : empty ∈ Finset.univ.image table := Finset.mem_image.mpr ⟨h, Finset.mem_univ h, hempty⟩
    have hle : (Finset.univ.image table).card ≤ n := by
      simpa using Finset.card_image_le (s := Finset.univ) (f := table)
    rw [entries, Finset.card_erase_of_mem hmem] at hcard
    have := NeZero.pos n
    omega

/-- **What storing does to the keys**: the key is added, unless the table is full of
others. -/
theorem entries_store (hc : Chained hash empty table) (hkey : key ≠ empty) :
    entries empty (store hash empty key table) =
      if (entries empty table).card = n then entries empty table
      else insert key (entries empty table) := by
  rcases store_cases hash empty key table with ⟨hsame, hwhy⟩ | ⟨d, -, hempty, -, hstore⟩
  · rw [hsame]
    split
    · rfl
    · next hroom =>
      rcases hwhy with ⟨h, hh⟩ | hfull
      · exact (Finset.insert_eq_of_mem (mem_entries.mpr ⟨hkey, h, hh⟩)).symm
      · exact absurd ((full_iff hc).mp fun h => (hfull h).1) hroom
  · rw [if_neg fun hcard => (full_iff hc).mpr hcard _ hempty]
    ext k
    rw [Finset.mem_insert, mem_entries, mem_entries]
    constructor
    · intro hgiven
      obtain ⟨hk, h, hh⟩ := hgiven
      by_cases hnew : h = slot (hash key) d
      · rw [hstore, hnew, Function.update_self] at hh
        exact .inl hh.symm
      · rw [hstore, Function.update_of_ne hnew] at hh
        exact .inr ⟨hk, h, hh⟩
    · intro hgiven
      obtain rfl | ⟨hk, h, hh⟩ := hgiven
      · exact ⟨hkey, _, by rw [hstore, Function.update_self]⟩
      · exact ⟨hk, h, by rw [store_of_ne _ _ _ _ (hh ▸ hk), hh]⟩

end Keys

end Probing
