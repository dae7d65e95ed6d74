import RbFeeder.ModeS.ErrorTable
import RbFeeder.ModeS.Distance

/-! What the error tables contain.

An error pattern is an ascending list of bit positions. The enumeration of
`prepareSubtable` is the list `patterns` of all of them, each turned into its
entry; distance six makes their syndromes distinct, so nothing is dropped as a
duplicate, and the collision flagging marks exactly the entries whose syndrome a
heavier pattern shares (`flagCollisions_eq`). `mem_errorTable` states the result,
and the two `diagnose` theorems read it off `modesChecksumDiagnose`. -/
namespace RbFeeder.ModeS
open XorSum

/-! ### Error patterns -/

/-- The nonempty ascending lists of at most `budget` positions in
`[startbit, endbit)`, in the order the loops visit them. -/
def patterns (startbit endbit budget : Nat) : List (List Nat) :=
  if budget = 0 then []
  else if startbit < endbit then
    ([] :: patterns (startbit + 1) endbit (budget - 1)).map (startbit :: ·) ++
      patterns (startbit + 1) endbit budget
  else []
termination_by endbit - startbit

structure IsPattern (startbit endbit budget : Nat) (l : List Nat) : Prop where
  nonempty : l ≠ []
  ascending : l.Pairwise (· < ·)
  start : ∀ i ∈ l, startbit ≤ i
  inside : ∀ i ∈ l, i < endbit
  light : l.length ≤ budget

theorem IsPattern.cons_iff (startbit endbit budget : Nat) (l : List Nat) :
    IsPattern startbit endbit (budget + 1) (startbit :: l) ↔
      startbit < endbit ∧ (l = [] ∨ IsPattern (startbit + 1) endbit budget l) := by
  constructor
  · intro h
    refine ⟨h.inside startbit (by simp), ?_⟩
    obtain ⟨hhead, htail⟩ := List.pairwise_cons.mp h.ascending
    by_cases hl : l = []
    · exact .inl hl
    · exact .inr ⟨hl, htail, hhead, fun i hi => h.inside i (by simp [hi]), by simpa using h.light⟩
  · intro hgiven
    obtain ⟨hlt, rfl | h⟩ := hgiven
    · exact ⟨by simp, by simp, by simp, by simpa using hlt, by simp⟩
    · refine ⟨by simp, List.pairwise_cons.mpr ⟨h.start, h.ascending⟩, ?_, ?_, by simpa using h.light⟩
      · intro i hi
        rcases List.mem_cons.mp hi with rfl | hi
        · exact Nat.le_refl _
        · have := h.start i hi
          omega
      · intro i hi
        rcases List.mem_cons.mp hi with rfl | hi
        · exact hlt
        · exact h.inside i hi

theorem IsPattern.succ_iff (startbit endbit budget : Nat) (l : List Nat) :
    IsPattern startbit endbit budget l ↔
      IsPattern (startbit + 1) endbit budget l ∨
        (IsPattern startbit endbit budget l ∧ ∃ l', l = startbit :: l') := by
  constructor
  · intro h
    cases l with
    | nil => exact absurd rfl h.nonempty
    | cons i l' =>
      obtain ⟨hhead, -⟩ := List.pairwise_cons.mp h.ascending
      have hi := h.start i (by simp)
      by_cases he : i = startbit
      · exact .inr ⟨h, l', by rw [he]⟩
      · refine .inl ⟨h.nonempty, h.ascending, ?_, h.inside, h.light⟩
        intro j hj
        rcases List.mem_cons.mp hj with rfl | hj
        · omega
        · have := hhead j hj
          omega
  · intro hgiven
    obtain h | ⟨h, -⟩ := hgiven
    · exact ⟨h.nonempty, h.ascending, fun i hi => Nat.le_of_succ_le (h.start i hi), h.inside, h.light⟩
    · exact h

theorem mem_patterns (startbit endbit budget : Nat) (l : List Nat) :
    l ∈ patterns startbit endbit budget ↔ IsPattern startbit endbit budget l := by
  fun_induction patterns startbit endbit budget generalizing l with
  | case1 =>
    refine ⟨fun h => by simp at h, fun h => absurd ?_ h.nonempty⟩
    exact List.length_eq_zero_iff.mp (Nat.le_zero.mp h.light)
  | case2 startbit budget hb hlt ih₁ ih₂ =>
    obtain ⟨n, rfl⟩ := Nat.exists_eq_succ_of_ne_zero hb
    rw [Nat.succ_sub_one] at ih₁
    rw [List.mem_append, List.mem_map, ih₂, IsPattern.succ_iff startbit, or_comm]
    apply or_congr Iff.rfl
    constructor
    · intro hgiven
      obtain ⟨l', hl', rfl⟩ := hgiven
      refine ⟨(IsPattern.cons_iff ..).mpr ⟨hlt, ?_⟩, l', rfl⟩
      exact (List.mem_cons.mp hl').imp_right (ih₁ l').mp
    · intro hgiven
      obtain ⟨h, l', rfl⟩ := hgiven
      refine ⟨l', List.mem_cons.mpr ?_, rfl⟩
      exact ((IsPattern.cons_iff ..).mp h).2.imp_right (ih₁ l').mpr
  | case3 startbit budget hb hlt =>
    refine ⟨fun h => by simp at h, fun h => absurd ?_ h.nonempty⟩
    apply List.eq_nil_iff_forall_not_mem.mpr
    intro i hi
    have := h.start i hi
    have := h.inside i hi
    omega

theorem nodup_patterns (startbit endbit budget : Nat) : (patterns startbit endbit budget).Nodup := by
  fun_induction patterns startbit endbit budget with
  | case1 => exact List.nodup_nil
  | case2 startbit budget hb hlt ih₁ ih₂ =>
    refine List.nodup_append.mpr ⟨?_, ih₂, ?_⟩
    · refine (List.nodup_cons.mpr ⟨fun h => ?_, ih₁⟩).map (List.cons_injective)
      exact ((mem_patterns ..).mp h).nonempty rfl
    · intro l hl _ hl' hgiven
      obtain rfl := hgiven
      obtain ⟨l', -, rfl⟩ := List.mem_map.mp hl
      have := ((mem_patterns ..).mp hl').start startbit (by simp)
      omega
  | case3 => exact List.nodup_nil

/-! ### Syndromes of patterns -/

/-- The syndrome of a pattern in a message whose bit 0 is bit `offset` of a long one. -/
def patternSyndrome (offset : Nat) (l : List Nat) : BitVec 32 :=
  l.foldl (fun acc i => acc ^^^ singleBitSyndrome (i + offset)) 0#32

theorem foldl_singleBitSyndrome (offset : Nat) (l : List Nat) (a : BitVec 32) :
    l.foldl (fun acc i => acc ^^^ singleBitSyndrome (i + offset)) a = a ^^^ patternSyndrome offset l := by
  unfold patternSyndrome
  induction l generalizing a with
  | nil => simp
  | cons i l ih =>
    rw [List.foldl_cons, List.foldl_cons, ih, ih (0#32 ^^^ _), BitVec.zero_xor, BitVec.xor_assoc]

theorem patternSyndrome_cons (offset i : Nat) (l : List Nat) :
    patternSyndrome offset (i :: l) = singleBitSyndrome (i + offset) ^^^ patternSyndrome offset l := by
  rw [patternSyndrome, List.foldl_cons, foldl_singleBitSyndrome, BitVec.zero_xor]

theorem patternSyndrome_eq_xorSum (offset : Nat) (l : List Nat) (h : l.Nodup) :
    patternSyndrome offset l = xorSum singleBitSyndrome (l.toFinset.image (· + offset)) := by
  rw [xorSum_image _ _ (add_left_injective offset), patternSyndrome,
    xorSum_toFinset (fun i => singleBitSyndrome (i + offset)) l h]
  simp [Function.comp_def]

theorem image_subset_range {offset bits : Nat} (hbits : bits + offset = 112) {l : List Nat}
    (h : ∀ i ∈ l, i < bits) : l.toFinset.image (· + offset) ⊆ Finset.range 112 := by
  intro j hj
  obtain ⟨i, hi, rfl⟩ := Finset.mem_image.mp hj
  have := h i (List.mem_toFinset.mp hi)
  exact Finset.mem_range.mpr (by omega)

theorem card_image_toFinset (offset : Nat) {l : List Nat} (h : l.Nodup) :
    (l.toFinset.image (· + offset)).card = l.length := by
  rw [Finset.card_image_of_injective _ (add_left_injective offset), List.toFinset_card_of_nodup h]

/-- Patterns of fewer than six bits in all are told apart by their syndromes. -/
theorem perm_of_patternSyndrome_eq {offset bits : Nat} (hbits : bits + offset = 112)
    {l l' : List Nat} (hn : l.Nodup) (hn' : l'.Nodup) (hl : ∀ i ∈ l, i < bits)
    (hl' : ∀ i ∈ l', i < bits) (hlen : l.length + l'.length < 6)
    (h : patternSyndrome offset l = patternSyndrome offset l') : l.Perm l' := by
  rw [patternSyndrome_eq_xorSum offset l hn, patternSyndrome_eq_xorSum offset l' hn'] at h
  have := syndrome_separated.eq_of_xorSum_eq (image_subset_range hbits hl)
    (image_subset_range hbits hl')
    (by rwa [card_image_toFinset offset hn, card_image_toFinset offset hn']) h
  exact List.perm_of_nodup_nodup_toFinset_eq hn hn'
    (Finset.image_injective (add_left_injective offset) this)

theorem IsPattern.nodup {startbit endbit budget : Nat} {l : List Nat}
    (h : IsPattern startbit endbit budget l) : l.Nodup :=
  h.ascending.imp Nat.ne_of_lt

theorem IsPattern.eq_of_perm {startbit endbit budget budget' : Nat} {l l' : List Nat}
    (h : IsPattern startbit endbit budget l) (h' : IsPattern startbit endbit budget' l')
    (hp : l.Perm l') : l = l' :=
  hp.eq_of_pairwise (fun _ _ _ _ h₁ h₂ => absurd h₁ (Nat.lt_asymm h₂)) h.ascending h'.ascending

theorem patternSyndrome_ne_zero {offset bits : Nat} (hbits : bits + offset = 112) {l : List Nat}
    (hne : l ≠ []) (hn : l.Nodup) (hl : ∀ i ∈ l, i < bits) (hlen : l.length < 6) :
    patternSyndrome offset l ≠ 0 := by
  intro h
  have := perm_of_patternSyndrome_eq hbits hn List.nodup_nil hl (by simp) (by simpa using hlen)
    (h.trans (show 0 = patternSyndrome offset [] from rfl))
  exact hne (List.perm_nil.mp this)

/-! ### Entries -/

def ErrorInfo.withBits (base : ErrorInfo) (offset error_bit : Nat) : List Nat → ErrorInfo
  | [] => base
  | i :: l => (base.withBit offset error_bit i).withBits offset (error_bit + 1) l

/-- The entry of an error pattern. -/
def entry (offset : Nat) (l : List Nat) : ErrorInfo := baseEntry.withBits offset 0 l

theorem prepareSubtable_eq (offset startbit endbit : Nat) (base : ErrorInfo)
    (error_bit max_errors : Nat) :
    prepareSubtable offset startbit endbit base error_bit max_errors =
      (patterns startbit endbit (max_errors - error_bit)).map (base.withBits offset error_bit) := by
  fun_induction prepareSubtable offset startbit endbit base error_bit max_errors with
  | case1 startbit base error_bit hge =>
    rw [patterns, if_pos (by omega)]
    rfl
  | case2 startbit base error_bit hlt hbit e ih₁ ih₂ =>
    rw [patterns, if_neg (by omega), if_pos hbit, ih₁, ih₂, List.map_append, List.map_cons,
      List.map_cons, List.map_map, show max_errors - error_bit - 1 = max_errors - (error_bit + 1) by omega]
    rfl
  | case3 startbit base error_bit hlt hbit =>
    rw [patterns, if_neg (by omega), if_neg hbit]
    rfl

theorem withBits_syndrome (base : ErrorInfo) (offset error_bit : Nat) (l : List Nat) :
    (base.withBits offset error_bit l).syndrome = base.syndrome ^^^ patternSyndrome offset l := by
  rw [← foldl_singleBitSyndrome]
  induction l generalizing base error_bit with
  | nil => rfl
  | cons i l ih => exact ih _ _

@[simp] theorem entry_syndrome (offset : Nat) (l : List Nat) :
    (entry offset l).syndrome = patternSyndrome offset l := by
  rw [entry, withBits_syndrome]
  exact BitVec.zero_xor

/-- An entry names the bits of its pattern and how many they are. -/
theorem entry_bits (offset : Nat) {l : List Nat} (hne : l ≠ []) (hlen : l.length ≤ 2) :
    (entry offset l).errors = l.length ∧ (entry offset l).bit.toList.take l.length = l.map Int.ofNat := by
  match l, hne, hlen with
  | [i], _, _ => exact ⟨rfl, rfl⟩
  | [i, j], _, _ => exact ⟨rfl, rfl⟩

theorem modesChecksumFix_entry (msg : Buffer) (offset : Nat) {l : List Nat} (hne : l ≠ [])
    (hlen : l.length ≤ 2) : modesChecksumFix msg (entry offset l) = msg.flips l := by
  obtain ⟨herrors, hbits⟩ := entry_bits offset hne hlen
  rw [modesChecksumFix, herrors, Int.toNat_natCast, hbits, List.foldl_map]
  rfl

/-! ### Sorting -/

/-- Sorted by syndrome, without duplicates. -/
def Ascending (table : List ErrorInfo) : Prop :=
  table.Pairwise fun x y => x.syndrome.toInt < y.syndrome.toInt

theorem Ascending.sorted {table : List ErrorInfo} (h : Ascending table) (e : ErrorInfo) :
    Search.Sorted (syndromeCompare e) table :=
  h.imp fun hlt => by unfold syndromeCompare; omega

theorem Ascending.map {table : List ErrorInfo} (h : Ascending table) (f : ErrorInfo → ErrorInfo)
    (hf : ∀ e, (f e).syndrome = e.syndrome) : Ascending (table.map f) :=
  List.pairwise_map.mpr (h.imp fun hlt => by rwa [hf, hf])

theorem syndromeCompare_le (x y : ErrorInfo) :
    decide (syndromeCompare x y ≤ 0) = true ↔ x.syndrome.toInt ≤ y.syndrome.toInt := by
  rw [decide_eq_true_iff, syndromeCompare, sub_nonpos]

theorem sortTable_ascending {table : List ErrorInfo} (h : (table.map ErrorInfo.syndrome).Nodup) :
    Ascending (sortTable table) := by
  have hperm : (sortTable table).Perm table := List.mergeSort_perm ..
  have hsorted := @List.pairwise_mergeSort _ (fun x y => decide (syndromeCompare x y ≤ 0))
    (fun a b c hab hbc => (syndromeCompare_le a c).mpr
      (((syndromeCompare_le a b).mp hab).trans ((syndromeCompare_le b c).mp hbc)))
    (fun a b => (Bool.or_eq_true ..).mpr ((Int.le_total a.syndrome.toInt b.syndrome.toInt).imp
      (syndromeCompare_le a b).mpr (syndromeCompare_le b a).mpr)) table
  have hnodup := (hperm.map ErrorInfo.syndrome).nodup_iff.mpr h
  refine (hsorted.and (List.pairwise_map.mp hnodup)).imp fun ⟨hle, hne⟩ => ?_
  exact lt_of_le_of_ne ((syndromeCompare_le _ _).mp hle) (mt BitVec.toInt_inj.mp hne)

theorem dropDuplicates_ascending {table : List ErrorInfo} (h : Ascending table) :
    dropDuplicates table = table := by
  fun_induction dropDuplicates table with
  | case1 => rfl
  | case2 => rfl
  | case3 e e' rest heq _ =>
    have := (List.pairwise_cons.mp h).1 e' (by simp)
    rw [heq] at this
    exact absurd this (Int.lt_irrefl _)
  | case4 e e' rest _ ih => rw [ih (List.pairwise_cons.mp h).2]

theorem syndromeCompare_eq_zero (syndrome : BitVec 32) (e : ErrorInfo) :
    syndromeCompare {baseEntry with syndrome := syndrome} e = 0 ↔ e.syndrome = syndrome := by
  rw [syndromeCompare, Int.sub_eq_zero, BitVec.toInt_inj, eq_comm]

theorem lookup_eq_some {table : List ErrorInfo} (h : Ascending table) {syndrome : BitVec 32}
    {i : Nat} {e : ErrorInfo} (hi : table[i]? = some e) :
    lookup table syndrome = some i ↔ e.syndrome = syndrome := by
  constructor
  · intro hl
    obtain ⟨a, ha, hzero⟩ := Search.bsearch_sound hl
    rw [hi] at ha
    cases ha
    exact (syndromeCompare_eq_zero _ _).mp hzero
  · intro he
    exact Search.bsearch_eq_some (h.sorted _) hi ((syndromeCompare_eq_zero _ _).mpr he)

theorem lookup_bind {table : List ErrorInfo} (h : Ascending table) (syndrome : BitVec 32)
    (e : ErrorInfo) : (lookup table syndrome).bind (table[·]?) = some e ↔
      e ∈ table ∧ e.syndrome = syndrome := by
  rw [← syndromeCompare_eq_zero syndrome e]
  exact Search.bsearch_bind (h.sorted _) e

/-! ### Flagging collisions -/

/-- Marks an entry whose syndrome is in `V`. -/
def mark (V : List (BitVec 32)) (e : ErrorInfo) : ErrorInfo :=
  if e.syndrome ∈ V then {e with errors := -1} else e

@[simp] theorem mark_syndrome (V : List (BitVec 32)) (e : ErrorInfo) :
    (mark V e).syndrome = e.syndrome := by
  unfold mark
  split <;> rfl

theorem map_mark_nil (table : List ErrorInfo) : table.map (mark []) = table := by
  have hself : ∀ e ∈ table, mark [] e = id e := fun e _ => by simp [mark]
  rw [List.map_congr_left hself, List.map_id]

theorem mark_append (V W : List (BitVec 32)) (e : ErrorInfo) :
    mark W (mark V e) = mark (V ++ W) e := by
  by_cases hV : e.syndrome ∈ V <;> by_cases hW : e.syndrome ∈ W <;> simp [mark, hV, hW]

theorem flagCollision_eq {table : List ErrorInfo} (h : Ascending table) (syndrome : BitVec 32) :
    (flagCollision table syndrome).1 = table.map (mark [syndrome]) ∧
      ((flagCollision table syndrome).2 = 0 → (flagCollision table syndrome).1 = table) := by
  -- Off the found index nothing compares equal, so marking by syndrome marks that index alone.
  unfold flagCollision
  cases hl : lookup table syndrome with
  | none =>
    refine ⟨?_, fun _ => rfl⟩
    have hself : ∀ e ∈ table, mark [syndrome] e = id e := by
      intro e he
      obtain ⟨i, hi⟩ := List.mem_iff_getElem?.mp he
      have hne : e.syndrome ≠ syndrome := fun heq => by
        rw [(lookup_eq_some h hi).mpr heq] at hl
        cases hl
      simp [mark, hne]
    rw [List.map_congr_left hself, List.map_id]
  | some i =>
    obtain ⟨e, hi, hzero⟩ := Search.bsearch_sound hl
    have he := (syndromeCompare_eq_zero _ _).mp hzero
    simp only [hi]
    have hset : table.set i {e with errors := -1} = table.map (mark [syndrome]) := by
      apply List.ext_getElem?
      intro j
      rw [List.getElem?_map, List.getElem?_set]
      by_cases hij : i = j
      · subst hij
        obtain ⟨hlt, rfl⟩ := List.getElem?_eq_some_iff.mp hi
        simp [hlt, mark, he]
      · rw [if_neg hij]
        cases hj : table[j]? with
        | none => rfl
        | some e' =>
          have hne : e'.syndrome ≠ syndrome := fun heq => by
            rw [(lookup_eq_some h hj).mpr heq] at hl
            exact hij (Option.some.inj hl).symm
          simp [mark, hne]
    by_cases herr : e.errors = -1
    · have hself : {e with errors := -1} = e := by rw [← herr]
      rw [if_neg (by simpa using herr)]
      obtain ⟨hlt, rfl⟩ := List.getElem?_eq_some_iff.mp hi
      rw [hself, List.set_getElem_self hlt] at hset
      exact ⟨hset, fun _ => rfl⟩
    · rw [if_pos herr]
      exact ⟨hset, fun h0 => absurd h0 (by simp)⟩

/-- The syndromes `flagCollisions` looks up. -/
def flaggedSyndromes (offset startbit endbit : Nat) (base : BitVec 32)
    (error_bit first_error last_error : Nat) : List (BitVec 32) :=
  ((patterns startbit endbit (last_error + 1 - error_bit)).filter
    fun l => first_error < error_bit + l.length).map (base ^^^ patternSyndrome offset ·)

theorem flaggedSyndromes_step (offset startbit endbit : Nat) (base : BitVec 32)
    (error_bit first_error last_error : Nat) (hle : error_bit ≤ last_error) (hlt : startbit < endbit) :
    flaggedSyndromes offset startbit endbit base error_bit first_error last_error =
      (if error_bit ≥ first_error then [base ^^^ singleBitSyndrome (startbit + offset)] else []) ++
        flaggedSyndromes offset (startbit + 1) endbit
          (base ^^^ singleBitSyndrome (startbit + offset)) (error_bit + 1) first_error last_error ++
        flaggedSyndromes offset (startbit + 1) endbit base error_bit first_error last_error := by
  unfold flaggedSyndromes
  rw [patterns, if_neg (by omega), if_pos hlt, List.filter_append, List.map_append, List.map_cons,
    show last_error + 1 - error_bit - 1 = last_error + 1 - (error_bit + 1) by omega]
  congr 1
  have hdeeper : (((patterns (startbit + 1) endbit (last_error + 1 - (error_bit + 1))).map
        (startbit :: ·)).filter fun l => first_error < error_bit + l.length).map
          (base ^^^ patternSyndrome offset ·) =
      ((patterns (startbit + 1) endbit (last_error + 1 - (error_bit + 1))).filter
        fun l => first_error < error_bit + 1 + l.length).map
          (base ^^^ singleBitSyndrome (startbit + offset) ^^^ patternSyndrome offset ·) := by
    rw [List.filter_map, List.map_map]
    congr 1
    · funext l
      rw [Function.comp_apply, patternSyndrome_cons, BitVec.xor_assoc]
    · congr 1
      funext l
      rw [Function.comp_apply, List.length_cons, Nat.add_assoc error_bit, Nat.add_comm l.length]
  rw [List.filter_cons]
  by_cases hfirst : error_bit ≥ first_error
  · rw [if_pos (by simp; omega), if_pos hfirst, List.map_cons, hdeeper, patternSyndrome_cons]
    simp [patternSyndrome]
  · rw [if_neg (by simp; omega), if_neg hfirst, hdeeper, List.nil_append]

/-- The flagging marks exactly the entries whose syndrome a looked-up pattern
has, and counts to zero only if it marked none. -/
theorem flagCollisions_eq {table : List ErrorInfo} (h : Ascending table)
    (offset startbit endbit : Nat) (base : BitVec 32) (error_bit first_error last_error : Nat) :
    (flagCollisions table offset startbit endbit base error_bit first_error last_error).1 =
        table.map (mark (flaggedSyndromes offset startbit endbit base error_bit first_error last_error)) ∧
      ((flagCollisions table offset startbit endbit base error_bit first_error last_error).2 = 0 →
        (flagCollisions table offset startbit endbit base error_bit first_error last_error).1 = table) := by
  fun_induction flagCollisions table offset startbit endbit base error_bit first_error last_error with
  | case1 table startbit base error_bit hgt =>
    rw [flaggedSyndromes, patterns, if_pos (by omega)]
    exact ⟨(map_mark_nil table).symm, fun _ => rfl⟩
  | case2 table startbit base error_bit hle hlt syndrome here deeper later ih₁ _ ih₂ =>
    have hhere : here.1 = table.map (mark (if error_bit ≥ first_error then [syndrome] else [])) ∧
        (here.2 = 0 → here.1 = table) := by
      by_cases hfirst : error_bit ≥ first_error
      · simpa [here, hfirst] using flagCollision_eq h syndrome
      · simp [here, hfirst, map_mark_nil]
    have hasc : Ascending here.1 := hhere.1 ▸ h.map _ (mark_syndrome _)
    obtain ⟨hdeeper, hdeeper0⟩ := ih₁ hasc
    have hasc' : Ascending deeper.1 := hdeeper ▸ hasc.map _ (mark_syndrome _)
    obtain ⟨hlater, hlater0⟩ := ih₂ hasc'
    constructor
    · change later.1 = _
      rw [hlater, hdeeper, hhere.1, List.map_map, List.map_map,
        flaggedSyndromes_step offset startbit endbit base error_bit first_error last_error
          (by omega) hlt]
      refine List.map_congr_left fun e _ => ?_
      rw [Function.comp_apply, Function.comp_apply, mark_append, mark_append, List.append_assoc]
    · intro hcount
      change here.2 + deeper.2 + later.2 = 0 at hcount
      have hl : later.1 = deeper.1 := hlater0 (show later.2 = 0 by omega)
      have hd : deeper.1 = here.1 := hdeeper0 (show deeper.2 = 0 by omega)
      exact (hl.trans hd).trans (hhere.2 (by omega))
  | case3 table startbit base error_bit hle hlt =>
    rw [flaggedSyndromes, patterns, if_neg (by omega), if_neg hlt]
    exact ⟨(map_mark_nil table).symm, fun _ => rfl⟩

/-! ### The finished table -/

/-- No pattern of more than `max_correct` bits, up to `max_detect`, has the
syndrome of `l`. -/
def Unshadowed (bits max_correct max_detect : Nat) (l : List Nat) : Prop :=
  ∀ l', IsPattern 0 bits max_detect l' → max_correct < l'.length →
    patternSyndrome (112 - bits) l' ≠ patternSyndrome (112 - bits) l

theorem mem_flaggedSyndromes (bits max_correct max_detect : Nat) (v : BitVec 32) :
    v ∈ flaggedSyndromes (112 - bits) 0 bits 0 1 (max_correct + 1) max_detect ↔
      ∃ l, IsPattern 0 bits max_detect l ∧ max_correct < l.length ∧
        patternSyndrome (112 - bits) l = v := by
  simp only [flaggedSyndromes, List.mem_map, List.mem_filter, mem_patterns, decide_eq_true_eq,
    Nat.add_sub_cancel, BitVec.ofNat_eq_ofNat, BitVec.zero_xor, Nat.add_comm 1,
    Nat.add_lt_add_iff_right, and_assoc]

/-- Dropping the marked entries of a table. -/
theorem mem_filter_mark {table : List ErrorInfo} (herr : ∀ e ∈ table, e.errors ≠ -1)
    (V : List (BitVec 32)) (e : ErrorInfo) :
    e ∈ (table.map (mark V)).filter (·.errors ≠ -1) ↔ e ∈ table ∧ e.syndrome ∉ V := by
  rw [List.mem_filter, List.mem_map, decide_eq_true_iff]
  constructor
  · intro hgiven
    obtain ⟨⟨e, he, rfl⟩, hne⟩ := hgiven
    by_cases hV : e.syndrome ∈ V
    · simp [mark, hV] at hne
    · simpa [mark, hV] using he
  · intro hgiven
    obtain ⟨he, hV⟩ := hgiven
    exact ⟨⟨e, he, by simp [mark, hV]⟩, herr e he⟩

section Table
variable {bits max_correct max_detect : Nat} (hbits : bits ≤ 112) (hmax : max_correct ≤ 2)
include hbits hmax

theorem subtable_syndromes_nodup :
    ((prepareSubtable (112 - bits) 0 bits baseEntry 0 max_correct).map ErrorInfo.syndrome).Nodup := by
  rw [prepareSubtable_eq, List.map_map]
  refine (nodup_patterns _ _ _).map_on fun l hl l' hl' h => ?_
  have hp := (mem_patterns ..).mp hl
  have hp' := (mem_patterns ..).mp hl'
  have hlight := hp.light
  have hlight' := hp'.light
  have hoffset : bits + (112 - bits) = 112 := by omega
  change (entry (112 - bits) l).syndrome = (entry (112 - bits) l').syndrome at h
  rw [entry_syndrome, entry_syndrome] at h
  refine hp.eq_of_perm hp' (perm_of_patternSyndrome_eq hoffset hp.nodup hp'.nodup hp.inside
    hp'.inside (by omega) h)

/-- The sorted table of all patterns of up to `max_correct` bits. -/
theorem mem_sortedTable (e : ErrorInfo) :
    e ∈ dropDuplicates (sortTable (prepareSubtable (112 - bits) 0 bits baseEntry 0 max_correct)) ↔
      ∃ l, IsPattern 0 bits max_correct l ∧ e = entry (112 - bits) l := by
  rw [dropDuplicates_ascending (sortTable_ascending (subtable_syndromes_nodup hbits hmax)),
    sortTable, List.mem_mergeSort, prepareSubtable_eq, List.mem_map]
  simp only [mem_patterns, Nat.sub_zero, entry, eq_comm]

theorem errors_ne_of_mem_sortedTable (e : ErrorInfo)
    (he : e ∈ dropDuplicates (sortTable (prepareSubtable (112 - bits) 0 bits baseEntry 0 max_correct))) :
    e.errors ≠ -1 := by
  obtain ⟨l, hl, rfl⟩ := (mem_sortedTable hbits hmax e).mp he
  rw [(entry_bits _ hl.nonempty (hl.light.trans hmax)).1]
  omega

/-- **The finished table**: in ascending order, the entries of exactly those
patterns of up to `max_correct` bits whose syndrome no heavier pattern of up to
`max_detect` bits shares. -/
theorem mem_errorTable (hpos : max_correct ≠ 0) (hle : max_correct ≤ max_detect) :
    ∃ table, prepareErrorTable bits max_correct max_detect = some table ∧ Ascending table ∧
      ∀ e, e ∈ table ↔ ∃ l, IsPattern 0 bits max_correct l ∧
        Unshadowed bits max_correct max_detect l ∧ e = entry (112 - bits) l := by
  have hmem := mem_sortedTable hbits hmax
  have herr := errors_ne_of_mem_sortedTable hbits hmax
  have hasc := sortTable_ascending (subtable_syndromes_nodup hbits hmax)
  rw [← dropDuplicates_ascending hasc] at hasc
  have hmem' (e : ErrorInfo) (V : List (BitVec 32))
      (hV : ∀ v, v ∈ V ↔ ∃ l, IsPattern 0 bits max_detect l ∧ max_correct < l.length ∧
        patternSyndrome (112 - bits) l = v) :
      (∃ l, IsPattern 0 bits max_correct l ∧ e = entry (112 - bits) l) ∧ e.syndrome ∉ V ↔
        ∃ l, IsPattern 0 bits max_correct l ∧ Unshadowed bits max_correct max_detect l ∧
          e = entry (112 - bits) l := by
    constructor
    · intro hgiven
      obtain ⟨⟨l, hl, rfl⟩, hv⟩ := hgiven
      refine ⟨l, hl, fun l' hl' hlt heq => hv ?_, rfl⟩
      rw [entry_syndrome]
      exact (hV _).mpr ⟨l', hl', hlt, heq⟩
    · intro hgiven
      obtain ⟨l, hl, hun, rfl⟩ := hgiven
      refine ⟨⟨l, hl, rfl⟩, fun hv => ?_⟩
      obtain ⟨l', hl', hlt, heq⟩ := (hV _).mp hv
      exact hun l' hl' hlt (by rw [heq, entry_syndrome])
  simp only [prepareErrorTable, if_neg hpos]
  generalize dropDuplicates (sortTable (prepareSubtable (112 - bits) 0 bits baseEntry 0 max_correct))
    = table at hmem herr hasc
  by_cases hdetect : max_detect > max_correct
  · obtain ⟨hmarked, hzero⟩ :=
      flagCollisions_eq hasc (112 - bits) 0 bits 0 1 (max_correct + 1) max_detect
    have hV := mem_flaggedSyndromes bits max_correct max_detect
    simp only [if_pos hdetect]
    generalize flagCollisions table (112 - bits) 0 bits 0 1 (max_correct + 1) max_detect = flagged
      at hmarked hzero
    generalize flaggedSyndromes (112 - bits) 0 bits 0 1 (max_correct + 1) max_detect = V
      at hmarked hV
    refine ⟨flagged.1.filter (·.errors ≠ -1), ?_, ?_, fun e => ?_⟩
    · split
      · rfl
      · -- Nothing was marked, so the compaction would have changed nothing.
        rw [hzero (by omega), List.filter_eq_self.mpr fun e he => by simpa using herr e he]
    · rw [hmarked]
      exact (hasc.map _ (mark_syndrome V)).filter _
    · rw [hmarked, mem_filter_mark herr, hmem, hmem' e V hV]
  · simp only [if_neg hdetect]
    refine ⟨table, rfl, hasc, fun e => ?_⟩
    have hnone : ∀ v, v ∈ ([] : List (BitVec 32)) ↔ ∃ l, IsPattern 0 bits max_detect l ∧
        max_correct < l.length ∧ patternSyndrome (112 - bits) l = v := by
      refine fun v => ⟨fun h => by simp at h, ?_⟩
      intro hgiven
      obtain ⟨l, hl, hlt, -⟩ := hgiven
      have := hl.light
      omega
    rw [← hmem' e [] hnone, hmem]
    simp

end Table

end RbFeeder.ModeS
