import RbFeeder.ModeS.ErrorTableProofs

/-! What a diagnosis means.

`modesChecksumDiagnose_iff` says which descriptor a syndrome gets from the tables
of each correction level; the rest of the file relates it to messages. Flipping
the bits of a pattern adds its syndrome (`modesChecksum_flips`), so a diagnosed
pattern is one whose correction makes the checksum zero, and the guarantee of the
error tables (`errorTable_guarantee`) is a fact about damaged codewords. -/
namespace RbFeeder.ModeS

/-- How many errors `modesChecksumInit` makes its tables detect. -/
def detects (fixBits : Nat) : Nat := if fixBits = 2 then 4 else fixBits

/-- The error patterns that the tables of level `fixBits` correct. -/
structure Correctable (fixBits bitlen : Nat) (l : List Nat) : Prop where
  pattern : IsPattern 0 bitlen fixBits l
  unshadowed : Unshadowed bitlen fixBits (detects fixBits) l

section Tables
variable {fixBits bitlen : Nat} (hfix : fixBits ≤ 2) (hbits : bitlen = 56 ∨ bitlen = 112)
include hfix hbits

/-- The table consulted for a message length, if the level has tables at all. -/
theorem selected_table :
    (if bitlen = 56 then (modesChecksumInit fixBits).short else (modesChecksumInit fixBits).long) =
      prepareErrorTable bitlen fixBits (detects fixBits) := by
  have : fixBits = 0 ∨ fixBits = 1 ∨ fixBits = 2 := by omega
  rcases this with rfl | rfl | rfl <;> rcases hbits with rfl | rfl <;>
    simp only [modesChecksumInit, detects, shortMsgBits, longMsgBits, reduceIte, reduceCtorEq,
      Nat.reduceEqDiff] <;>
    rw [prepareErrorTable, if_pos rfl]

/-- A descriptor is the one for no errors, or the entry of a correctable pattern
with the given syndrome. -/
theorem modesChecksumDiagnose_iff (syndrome : BitVec 32) (e : ErrorInfo) :
    modesChecksumDiagnose (modesChecksumInit fixBits) syndrome bitlen = some e ↔
      (syndrome = 0 ∧ e = noErrors) ∨
        (syndrome ≠ 0 ∧ ∃ l, Correctable fixBits bitlen l ∧
          patternSyndrome (112 - bitlen) l = syndrome ∧ e = entry (112 - bitlen) l) := by
  unfold modesChecksumDiagnose
  rw [selected_table hfix hbits]
  by_cases hzero : syndrome = 0
  · simp [hzero, eq_comm]
  simp only [hzero, if_false, false_and, false_or, not_false_eq_true, true_and, ne_eq]
  by_cases hlevel : fixBits = 0
  · subst hlevel
    refine ⟨fun h => by simp [prepareErrorTable] at h, ?_⟩
    intro hgiven
    obtain ⟨l, hl, -⟩ := hgiven
    exact absurd (List.length_eq_zero_iff.mp (Nat.le_zero.mp hl.pattern.light)) hl.pattern.nonempty
  obtain ⟨table, htable, hasc, hmem⟩ := mem_errorTable (show bitlen ≤ 112 by omega) hfix hlevel
    (show fixBits ≤ detects fixBits by unfold detects; split <;> omega)
  rw [htable]
  simp only [lookup_bind hasc, hmem]
  constructor
  · intro hgiven
    obtain ⟨⟨l, hl, hun, rfl⟩, hsyn⟩ := hgiven
    exact ⟨l, ⟨hl, hun⟩, by rw [← entry_syndrome, hsyn], rfl⟩
  · intro hgiven
    obtain ⟨l, ⟨hl, hun⟩, hsyn, rfl⟩ := hgiven
    exact ⟨⟨l, hl, hun, rfl⟩, by rw [entry_syndrome, hsyn]⟩

end Tables

/-! ### Damaged messages -/

theorem modesChecksum_flips {bits : Nat} (hbits : bits = 56 ∨ bits = 112) (msg : Buffer)
    {l : List Nat} (hl : ∀ i ∈ l, i < bits) :
    modesChecksum (msg.flips l).bytes bits =
      modesChecksum msg.bytes bits ^^^ patternSyndrome (112 - bits) l := by
  induction l generalizing msg with
  | nil => exact BitVec.xor_zero.symm
  | cons i l ih =>
    rw [Buffer.flips_cons, ih _ fun j hj => hl j (by simp [hj]), modesChecksum_flip,
      modesChecksum_zero_flip bits hbits i (hl i (by simp)), patternSyndrome_cons, BitVec.xor_assoc]

/-- Correcting what a table of level `fixBits` diagnosed makes the checksum zero. -/
theorem modesChecksum_fixed {fixBits bitlen : Nat} (hfix : fixBits ≤ 2)
    (hbits : bitlen = 56 ∨ bitlen = 112) {l : List Nat} (hl : Correctable fixBits bitlen l)
    {msg : Buffer} (hsyn : patternSyndrome (112 - bitlen) l = modesChecksum msg.bytes bitlen) :
    modesChecksumFix msg (entry (112 - bitlen) l) = msg.flips l ∧
      modesChecksum (msg.flips l).bytes bitlen = 0 := by
  refine ⟨modesChecksumFix_entry msg _ hl.pattern.nonempty (hl.pattern.light.trans hfix), ?_⟩
  rw [modesChecksum_flips hbits msg hl.pattern.inside, hsyn, BitVec.xor_self]
  rfl

/-- Single bits are corrected at every level above 0. -/
theorem correctable_singleton {fixBits bitlen i : Nat} (hfix : fixBits = 1 ∨ fixBits = 2)
    (hbits : bitlen = 56 ∨ bitlen = 112) (hi : i < bitlen) : Correctable fixBits bitlen [i] := by
  refine ⟨⟨by simp, by simp, by simp, by simpa using hi, by simp; omega⟩, ?_⟩
  intro l hl hlt heq
  have hoffset : bitlen + (112 - bitlen) = 112 := by omega
  have hlight := hl.light
  have hdetects : detects fixBits ≤ 4 := by unfold detects; split <;> omega
  have hperm := perm_of_patternSyndrome_eq hoffset hl.nodup (List.nodup_singleton i) hl.inside
    (by simpa using hi) (by simp; omega) heq
  have := hperm.length_eq
  simp at this
  omega

theorem patternSyndrome_perm (offset : Nat) {l l' : List Nat} (hn : l.Nodup) (hp : l.Perm l') :
    patternSyndrome offset l = patternSyndrome offset l' := by
  rw [patternSyndrome_eq_xorSum offset l hn, patternSyndrome_eq_xorSum offset l' (hp.nodup_iff.mp hn),
    List.toFinset_eq_of_perm l l' hp]

/-- The bits of an error, in the order in which the tables list them. -/
theorem exists_ascending {l : List Nat} (hn : l.Nodup) : ∃ l' : List Nat, l'.Perm l ∧ l'.Pairwise (· < ·) := by
  have hperm := List.mergeSort_perm l fun a b => decide (a ≤ b)
  have hsorted := @List.pairwise_mergeSort _ (fun a b : Nat => decide (a ≤ b))
    (fun a b c => by simpa using Nat.le_trans) (fun a b => by simpa using Nat.le_total a b) l
  refine ⟨_, hperm, (hsorted.and (hperm.nodup_iff.mpr hn)).imp fun ⟨hle, hne⟩ => ?_⟩
  exact Nat.lt_of_le_of_ne (of_decide_eq_true hle) hne

/-- No error of more bits than are corrected, and no more than are detected, has
the syndrome of a correctable pattern. -/
theorem Correctable.length_le {fixBits bitlen : Nat} {l l' : List Nat}
    (h : Correctable fixBits bitlen l) (hn : l'.Nodup) (hl' : ∀ i ∈ l', i < bitlen)
    (hlen : l'.length ≤ detects fixBits)
    (heq : patternSyndrome (112 - bitlen) l' = patternSyndrome (112 - bitlen) l) :
    l'.length ≤ fixBits := by
  by_contra hheavy
  obtain ⟨s, hs, hasc⟩ := exists_ascending hn
  refine h.unshadowed s ⟨?_, hasc, by simp, fun i hi => hl' i (hs.mem_iff.mp hi), ?_⟩ ?_ ?_
  · intro hgiven
    obtain rfl := hgiven
    rw [List.nil_perm.mp hs] at hheavy
    exact hheavy (Nat.zero_le _)
  · rwa [hs.length_eq]
  · rw [hs.length_eq]
    exact Nat.lt_of_not_le hheavy
  · rw [← heq]
    exact (patternSyndrome_perm _ hn hs.symm).symm

/-- The bits that a descriptor names. -/
def ErrorInfo.named (e : ErrorInfo) : List Nat :=
  (e.bit.toList.take e.errors.toNat).map Int.toNat

theorem entry_named (offset : Nat) {l : List Nat} (hne : l ≠ []) (hlen : l.length ≤ 2) :
    (entry offset l).named = l := by
  obtain ⟨herrors, hbits⟩ := entry_bits offset hne hlen
  rw [ErrorInfo.named, herrors, Int.toNat_natCast, hbits, List.map_map]
  exact List.map_id l

/-- **The guarantee of the error tables**, for messages of 56 and of 112 bits. At
level 1 a codeword with one bit flipped is diagnosed as exactly that bit, and with
two to four bits flipped not at all. At level 2 single bits are still diagnosed
exactly; and whatever nonzero syndrome is diagnosed, the descriptor names one or
two distinct bits of the message, flipping them makes the checksum zero, and no
other pattern of at most four bits has that syndrome. -/
theorem errorTable_guarantee (bitlen : Nat) (hbits : bitlen = 56 ∨ bitlen = 112) :
    (∀ (codeword : Buffer) (l : List Nat), modesChecksum codeword.bytes bitlen = 0 → l.Nodup →
      (∀ i ∈ l, i < bitlen) →
      (∀ fixBits, fixBits = 1 ∨ fixBits = 2 → l.length = 1 →
        ∃ e, modesChecksumDiagnose (modesChecksumInit fixBits)
            (modesChecksum (codeword.flips l).bytes bitlen) bitlen = some e ∧
          e.errors = 1 ∧ e.named = l) ∧
      (2 ≤ l.length → l.length ≤ 4 →
        modesChecksumDiagnose (modesChecksumInit 1)
          (modesChecksum (codeword.flips l).bytes bitlen) bitlen = none)) ∧
    (∀ (msg : Buffer) (e : ErrorInfo), modesChecksum msg.bytes bitlen ≠ 0 →
      modesChecksumDiagnose (modesChecksumInit 2) (modesChecksum msg.bytes bitlen) bitlen = some e →
      (e.errors = 1 ∨ e.errors = 2) ∧ e.errors = e.named.length ∧ e.named.Nodup ∧
        (∀ i ∈ e.named, i < bitlen) ∧
        modesChecksum (modesChecksumFix msg e).bytes bitlen = 0 ∧
        ∀ l : List Nat, l.Nodup → (∀ i ∈ l, i < bitlen) → l.length ≤ 4 →
          modesChecksum (Buffer.zero.flips l).bytes bitlen = modesChecksum msg.bytes bitlen →
          l.Perm e.named) := by
  have hoffset : bitlen + (112 - bitlen) = 112 := by omega
  refine ⟨fun codeword l hcode hn hl => ⟨fun fixBits hfix hone => ?_, fun htwo hfour => ?_⟩,
    fun msg e hne hdiag => ?_⟩
  · obtain ⟨i, rfl⟩ := List.length_eq_one_iff.mp hone
    rw [modesChecksum_flips hbits codeword hl, hcode, BitVec.ofNat_eq_ofNat, BitVec.zero_xor]
    refine ⟨entry (112 - bitlen) [i], (modesChecksumDiagnose_iff (by omega) hbits _ _).mpr (.inr
      ⟨patternSyndrome_ne_zero hoffset (by simp) hn hl (by simp), [i],
        correctable_singleton hfix hbits (hl i (by simp)), rfl, rfl⟩), ?_, ?_⟩
    · exact (entry_bits _ (by simp) (by simp)).1
    · exact entry_named _ (by simp) (by simp)
  · rw [modesChecksum_flips hbits codeword hl, hcode, BitVec.ofNat_eq_ofNat, BitVec.zero_xor]
    rw [Option.eq_none_iff_forall_ne_some]
    intro e hdiag
    rcases (modesChecksumDiagnose_iff (by decide) hbits _ _).mp hdiag with ⟨hzero, -⟩ | ⟨-, l', hl', hsyn, -⟩
    · refine patternSyndrome_ne_zero hoffset ?_ hn hl (by omega) hzero
      intro hgiven
      obtain rfl := hgiven
      simp at htwo
    · have hlight := hl'.pattern.light
      have := (perm_of_patternSyndrome_eq hoffset hl'.pattern.nodup hn hl'.pattern.inside hl
        (by omega) hsyn).length_eq
      omega
  · obtain ⟨hzero, -⟩ | ⟨-, l', hl', hsyn, rfl⟩ :=
      (modesChecksumDiagnose_iff (by decide) hbits _ _).mp hdiag
    · exact absurd hzero hne
    have hlight := hl'.pattern.light
    have hpos := List.length_pos_iff.mpr hl'.pattern.nonempty
    obtain ⟨hfix, hclean⟩ := modesChecksum_fixed (by decide) hbits hl' hsyn
    rw [entry_named _ hl'.pattern.nonempty hlight, (entry_bits _ hl'.pattern.nonempty hlight).1, hfix]
    refine ⟨by omega, rfl, hl'.pattern.nodup, hl'.pattern.inside, hclean, fun l hn hl hfour heq => ?_⟩
    rw [modesChecksum_flips hbits _ hl, show modesChecksum Buffer.zero.bytes bitlen = 0#32 by
      rcases hbits with rfl | rfl <;> decide +kernel, BitVec.zero_xor, ← hsyn] at heq
    have htwo := hl'.length_le hn hl hfour heq
    exact perm_of_patternSyndrome_eq hoffset hn hl'.pattern.nodup hl hl'.pattern.inside
      (by omega) heq

/-- The all-zeros codeword of 112 bits with bit 5 flipped, and with bits 5 and 9. -/
theorem errorTable_guarantee_zero :
    (∃ e, modesChecksumDiagnose (modesChecksumInit 2)
        (modesChecksum (Buffer.zero.flips [5]).bytes 112) 112 = some e ∧ e.errors = 1 ∧ e.named = [5]) ∧
      modesChecksumDiagnose (modesChecksumInit 1)
        (modesChecksum (Buffer.zero.flips [5, 9]).bytes 112) 112 = none :=
  ⟨((errorTable_guarantee 112 (.inr rfl)).1 Buffer.zero [5] (by decide +kernel) (by decide)
      (by decide)).1 2 (.inr rfl) rfl,
    ((errorTable_guarantee 112 (.inr rfl)).1 Buffer.zero [5, 9] (by decide +kernel) (by decide)
      (by decide)).2 (by decide) (by decide)⟩

end RbFeeder.ModeS
