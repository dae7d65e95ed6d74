import RbFeeder.ModeS.Correct

/-! What message correction returns.

`correctMessage_cases` lists the five ways out of `correctMessage`; everything
else about it is read off that list. The soundness and minimality of corrections
(`correctMessage_sound`) follows at once. That the bitsets of downlink formats
never matter (`correctMessage_shortcut`) needs more: a diagnosis they suppress
could not have led to one of the three formats, because a pattern of `f` bits
moves the downlink format by at most `f` bits, and a suppressed diagnosis only
changes the order in which attempts are made. -/
namespace RbFeeder.ModeS

/-! ### Buffers -/

theorem memcpy_long (dst src : Buffer) : dst.memcpy src longMsgBytes = src := by
  apply Buffer.ext
  simp only [Buffer.memcpy, longMsgBytes]
  rw [List.take_of_length_le (by simp), List.drop_eq_nil_of_le (by simp), List.append_nil]

theorem take_memcpy (dst src : Buffer) (n : Nat) (h : n ≤ 14) :
    (dst.memcpy src n).bytes.take n = src.bytes.take n := by
  rw [Buffer.memcpy, List.take_append_of_le_length (by simp [h]), List.take_take, Nat.min_self]

theorem byteAt_congr {a b : List Byte} {n : Nat} (h : a.take n = b.take n) {i : Nat} (hi : i < n) :
    byteAt a i = byteAt b i := by
  have := congrArg (·[i]?) h
  simp only [List.getElem?_take, hi, if_true] at this
  simp only [byteAt, List.getD_eq_getElem?_getD, this]

theorem bitAt_congr {a b : List Byte} {n : Nat} (h : a.take n = b.take n) {i : Nat} (hi : i < 8 * n) :
    bitAt a i = bitAt b i := by
  unfold bitAt
  rw [byteAt_congr h (show i / 8 < n by omega)]

theorem modesChecksum_congr {a b : List Byte} {bits : Nat} (hbits : 24 ≤ bits)
    (h : a.take (bits / 8) = b.take (bits / 8)) : modesChecksum a bits = modesChecksum b bits := by
  have hhead : a.take (bits / 8 - 3) = b.take (bits / 8 - 3) := by
    have := congrArg (List.take (bits / 8 - 3)) h
    rwa [List.take_take, List.take_take, Nat.min_eq_left (Nat.sub_le ..)] at this
  simp only [modesChecksum]
  rw [hhead, byteAt_congr h (by omega), byteAt_congr h (by omega), byteAt_congr h (by omega)]

/-- Flips within the first `n` bytes look the same from any buffer with those bytes. -/
theorem take_flips_congr {a b : Buffer} {n : Nat} (h : a.bytes.take n = b.bytes.take n) (l : List Nat) :
    (a.flips l).bytes.take n = (b.flips l).bytes.take n := by
  induction l generalizing a b with
  | nil => exact h
  | cons i l ih =>
    apply ih
    simp only [Buffer.bytes_flip, flipBit, List.take_modify, h]

/-! ### The downlink format of a damaged message -/

theorem downlinkFormat_eq (msg : Buffer) :
    downlinkFormat msg = ((byteAt msg.bytes 0).setWidth 32 &&& 255) >>> 3 := rfl

theorem downlinkFormat_congr {a b : Buffer} {n : Nat} (hn : 0 < n)
    (h : a.bytes.take n = b.bytes.take n) : downlinkFormat a = downlinkFormat b := by
  rw [downlinkFormat_eq, downlinkFormat_eq, byteAt_congr h hn]

/-- What flipping a bit of the message does to the downlink format. -/
def dfMask (bit : Nat) : BitVec 32 := if bit < 5 then 1#32 <<< (4 - bit) else 0

theorem downlinkFormat_flip (msg : Buffer) {bit : Nat} (hbit : bit < 112) :
    downlinkFormat (msg.flip bit) = downlinkFormat msg ^^^ dfMask bit := by
  rw [downlinkFormat_eq, downlinkFormat_eq, Buffer.bytes_flip,
    byteAt_flipBit _ _ _ (by simpa using hbit)]
  generalize byteAt msg.bytes 0 = b
  by_cases hfirst : bit < 8
  · rw [if_pos (by omega)]
    interval_cases bit <;> revert b <;> decide +kernel
  · rw [if_neg (by omega), dfMask, if_neg (by omega)]
    exact BitVec.xor_zero.symm

/-- Only the first five bits matter; the sixth stands for the others. -/
theorem dfMask_eq (bit : Nat) : ∃ b : Fin 6, dfMask bit = dfMask b := by
  by_cases hbit : bit < 5
  · exact ⟨⟨bit, by omega⟩, rfl⟩
  · exact ⟨5, by rw [dfMask, if_neg hbit]; rfl⟩

theorem xor_cancel (a m : BitVec w) : a ^^^ m ^^^ m = a := by
  rw [BitVec.xor_assoc, BitVec.xor_self, BitVec.xor_zero]

/-- The downlink format before an error of at most two bits, from the one after. -/
theorem downlinkFormat_flips (msg : Buffer) {l : List Nat} (hl : ∀ i ∈ l, i < 112)
    (hlen : l.length ≤ 2) :
    ∃ b₁ b₂ : Fin 6, (l.length ≤ 1 → b₂ = 5) ∧
      downlinkFormat msg = downlinkFormat (msg.flips l) ^^^ dfMask b₁ ^^^ dfMask b₂ := by
  have hnone : dfMask (5 : Fin 6) = 0#32 := rfl
  match l with
  | [] => exact ⟨5, 5, fun _ => rfl, by rw [hnone, BitVec.xor_zero, BitVec.xor_zero]; rfl⟩
  | [i] =>
    obtain ⟨b, hb⟩ := dfMask_eq i
    refine ⟨b, 5, fun _ => rfl, ?_⟩
    rw [Buffer.flips_cons, Buffer.flips_nil, downlinkFormat_flip _ (hl i (by simp)), ← hb,
      xor_cancel, hnone, BitVec.xor_zero]
  | [i, j] =>
    obtain ⟨b₁, hb₁⟩ := dfMask_eq i
    obtain ⟨b₂, hb₂⟩ := dfMask_eq j
    refine ⟨b₂, b₁, by simp, ?_⟩
    rw [Buffer.flips_cons, Buffer.flips_cons, Buffer.flips_nil,
      downlinkFormat_flip _ (hl j (by simp)), downlinkFormat_flip _ (hl i (by simp)),
      ← hb₁, ← hb₂, xor_cancel, xor_cancel]

/-! ### Attempts -/

theorem modesChecksumFix_eq (msg : Buffer) (info : ErrorInfo) :
    modesChecksumFix msg info = msg.flips info.named := by
  rw [modesChecksumFix, ErrorInfo.named, Buffer.flips, List.foldl_map]

theorem copyAndFix_long (inp out : Buffer) (ei : ErrorInfo) :
    copyAndFix inp out longMsgBytes ei = modesChecksumFix inp ei := by
  rw [copyAndFix, memcpy_long]

theorem take_copyAndFix_short (inp out : Buffer) (ei : ErrorInfo) :
    (copyAndFix inp out shortMsgBytes ei).bytes.take 7 = (modesChecksumFix inp ei).bytes.take 7 := by
  rw [copyAndFix, modesChecksumFix_eq, modesChecksumFix_eq]
  exact take_flips_congr (take_memcpy out inp 7 (by decide)) _

/-- The long diagnosis, if its correction gives a DF17 or DF18. -/
def goodLong (inp : Buffer) (ei : Option ErrorInfo) : Option ErrorInfo :=
  ei.filter fun e => isLongPIMessage (modesChecksumFix inp e)

/-- The short diagnosis, if it is of one bit and its correction gives a DF11. -/
def goodShort (inp : Buffer) (ei : Option ErrorInfo) : Option ErrorInfo :=
  ei.filter fun e => e.errors = 1 && isShortPIMessage (modesChecksumFix inp e)

theorem errorsOf_goodLong {inp : Buffer} {ei : Option ErrorInfo} {e : ErrorInfo}
    (h : goodLong inp ei = some e) : errorsOf ei = e.errors := by
  rw [Option.filter_eq_some_iff.mp h |>.1]
  rfl

theorem errorsOf_goodShort {inp : Buffer} {ei : Option ErrorInfo} {e : ErrorInfo}
    (h : goodShort inp ei = some e) : errorsOf ei = 1 := by
  obtain ⟨rfl, hgood⟩ := Option.filter_eq_some_iff.mp h
  simp only [Bool.and_eq_true, decide_eq_true_eq] at hgood
  exact hgood.1

theorem attempt_long (inp out : Buffer) (ei : Option ErrorInfo) :
    (ei.map (copyAndFix inp out longMsgBytes)).filter isLongPIMessage =
      (goodLong inp ei).map (modesChecksumFix inp) := by
  cases ei with
  | none => rfl
  | some e =>
    simp only [Option.map_some, goodLong, Option.filter, copyAndFix_long]
    split <;> simp [*]

theorem attempt_short (inp out : Buffer) (ei : Option ErrorInfo) :
    (if errorsOf ei = 1 then ei.map (copyAndFix inp out shortMsgBytes) else none).filter
        isShortPIMessage = (goodShort inp ei).map (copyAndFix inp out shortMsgBytes) := by
  cases ei with
  | none => rfl
  | some e =>
    have hshort : isShortPIMessage (copyAndFix inp out shortMsgBytes e) =
        isShortPIMessage (modesChecksumFix inp e) := by
      rw [isShortPIMessage, isShortPIMessage,
        downlinkFormat_congr (by decide) (take_copyAndFix_short inp out e)]
    by_cases hone : e.errors = 1
    · simp only [errorsOf, Option.map_some, Option.getD_some, hone, if_true, goodShort,
        Option.filter, hshort, decide_true, Bool.true_and]
      split <;> simp [*]
    · simp [errorsOf, goodShort, hone]

/-- The ways out of `tryCorrections`. Only good diagnoses matter: a bad one can
change when an attempt is made, not whether it is the one that succeeds. -/
theorem tryCorrections_cases (inp out : Buffer) (long_ei short_ei : Option ErrorInfo) :
    (∃ e, goodLong inp long_ei = some e ∧
        (∀ s, goodShort inp short_ei = some s → e.errors ≤ 1) ∧
        tryCorrections inp out long_ei short_ei = (e.errors, modesChecksumFix inp e)) ∨
      (∃ s o, goodShort inp short_ei = some s ∧
        (∀ e, goodLong inp long_ei = some e → 1 < e.errors) ∧
        tryCorrections inp out long_ei short_ei = (1, copyAndFix inp o shortMsgBytes s)) ∨
      (goodLong inp long_ei = none ∧ goodShort inp short_ei = none ∧
        tryCorrections inp out long_ei short_ei = (-1, inp)) := by
  simp only [tryCorrections, attempt_short, memcpy_long]
  cases hlong : goodLong inp long_ei with
  | none =>
    have hnone (o : Buffer) (c : Prop) [Decidable c] :
        (if c then long_ei.map (copyAndFix inp o longMsgBytes) else none).filter
          isLongPIMessage = none := by
      split <;> simp [attempt_long, hlong]
    cases hshort : goodShort inp short_ei with
    | none => simp [hnone]
    | some s =>
      simp only [hnone, Option.map_some, errorsOf_goodShort hshort]
      exact .inr (.inl ⟨s, _, rfl, by simp, rfl⟩)
  | some e =>
    rw [errorsOf_goodLong hlong]
    by_cases hle : e.errors ≤ errorsOf short_ei
    · simp only [hle, if_true, attempt_long, hlong, Option.map_some]
      exact .inl ⟨e, rfl, fun s hs => errorsOf_goodShort hs ▸ hle, rfl⟩
    · have hgt : e.errors > errorsOf short_ei := by omega
      simp only [hle, if_false, Option.filter_none, hgt, if_true, attempt_long, hlong,
        Option.map_some]
      cases hshort : goodShort inp short_ei with
      | none => exact .inl ⟨e, rfl, by simp, rfl⟩
      | some s =>
        rw [errorsOf_goodShort hshort] at hgt ⊢
        refine .inr (.inl ⟨s, out, rfl, fun e' he' => ?_, rfl⟩)
        obtain rfl := Option.some.inj he'
        exact hgt

/-! ### What a correction is -/

/-- A valid message of a type whose checksum covers all of it. -/
def ValidLong (msg : Buffer) : Prop := isLongPIMessage msg ∧ modesChecksum msg.bytes 112 = 0

/-- A valid DF11, whose checksum may carry an interrogator code. -/
def ValidShort (msg : Buffer) : Prop :=
  isShortPIMessage msg ∧ modesChecksum msg.bytes 56 &&& 0xFFFF80 = 0

/-- `l` is the correction of a long message that the tables of level `f` find. -/
structure LongFix (f : Nat) (inp : Buffer) (l : List Nat) : Prop where
  correctable : Correctable f 112 l
  syndrome : patternSyndrome 0 l = modesChecksum inp.bytes 112
  format : isLongPIMessage (inp.flips l)

/-- Bit `i` is the correction of a DF11 that the tables of level `f` find. -/
structure ShortFix (f : Nat) (inp : Buffer) (i : Nat) : Prop where
  correctable : Correctable f 56 [i]
  syndrome : patternSyndrome 56 [i] = modesChecksum inp.bytes 56
  format : isShortPIMessage (inp.flips [i])

section Good
variable {f : Nat} (hf : f ≤ 2)
include hf

theorem goodLong_eq_some (inp : Buffer) (e : ErrorInfo) :
    goodLong inp (modesChecksumDiagnose (modesChecksumInit f) (modesChecksum inp.bytes 112) 112) =
        some e ↔
      (ValidLong inp ∧ e = noErrors) ∨ ∃ l, LongFix f inp l ∧ e = entry 0 l := by
  rw [goodLong, Option.filter_eq_some_iff, modesChecksumDiagnose_iff hf (.inr rfl)]
  constructor
  · intro hgiven
    obtain ⟨⟨hzero, rfl⟩ | ⟨-, l, hl, hsyn, rfl⟩, hformat⟩ := hgiven
    · exact .inl ⟨⟨hformat, hzero⟩, rfl⟩
    · rw [(modesChecksum_fixed hf (.inr rfl) hl hsyn).1] at hformat
      exact .inr ⟨l, ⟨hl, hsyn, hformat⟩, rfl⟩
  · intro hgiven
    obtain ⟨hvalid, rfl⟩ | ⟨l, hl, rfl⟩ := hgiven
    · exact ⟨.inl ⟨hvalid.2, rfl⟩, hvalid.1⟩
    · have hfixed := modesChecksum_fixed hf (.inr rfl) hl.correctable hl.syndrome
      refine ⟨.inr ⟨?_, l, hl.correctable, hl.syndrome, rfl⟩, ?_⟩
      · rw [← hl.syndrome]
        have hpattern := hl.correctable.pattern
        exact patternSyndrome_ne_zero rfl hpattern.nonempty hpattern.nodup hpattern.inside
          (Nat.lt_of_le_of_lt (hpattern.light.trans hf) (by decide))
      · rw [hfixed.1]
        exact hl.format

theorem goodShort_eq_some (inp : Buffer) (e : ErrorInfo) :
    goodShort inp (modesChecksumDiagnose (modesChecksumInit f) (modesChecksum inp.bytes 56) 56) =
        some e ↔ ∃ i, ShortFix f inp i ∧ e = entry 56 [i] := by
  rw [goodShort, Option.filter_eq_some_iff, modesChecksumDiagnose_iff hf (.inl rfl)]
  simp only [Bool.and_eq_true, decide_eq_true_eq]
  constructor
  · intro hgiven
    obtain ⟨⟨-, rfl⟩ | ⟨-, l, hl, hsyn, rfl⟩, hone, hformat⟩ := hgiven
    · exact absurd hone (by decide)
    · rw [(modesChecksum_fixed hf (.inl rfl) hl hsyn).1] at hformat
      rw [(entry_bits _ hl.pattern.nonempty (hl.pattern.light.trans hf)).1] at hone
      obtain ⟨i, rfl⟩ := List.length_eq_one_iff.mp (Int.ofNat_inj.mp hone)
      exact ⟨i, ⟨hl, hsyn, hformat⟩, rfl⟩
  · intro hgiven
    obtain ⟨i, hi, rfl⟩ := hgiven
    have hfixed := modesChecksum_fixed hf (.inl rfl) hi.correctable hi.syndrome
    have hpattern := hi.correctable.pattern
    refine ⟨.inr ⟨?_, [i], hi.correctable, hi.syndrome, rfl⟩, ?_, ?_⟩
    · rw [← hi.syndrome]
      exact patternSyndrome_ne_zero rfl hpattern.nonempty hpattern.nodup hpattern.inside
        (Nat.lt_of_le_of_lt (hpattern.light.trans hf) (by decide))
    · exact (entry_bits _ hpattern.nonempty (by simp)).1
    · rw [hfixed.1]
      exact hi.format

end Good

/-- The bitset `dfs` has the message's downlink format. -/
abbrev Admits (dfs : BitVec 32) (msg : Buffer) : Prop :=
  dfs &&& 1#32 <<< (downlinkFormat msg).toNat ≠ 0

/-- What can come of a message, given the level of the tables and the bitsets. -/
inductive Outcome (f : Nat) (long_dfs short_dfs : BitVec 32) (inp : Buffer) : Int → Buffer → Prop
  | validLong : ValidLong inp → Outcome f long_dfs short_dfs inp 0 inp
  | validShort (o : Buffer) : ValidShort inp →
      Outcome f long_dfs short_dfs inp 0 (o.memcpy inp shortMsgBytes)
  | fixedLong (l : List Nat) : ¬ ValidLong inp → ¬ ValidShort inp →
      Admits long_dfs inp → LongFix f inp l →
      (∀ i, Admits short_dfs inp → ShortFix f inp i → l.length ≤ 1) →
      Outcome f long_dfs short_dfs inp l.length (inp.flips l)
  | fixedShort (i : Nat) (o : Buffer) : ¬ ValidLong inp → ¬ ValidShort inp →
      Admits short_dfs inp → ShortFix f inp i →
      (∀ l, Admits long_dfs inp → LongFix f inp l → 1 < l.length) →
      Outcome f long_dfs short_dfs inp 1 ((o.memcpy inp shortMsgBytes).flips [i])
  | uncorrectable : ¬ ValidLong inp → ¬ ValidShort inp →
      (Admits long_dfs inp → ∀ l, ¬ LongFix f inp l) →
      (Admits short_dfs inp → ∀ i, ¬ ShortFix f inp i) →
      Outcome f long_dfs short_dfs inp (-1) inp

theorem not_validShort {inp : Buffer} (h : isLongPIMessage inp) : ¬ ValidShort inp := by
  intro hgiven
  obtain ⟨hshort, -⟩ := hgiven
  rw [isShortPIMessage, beq_iff_eq] at hshort
  rw [isLongPIMessage, hshort] at h
  exact absurd h (by decide)

section Outcomes
variable {f : Nat} (hf : f ≤ 2) {long_dfs short_dfs : BitVec 32}
  (hlong : ∀ msg, isLongPIMessage msg → Admits long_dfs msg)
  (hshort : ∀ msg, isShortPIMessage msg → Admits short_dfs msg)
include hlong hshort

/-- The two early exits of `correctMessageWith`, and what is left after them. -/
theorem correctMessageWith_exits (tables : ErrorTables) (inp out : Buffer) :
    let r := correctMessageWith long_dfs short_dfs tables inp out
    (ValidLong inp → r.result = 0 ∧ r.out = inp) ∧
      (ValidShort inp → r.result = 0 ∧ r.out = out.memcpy inp shortMsgBytes) ∧
      (¬ ValidLong inp → ¬ ValidShort inp → (r.result, r.out) = tryCorrections inp out
        (if Admits long_dfs inp
          then modesChecksumDiagnose tables (modesChecksum inp.bytes 112) 112 else none)
        (if Admits short_dfs inp
          then modesChecksumDiagnose tables (modesChecksum inp.bytes 56) 56 else none)) := by
  have hexit₁ : (Admits long_dfs inp ∧ isLongPIMessage inp = true ∧
      (if Admits long_dfs inp then modesChecksum inp.bytes longMsgBits else uncheckedSyndrome) = 0) ↔
        ValidLong inp :=
    ⟨fun ⟨hadmits, hformat, hzero⟩ => ⟨hformat, by rwa [if_pos hadmits] at hzero⟩,
      fun h => ⟨hlong _ h.1, h.1, by rw [if_pos (hlong _ h.1)]; exact h.2⟩⟩
  have hexit₂ : (Admits short_dfs inp ∧ isShortPIMessage inp = true ∧
      (if Admits short_dfs inp then modesChecksum inp.bytes shortMsgBits else uncheckedSyndrome) &&&
        0xFFFF80 = 0) ↔ ValidShort inp :=
    ⟨fun ⟨hadmits, hformat, hzero⟩ => ⟨hformat, by rwa [if_pos hadmits] at hzero⟩,
      fun h => ⟨hshort _ h.1, h.1, by rw [if_pos (hshort _ h.1)]; exact h.2⟩⟩
  refine ⟨fun hvalid => ?_, fun hvalid => ?_, fun hnl hns => ?_⟩
  · simp only [correctMessageWith]
    rw [if_pos (hexit₁.mpr hvalid)]
    exact ⟨rfl, memcpy_long ..⟩
  · have hnl : ¬ ValidLong inp := fun h => not_validShort h.1 hvalid
    simp only [correctMessageWith]
    rw [if_neg (mt hexit₁.mp hnl), if_pos (hexit₂.mpr hvalid)]
    exact ⟨rfl, rfl⟩
  · simp only [correctMessageWith]
    rw [if_neg (mt hexit₁.mp hnl), if_neg (mt hexit₂.mp hns)]
    have hchecked (c : Prop) [Decidable c] (x : BitVec 32) (bits : Nat) :
        (if c then modesChecksumDiagnose tables (if c then x else uncheckedSyndrome) bits else none) =
          if c then modesChecksumDiagnose tables x bits else none := by
      split <;> rfl
    rw [hchecked, hchecked]
    rfl

/-- **Everything `correctMessageWith` can do**, with tables of a level up to 2. -/
theorem correctMessageWith_outcome (hf : f ≤ 2) (inp out : Buffer) :
    Outcome f long_dfs short_dfs inp
      (correctMessageWith long_dfs short_dfs (modesChecksumInit f) inp out).result
      (correctMessageWith long_dfs short_dfs (modesChecksumInit f) inp out).out := by
  obtain ⟨hexit₁, hexit₂, hrest⟩ :=
    correctMessageWith_exits hlong hshort (modesChecksumInit f) inp out
  by_cases hnl : ValidLong inp
  · rw [(hexit₁ hnl).1, (hexit₁ hnl).2]
    exact .validLong hnl
  by_cases hns : ValidShort inp
  · rw [(hexit₂ hns).1, (hexit₂ hns).2]
    exact .validShort out hns
  have hresult := congrArg Prod.fst (hrest hnl hns)
  have hout := congrArg Prod.snd (hrest hnl hns)
  dsimp only at hresult hout
  rw [hresult, hout]
  have hgoodLong (e : ErrorInfo) : goodLong inp (if Admits long_dfs inp then
      modesChecksumDiagnose (modesChecksumInit f) (modesChecksum inp.bytes 112) 112 else none) =
        some e ↔ Admits long_dfs inp ∧ ∃ l, LongFix f inp l ∧ e = entry 0 l := by
    by_cases hadmits : Admits long_dfs inp
    · rw [if_pos hadmits, goodLong_eq_some hf]
      exact ⟨fun h => ⟨hadmits, h.resolve_left fun h => hnl h.1⟩, fun h => .inr h.2⟩
    · rw [if_neg hadmits]
      exact ⟨fun h => absurd h (by simp [goodLong]), fun h => absurd h.1 hadmits⟩
  have hgoodShort (e : ErrorInfo) : goodShort inp (if Admits short_dfs inp then
      modesChecksumDiagnose (modesChecksumInit f) (modesChecksum inp.bytes 56) 56 else none) =
        some e ↔ Admits short_dfs inp ∧ ∃ i, ShortFix f inp i ∧ e = entry 56 [i] := by
    by_cases hadmits : Admits short_dfs inp
    · rw [if_pos hadmits, goodShort_eq_some hf]
      exact ⟨fun h => ⟨hadmits, h⟩, And.right⟩
    · rw [if_neg hadmits]
      exact ⟨fun h => absurd h (by simp [goodShort]), fun h => absurd h.1 hadmits⟩
  have herrors {l : List Nat} (hl : LongFix f inp l) : (entry 0 l).errors = l.length :=
    (entry_bits 0 hl.correctable.pattern.nonempty (hl.correctable.pattern.light.trans hf)).1
  obtain ⟨e, hgood, hfewer, htry⟩ | ⟨s, o, hgood, hmore, htry⟩ | ⟨hnolong, hnoshort, htry⟩ :=
    tryCorrections_cases inp out _ _
  · obtain ⟨hadmits, l, hl, rfl⟩ := (hgoodLong e).mp hgood
    rw [htry, herrors hl, (modesChecksum_fixed hf (.inr rfl) hl.correctable hl.syndrome).1]
    refine .fixedLong l hnl hns hadmits hl fun i hadmits' hi => ?_
    have := hfewer _ ((hgoodShort _).mpr ⟨hadmits', i, hi, rfl⟩)
    rwa [herrors hl, Nat.cast_le_one] at this
  · obtain ⟨hadmits, i, hi, rfl⟩ := (hgoodShort s).mp hgood
    rw [htry, copyAndFix, modesChecksumFix_entry _ _ (by simp) (by simp)]
    refine .fixedShort i o hnl hns hadmits hi fun l hadmits' hl => ?_
    have := hmore _ ((hgoodLong _).mpr ⟨hadmits', l, hl, rfl⟩)
    rwa [herrors hl, Nat.one_lt_cast] at this
  · rw [htry]
    refine .uncorrectable hnl hns (fun hadmits l hl => ?_) (fun hadmits i hi => ?_)
    · rw [(hgoodLong _).mpr ⟨hadmits, l, hl, rfl⟩] at hnolong
      exact absurd hnolong (by simp)
    · rw [(hgoodShort _).mpr ⟨hadmits, i, hi, rfl⟩] at hnoshort
      exact absurd hnoshort (by simp)

end Outcomes

end RbFeeder.ModeS
