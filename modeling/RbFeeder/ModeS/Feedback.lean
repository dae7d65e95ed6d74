import RbFeeder.ModeS.Bits
import RbFeeder.ModeS.Fields
import RbFeeder.ModeS.IcaoFilterProofs
import RbFeeder.ModeS.Residue

/-! What the filter learns from an accepted message, and what the scorer makes of it.

The end of `decodeModesMessage` adds the address of a DF11, DF17 or DF18 without errors
to the filter, and the scorer looks up the address that such a message announces. The
decoder of extended squitters marks the address of some DF18s as none of ICAO; then the
marked address is added, which no message is ever looked up by.

`feedback`: scored again before the tables were exchanged twice, the message is of a
known address exactly if its address was not marked, or was in the active table before;
and no other address becomes known. -/
namespace RbFeeder.ModeS
open ScoreRank

/-! ### Calls without two flips -/

namespace FilterState

/-- How many of the calls exchange the tables. -/
def countFlips (next_flip : Nat) : List FilterCall → Nat
  | [] => 0
  | .add _ :: calls | .test _ :: calls => countFlips next_flip calls
  | .expire now :: calls =>
    if now ≥ next_flip then countFlips (now + icaoFilterTTL) calls + 1 else countFlips next_flip calls

end FilterState

open FilterState (countFlips)

theorem Recent.current_subset_add (r : Recent) (addr : IcaoAddress) :
    r.current ⊆ (r.step (.add addr)).current := by
  simp only [Recent.step]
  split
  · exact Finset.Subset.refl _
  · exact Finset.subset_insert _ _

/-- An address of the current period is known until the second flip, one of the preceding
period until the first. -/
theorem Recent.keeps {r : Recent} {addr : BitVec 32} (calls : List FilterCall)
    (h : addr ∈ r.current ∧ countFlips r.next_flip calls < 2 ∨
      addr ∈ r.preceding ∧ countFlips r.next_flip calls = 0) :
    addr ∈ (calls.foldl Recent.step r).current ∨ addr ∈ (calls.foldl Recent.step r).preceding := by
  induction calls generalizing r with
  | nil => exact h.imp And.left And.left
  | cons call calls ih =>
    rw [List.foldl_cons]
    apply ih
    cases call with
    | add a => exact h.imp_left fun h => ⟨r.current_subset_add a h.1, h.2⟩
    | test a => exact h
    | expire now =>
      simp only [countFlips] at h
      simp only [Recent.step]
      split_ifs at h ⊢ with hnow
      · obtain ⟨hmem, hflips⟩ | ⟨-, hflips⟩ := h
        · have hlast : countFlips (now + icaoFilterTTL) calls = 0 := by omega
          exact Or.inr ⟨hmem, hlast⟩
        · exact hflips.elim
      · exact h

/-! ### What is looked up and what is added -/

section Announced
variable (mm : ModesMessage)

/-- Without errors, and of a type that is marked as known. -/
def Announces : Prop :=
  mm.correctedbits = 0 ∧ (mm.msgtype = 11 ∧ mm.IID = 0 ∨ mm.msgtype = 17 ∨ mm.msgtype = 18)

instance : Decidable (Announces mm) := inferInstanceAs (Decidable (_ ∧ _))

/-- The address that the scorer looks up for the message. -/
def lookedUp : BitVec 32 :=
  if mm.msgtype = 18 then announcedAddress mm.msg ||| icaoFilterAdsbNt else announcedAddress mm.msg

/-- The rank of the message from a known address. -/
def knownRank : ScoreRank :=
  if mm.msgtype = 11 then SR_DF11_ACQ_KNOWN else if mm.msgtype = 17 then SR_DF17_KNOWN else SR_DF18_KNOWN

/-- The address is marked as none of ICAO. -/
def Marked : Prop := mm.msgtype = 18 ∧ marksNonIcao (bulkFields mm).CF (bulkFields mm).ME = true

instance : Decidable (Marked mm) := inferInstanceAs (Decidable (_ ∧ _))

/-- The filter at the end of `decodeModesMessage`. -/
def filterAfter (filter : IcaoFilter) : IcaoFilter :=
  match filterAddress mm with
  | none => filter
  | some addr => icaoFilterAdd filter addr

/-- The address that is added for a message that announces one. -/
def addedAddress : BitVec 32 := if Marked mm then lookedUp mm ||| modesNonIcaoAddress else lookedUp mm

theorem announcedAddress_lt (msg : Buffer) : (announcedAddress msg).toNat < 2 ^ 24 :=
  getbits_lt msg.bytes (by decide) (by decide)

theorem bulkFields_addr (h : mm.msgtype ∈ [11, 17, 18]) : (bulkFields mm).addr =
    if Marked mm then announcedAddress mm.msg ||| modesNonIcaoAddress else announcedAddress mm.msg := by
  have haddr : (if mm.msgtype ∈ [11, 17, 18] then getbits mm.msg.bytes 9 32 else mm.crc) =
      announcedAddress mm.msg := if_pos h
  rw [← haddr]
  rfl

theorem filterAddress_of_announces (h : Announces mm) : filterAddress mm = some (addedAddress mm) := by
  have hcomm : announcedAddress mm.msg ||| modesNonIcaoAddress ||| icaoFilterAdsbNt =
      announcedAddress mm.msg ||| icaoFilterAdsbNt ||| modesNonIcaoAddress := by
    rw [BitVec.or_assoc, BitVec.or_comm modesNonIcaoAddress, ← BitVec.or_assoc]
  obtain ⟨hbits, htype⟩ := h
  have hmem : mm.msgtype ∈ [11, 17, 18] := by
    obtain ⟨htype, -⟩ | htype | htype := htype <;> rw [htype] <;> decide
  unfold filterAddress
  rw [bulkFields_addr mm hmem]
  by_cases h18 : mm.msgtype = 18
  · have h17 : ¬ (mm.correctedbits = 0 ∧ (mm.msgtype = 17 ∨ mm.msgtype = 11 ∧ mm.IID = 0)) := by
      rw [h18]
      exact fun h => h.2.elim (by decide) fun h => absurd h.1 (by decide)
    rw [if_neg h17, if_pos ⟨hbits, h18⟩, addedAddress, lookedUp, if_pos h18]
    split
    · rw [hcomm]
    · rfl
  · have hmarked : ¬ Marked mm := fun h => h18 h.1
    have h17 : mm.msgtype = 17 ∨ mm.msgtype = 11 ∧ mm.IID = 0 := by
      obtain h | h | h := htype
      · exact Or.inr h
      · exact Or.inl h
      · exact absurd h h18
    rw [if_pos ⟨hbits, h17⟩, if_neg hmarked, addedAddress, if_neg hmarked, lookedUp, if_neg h18]

/-- Only a message that announces its address adds one. -/
theorem announces_of_filterAddress {addr : BitVec 32} (h : filterAddress mm = some addr) : Announces mm := by
  unfold filterAddress at h
  split_ifs at h with h17 h18
  · exact ⟨h17.1, h17.2.symm.imp_right Or.inl⟩
  · exact ⟨h18.1, Or.inr (Or.inr h18.2)⟩

theorem lookedUp_lt : (lookedUp mm).toNat < 2 ^ 26 := by
  have haddr : (announcedAddress mm.msg).toNat < 2 ^ 26 :=
    Nat.lt_of_lt_of_le (announcedAddress_lt mm.msg) (by decide)
  unfold lookedUp
  split
  · exact or_lt haddr (by decide)
  · exact haddr

theorem addedAddress_lt : (addedAddress mm).toNat < 2 ^ 26 := by
  unfold addedAddress
  split
  · exact or_lt (lookedUp_lt mm) (by decide)
  · exact lookedUp_lt mm

end Announced

theorem ne_emptySlot {addr : BitVec 32} (h : addr.toNat < 2 ^ 26) : addr ≠ emptySlot := by
  intro heq
  rw [heq] at h
  exact absurd h (by decide)

/-- An address as the scorer looks it up: of 24 bits, perhaps with the mark of
transmitters that are no transponders. -/
def scoredKey (addr : BitVec 24) (nt : Bool) : BitVec 32 :=
  if nt then addr.setWidth 32 ||| icaoFilterAdsbNt else addr.setWidth 32

/-- No such address is marked as none of ICAO. -/
theorem scoredKey_unmarked (addr : BitVec 24) (nt : Bool) : (scoredKey addr nt).getLsbD 24 = false := by
  unfold scoredKey
  split <;> simp [icaoFilterAdsbNt]

theorem scoredKey_lt (addr : BitVec 24) (nt : Bool) : (scoredKey addr nt).toNat < 2 ^ 26 := by
  have haddr : (addr.setWidth 32).toNat < 2 ^ 26 := by
    rw [BitVec.toNat_setWidth_of_le (by decide)]
    exact Nat.lt_of_lt_of_le addr.isLt (Nat.pow_le_pow_right (by decide) (by decide))
  unfold scoredKey
  split
  · exact or_lt haddr (by decide)
  · exact haddr

/-- What is looked up for a message is an address as the scorer looks them up. -/
theorem lookedUp_eq (mm : ModesMessage) :
    lookedUp mm = scoredKey ((announcedAddress mm.msg).setWidth 24) (mm.msgtype = 18) := by
  have haddr : ((announcedAddress mm.msg).setWidth 24).setWidth 32 = announcedAddress mm.msg := by
    refine BitVec.eq_of_toNat_eq ?_
    rw [BitVec.toNat_setWidth, BitVec.toNat_setWidth, Nat.mod_eq_of_lt (announcedAddress_lt mm.msg),
      Nat.mod_eq_of_lt (announcedAddress mm.msg).isLt]
  rw [scoredKey, haddr, lookedUp]
  simp only [decide_eq_true_eq]

/-- A marked address is never looked up. -/
theorem scoredKey_ne_marked (mm : ModesMessage) (addr : BitVec 24) (nt : Bool) :
    scoredKey addr nt ≠ lookedUp mm ||| modesNonIcaoAddress := by
  intro h
  have hbit := scoredKey_unmarked addr nt
  rw [h, BitVec.getLsbD_or] at hbit
  simp [modesNonIcaoAddress] at hbit

/-! ### The filter after a message -/

/-- The filter after a message was accepted. -/
def FilterState.accept (s : FilterState) (mm : ModesMessage) : FilterState :=
  { s with filter := filterAfter mm s.filter }

theorem FilterState.accept_of_announces (s : FilterState) {mm : ModesMessage} (h : Announces mm) :
    s.accept mm = s.step (.add ⟨addedAddress mm, ne_emptySlot (addedAddress_lt mm)⟩) := by
  rw [FilterState.accept, filterAfter, filterAddress_of_announces mm h]
  rfl

theorem FilterState.accept_of_not_announces (s : FilterState) {mm : ModesMessage} (h : ¬ Announces mm) :
    s.accept mm = s := by
  have hnone : filterAddress mm = none := by
    cases haddr : filterAddress mm with
    | none => rfl
    | some addr => exact absurd (announces_of_filterAddress mm haddr) h
  rw [FilterState.accept, filterAfter, hnone]

/-- An address that the filter holds, of the current or the preceding period. -/
theorem Holds.test_iff {s : FilterState} {r : Recent} (h : Holds s r) {addr : BitVec 32}
    (haddr : addr ≠ emptySlot) :
    icaoFilterTest s.filter addr = true ↔ addr ∈ r.current ∨ addr ∈ r.preceding := by
  rw [icaoFilterTest_iff h.chained_active h.chained_inactive haddr, h.current, h.preceding]

/-! ### The score -/

section Score
variable {modes : Modes} {f : Fin 3} {filter : IcaoFilter} {garbage : Buffer} {mm : ModesMessage} {inp : Buffer}

/-- What is left of the corrected message in a message that announces its address. -/
theorem checksumFields_announces {a b : ModesMessage} (h : checksumFields a = some b) (hb : Announces b) :
    b.msgtype = a.msgtype ∧ b.msg = a.msg ∧ b.correctedbits = a.correctedbits ∧
      (b.msgtype = 11 → a.crc &&& 0x7f = 0) := by
  obtain ⟨-, hclass⟩ := hb
  unfold checksumFields at h
  split at h
  case h_18 => contradiction
  case h_9 hdf =>
    obtain rfl := Option.some.inj h
    refine ⟨rfl, rfl, rfl, fun _ => ?_⟩
    obtain ⟨-, hiid⟩ | h17 | h18 := hclass
    · exact hiid
    · exact absurd (hdf.symm.trans h17) (by decide)
    · exact absurd (hdf.symm.trans h18) (by decide)
  all_goals
    obtain rfl := Option.some.inj h
    simp_all

theorem scoreCorrected_df11 {c : Corrected} (h : (downlinkFormat c.out).toNat = 11) :
    scoreCorrected modes filter c =
      scoreDF11 c.result (checkedSyndrome c.short_syndrome c.out shortMsgBits &&& 0x7F)
        (icaoFilterTest filter (announcedAddress c.out)) := by
  unfold scoreCorrected
  simp only [h]

theorem scoreCorrected_df17 {c : Corrected} (h : (downlinkFormat c.out).toNat = 17) :
    scoreCorrected modes filter c =
      scoreDF17 c.result (icaoFilterTest filter (announcedAddress c.out)) := by
  unfold scoreCorrected
  simp only [h]

theorem scoreCorrected_df18 {c : Corrected} (h : (downlinkFormat c.out).toNat = 18) :
    scoreCorrected modes filter c =
      scoreDF18 c.result (icaoFilterTest filter (announcedAddress c.out ||| icaoFilterAdsbNt)) := by
  unfold scoreCorrected
  simp only [h]

theorem rank_eq_known {known unknown : ScoreRank} (hne : unknown ≠ known) (recent : Bool) :
    rank recent known unknown = known ↔ recent = true := by
  cases recent
  · exact iff_of_false hne Bool.false_ne_true
  · exact iff_of_true rfl rfl

variable (modes f filter garbage inp) in
theorem scoreModesMessage_of_notZeros (hzeros : ¬ AllZeros inp) :
    scoreModesMessage modes (modesChecksumInit f) filter garbage inp =
      scoreCorrected modes filter (correctMessage modes (modesChecksumInit f) inp garbage) := if_neg hzeros

/-- A message that announces its address is of known rank exactly if the filter knows it. -/
theorem score_known_iff
    (hscore : mm.score = SR_NOT_SET ∨
      mm.score = scoreModesMessage modes (modesChecksumInit f) filter garbage inp)
    (haccept : (decodeModesMessage modes (modesChecksumInit f) filter garbage mm inp).1 = 0)
    (hannounces : Announces (decodeModesMessage modes (modesChecksumInit f) filter garbage mm inp).2)
    (filter' : IcaoFilter) (garbage' : Buffer) :
    scoreModesMessage modes (modesChecksumInit f) filter' garbage' inp =
        knownRank (decodeModesMessage modes (modesChecksumInit f) filter garbage mm inp).2 ↔
      icaoFilterTest filter'
        (lookedUp (decodeModesMessage modes (modesChecksumInit f) filter garbage mm inp).2) = true := by
  obtain ⟨score, hfields⟩ := decodeModesMessage_corrected (not_lt.mpr haccept.ge)
  have hgood : ¬ scoreModesMessage modes (modesChecksumInit f) filter garbage inp < SR_ACCEPT_THRESHOLD := by
    intro hbad
    have hresult := decodeModesMessage_result modes f filter garbage inp mm hscore
    dsimp only at hresult
    rw [haccept, if_pos hbad] at hresult
    split at hresult <;> exact absurd hresult (by decide)
  have hzeros := ((scoreModesMessage_accepted modes f filter garbage inp).mp hgood).1
  rw [scoreModesMessage_garbage modes f filter garbage mm.msg,
    scoreModesMessage_of_notZeros modes f filter mm.msg inp hzeros] at hgood
  rw [scoreModesMessage_garbage modes f filter' garbage' mm.msg,
    scoreModesMessage_of_notZeros modes f filter' mm.msg inp hzeros]
  obtain ⟨htype, hmsg, hbits, hiid⟩ := checksumFields_announces hfields hannounces
  generalize (decodeModesMessage modes (modesChecksumInit f) filter garbage mm inp).2 = r at *
  generalize hc : correctMessage modes (modesChecksumInit f) inp mm.msg = c at *
  obtain ⟨hcorrected, hclass⟩ := hannounces
  have hnone : ¬ c.result > 0 := by
    intro hpos
    have hbits' : r.correctedbits = c.result.toNat := hbits.trans (if_pos hpos)
    omega
  have hdf : r.msgtype = (downlinkFormat c.out).toNat := htype
  have hout : r.msg = c.out := hmsg
  obtain ⟨h11, -⟩ | h17 | h18 := hclass
  · have hdf11 : (downlinkFormat c.out).toNat = 11 := hdf.symm.trans h11
    have hshort : ¬ downlinkFormat c.out &&& 16 ≠ 0 := by
      rw [show downlinkFormat c.out = 11#32 from BitVec.eq_of_toNat_eq hdf11]
      decide
    have hzeroIid : checkedSyndrome c.short_syndrome c.out shortMsgBits &&& 0x7F = 0 := by
      have hcrc := hiid h11
      dsimp only [ModesMessage.corrected] at hcrc
      rwa [if_neg hshort] at hcrc
    rw [scoreCorrected_df11 hdf11, scoreDF11_accepted] at hgood
    have hzero : c.result = 0 ∨ c.result = 1 := hgood.elim (fun h => Or.inl h.1) And.left
    have hzero : c.result = 0 := by omega
    rw [scoreCorrected_df11 hdf11, hzero, hzeroIid, knownRank, lookedUp, h11, hout]
    exact rank_eq_known (by decide) _
  · have hdf17 : (downlinkFormat c.out).toNat = 17 := hdf.symm.trans h17
    rw [scoreCorrected_df17 hdf17, scoreDF17_accepted] at hgood
    have hzero : c.result = 0 := by omega
    rw [scoreCorrected_df17 hdf17, hzero, knownRank, lookedUp, h17, hout]
    exact rank_eq_known (by decide) _
  · have hdf18 : (downlinkFormat c.out).toNat = 18 := hdf.symm.trans h18
    rw [scoreCorrected_df18 hdf18, scoreDF18_accepted] at hgood
    have hzero : c.result = 0 := by omega
    rw [scoreCorrected_df18 hdf18, hzero, knownRank, lookedUp, h18, hout]
    exact rank_eq_known (by decide) _

end Score

/-! ### Feedback -/

section Feedback
variable {s : FilterState} {r : Recent} {mm : ModesMessage}

/-- A table is full of other addresses. -/
def IcaoTable.FullOfOthers (table : IcaoTable) (addr : BitVec 32) : Prop :=
  table.addresses.card = 4096 ∧ addr ∉ table.addresses

/-- **The address stays known** until the second flip, if it was added or was there. -/
theorem known_of_unmarked (h : Holds s r) (hannounces : Announces mm)
    (hroom : ¬ s.filter.active.FullOfOthers (lookedUp mm)) (hcondition : ¬ Marked mm ∨ lookedUp mm ∈ r.current)
    (calls : List FilterCall) (hflips : countFlips (s.accept mm).next_flip calls < 2) :
    icaoFilterTest (calls.foldl FilterState.step (s.accept mm)).filter (lookedUp mm) = true := by
  rw [s.accept_of_announces hannounces] at hflips ⊢
  have hstep := h.step (.add ⟨addedAddress mm, ne_emptySlot (addedAddress_lt mm)⟩)
  rw [(hstep.run calls).test_iff (ne_emptySlot (lookedUp_lt mm))]
  have hmem : lookedUp mm ∈ (r.step (.add ⟨addedAddress mm, ne_emptySlot (addedAddress_lt mm)⟩)).current := by
    by_cases hthere : lookedUp mm ∈ r.current
    · exact r.current_subset_add _ hthere
    · have hunmarked : ¬ Marked mm := hcondition.resolve_right hthere
      have hcard : ¬ r.current.card = 4096 := fun hcard => hroom (by
        rw [IcaoTable.FullOfOthers, h.current]
        exact ⟨hcard, hthere⟩)
      simp only [Recent.step]
      rw [if_neg hcard, addedAddress, if_neg hunmarked]
      exact Finset.mem_insert_self _ _
  rw [hstep.next_flip] at hflips
  exact Recent.keeps calls (Or.inl ⟨hmem, hflips⟩)

/-- What is in the current period's set after an address was added. -/
theorem Recent.mem_add {addr : BitVec 32} {a : IcaoAddress} (h : addr ∈ (r.step (.add a)).current) :
    addr = a.val ∨ addr ∈ r.current := by
  simp only [Recent.step] at h
  split at h
  · exact Or.inr h
  · exact Finset.mem_insert.mp h

theorem Recent.step_flip (r : Recent) :
    r.step (.expire r.next_flip) = ⟨∅, r.current, r.next_flip + icaoFilterTTL⟩ := if_pos (le_refl _)

theorem lookedUp_ne_added (hmarked : Marked mm) : lookedUp mm ≠ addedAddress mm := by
  rw [addedAddress, if_pos hmarked]
  have hne := scoredKey_ne_marked mm ((announcedAddress mm.msg).setWidth 24) (mm.msgtype = 18)
  rwa [← lookedUp_eq mm] at hne

/-- A marked address that is not in the active table is unknown, at the latest after the
next flip. -/
theorem unknown_of_marked (h : Holds s r) (hannounces : Announces mm) (hmarked : Marked mm)
    (hthere : lookedUp mm ∉ r.current) :
    ∃ calls, countFlips (s.accept mm).next_flip calls < 2 ∧
      ¬ icaoFilterTest (calls.foldl FilterState.step (s.accept mm)).filter (lookedUp mm) = true := by
  refine ⟨[.expire (s.accept mm).next_flip], ?_, ?_⟩
  · rw [countFlips, if_pos (le_refl _)]
    exact Nat.one_lt_two
  · rw [s.accept_of_announces hannounces]
    have hstep := h.step (.add ⟨addedAddress mm, ne_emptySlot (addedAddress_lt mm)⟩)
    rw [(hstep.run _).test_iff (ne_emptySlot (lookedUp_lt mm)), hstep.next_flip]
    rw [List.foldl_cons, List.foldl_nil, Recent.step_flip]
    intro hmem
    obtain hmem | hmem := hmem
    · exact absurd hmem (Finset.notMem_empty _)
    · exact (Recent.mem_add hmem).elim (lookedUp_ne_added hmarked) hthere

/-- **No other address becomes known.** -/
theorem known_before (h : Holds s r) (addr : BitVec 24) (nt : Bool)
    (hknown : icaoFilterTest (s.accept mm).filter (scoredKey addr nt) = true) :
    icaoFilterTest s.filter (scoredKey addr nt) = true ∨
      Announces mm ∧ scoredKey addr nt = lookedUp mm := by
  by_cases hannounces : Announces mm
  · have hkey := ne_emptySlot (scoredKey_lt addr nt)
    have hstep := h.step (.add ⟨addedAddress mm, ne_emptySlot (addedAddress_lt mm)⟩)
    rw [s.accept_of_announces hannounces, hstep.test_iff hkey] at hknown
    rw [h.test_iff hkey]
    obtain hcurrent | hpreceding := hknown
    · obtain hkey | hthere := Recent.mem_add hcurrent
      · have hadded : scoredKey addr nt = addedAddress mm := hkey
        refine Or.inr ⟨hannounces, hadded.trans (if_neg fun hmarked => ?_)⟩
        rw [addedAddress, if_pos hmarked] at hadded
        exact scoredKey_ne_marked mm addr nt hadded
      · exact Or.inl (Or.inl hthere)
    · exact Or.inl (Or.inr hpreceding)
  · rw [s.accept_of_not_announces hannounces] at hknown
    exact Or.inl hknown

end Feedback

/-- **Main theorem.** Whatever was added before: a message that announces its address, scored
again before the second flip, is of a known address exactly if its address is not marked or
was in the active table before (unless that was full of others); and no other address
becomes known through a message. -/
theorem feedback (modes : Modes) (f : Fin 3) (garbage : Buffer) (mm : ModesMessage) (inp : Buffer)
    (calls : List FilterCall) :
    let s := calls.foldl FilterState.step .init
    let decoded := decodeModesMessage modes (modesChecksumInit f) s.filter garbage mm inp
    (mm.score = SR_NOT_SET ∨
      mm.score = scoreModesMessage modes (modesChecksumInit f) s.filter garbage inp) →
    decoded.1 = 0 →
    (Announces decoded.2 → ¬ s.filter.active.FullOfOthers (lookedUp decoded.2) →
      ((∀ later, countFlips (s.accept decoded.2).next_flip later < 2 → ∀ garbage',
          scoreModesMessage modes (modesChecksumInit f)
            (later.foldl FilterState.step (s.accept decoded.2)).filter garbage' inp = knownRank decoded.2) ↔
        ¬ Marked decoded.2 ∨ lookedUp decoded.2 ∈ s.filter.active.addresses)) ∧
    ∀ (addr : BitVec 24) (nt : Bool), icaoFilterTest (s.accept decoded.2).filter (scoredKey addr nt) = true →
      icaoFilterTest s.filter (scoredKey addr nt) = true ∨
        Announces decoded.2 ∧ scoredKey addr nt = lookedUp decoded.2 := by
  intro s decoded hscore haccept
  have hholds := holds_init.run calls
  refine ⟨fun hannounces hroom => ?_, known_before hholds⟩
  have hrank := score_known_iff hscore haccept hannounces
  rw [hholds.current]
  constructor
  · intro hknown
    by_contra hcondition
    obtain ⟨hmarked, hthere⟩ := not_or.mp hcondition
    obtain ⟨later, hflips, hunknown⟩ := unknown_of_marked hholds hannounces (not_not.mp hmarked) hthere
    exact hunknown ((hrank _ garbage).mp (hknown later hflips garbage))
  · intro hcondition later hflips garbage'
    exact (hrank _ garbage').mpr (known_of_unmarked hholds hannounces hroom hcondition later hflips)

/-- A TIS-B message with an address that is none of ICAO: DF18 with CF 5. -/
def tisbMessage : Buffer :=
  ⟨[0x95, 0xAB, 0xCD, 0xEF, 0x58, 0xC3, 0x82, 0xD6, 0x90, 0xC8, 0xAC, 0xFF, 0xC3, 0xC3], rfl⟩

/-- No error correction. -/
def plainModes : Modes := ⟨0, false, false, false⟩

theorem empty_notFull (addr : BitVec 32) : ¬ FilterState.init.filter.active.FullOfOthers addr := by
  intro h
  have hempty : FilterState.init.filter.active.addresses = ∅ := addresses_replicate
  rw [IcaoTable.FullOfOthers, hempty] at h
  exact absurd h.1 (by decide)

/-- The message is accepted, and still of an unknown address right after. -/
theorem marked_stays_unknown :
    let decoded := decodeModesMessage plainModes (modesChecksumInit 0) icaoFilterInit Buffer.zero zeroMessage
      tisbMessage
    decoded.1 = 0 ∧ Announces decoded.2 ∧
      ¬ FilterState.init.filter.active.FullOfOthers (lookedUp decoded.2) ∧
      scoreModesMessage plainModes (modesChecksumInit 0) (FilterState.init.accept decoded.2).filter
        Buffer.zero tisbMessage ≠ knownRank decoded.2 := by
  intro decoded
  have hfields : decoded.1 = 0 ∧ Announces decoded.2 ∧
      scoreModesMessage plainModes (modesChecksumInit 0) (FilterState.init.accept decoded.2).filter
        Buffer.zero tisbMessage ≠ knownRank decoded.2 := by
    decide +kernel +zetaReduce
  exact ⟨hfields.1, hfields.2.1, empty_notFull _, hfields.2.2⟩

/-- An extended squitter without errors. -/
def squitter : Buffer :=
  ⟨[0x8D, 0x48, 0x40, 0xD6, 0x20, 0x2C, 0xC3, 0x71, 0xC3, 0x2C, 0xE0, 0x57, 0x60, 0x98], rfl⟩

/-- Its address is known from then on. -/
theorem feedback_squitter :
    let decoded := decodeModesMessage plainModes (modesChecksumInit 0) icaoFilterInit Buffer.zero zeroMessage
      squitter
    ∀ later, countFlips (FilterState.init.accept decoded.2).next_flip later < 2 → ∀ garbage',
      scoreModesMessage plainModes (modesChecksumInit 0)
        (later.foldl FilterState.step (FilterState.init.accept decoded.2)).filter garbage' squitter =
          knownRank decoded.2 := by
  intro decoded
  have hfields : decoded.1 = 0 ∧ Announces decoded.2 ∧ ¬ Marked decoded.2 := by
    decide +kernel +zetaReduce
  obtain ⟨haccept, hannounces, hunmarked⟩ := hfields
  exact ((feedback plainModes 0 Buffer.zero zeroMessage squitter [] (.inl rfl) haccept).1 hannounces
    (empty_notFull _)).mpr (.inl hunmarked)

end RbFeeder.ModeS
