import RbFeeder.ModeS.Correction
import RbFeeder.ModeS.Decode

/-! What the score of a message depends on.

The syndromes that `correctMessage` hands back are those of the bytes it was given
(`correctMessageWith_syndromes`), and the scorer recomputes one only if it was not
computed at all. So a score is a function of the message as received, the message
as corrected and the number of corrections (`scoreModesMessage_eq`), whatever the
scorer's buffer held before, and the accepting scores are those of the messages
that `Acceptable` describes (`scoreModesMessage_accepted`). -/
namespace RbFeeder.ModeS
open ScoreRank

/-! ### Syndromes -/

theorem getLsbD_crcFold (message : List Byte) :
    (message.foldl crcByte 0).getLsbD 31 = false := by
  rcases List.eq_nil_or_concat message with rfl | ⟨front, last, rfl⟩
  · rfl
  · rw [List.concat_eq_append, List.foldl_append, List.foldl_cons, List.foldl_nil, crcByte,
      BitVec.getLsbD_and]
    exact Bool.and_false _

/-- A checksum has 24 bits, so it is never mistaken for a missing one. -/
theorem modesChecksum_ne_unchecked (message : List Byte) (bits : Nat) :
    modesChecksum message bits ≠ uncheckedSyndrome := by
  intro h
  have hbit := congrArg (BitVec.getLsbD · 31) h
  simp only [modesChecksum, BitVec.getLsbD_xor] at hbit
  rw [getLsbD_crcFold] at hbit
  simp [uncheckedSyndrome] at hbit

theorem checkedSyndrome_of_checked {syndrome : BitVec 32} {message : List Byte} {bits : Nat}
    (h : syndrome = modesChecksum message bits) (msg : Buffer) (bits' : Nat) :
    checkedSyndrome syndrome msg bits' = modesChecksum message bits := by
  rw [checkedSyndrome, h, if_neg (modesChecksum_ne_unchecked message bits)]

/-- Recomputing the checksum of an unchanged message gives what was to be checked. -/
theorem checkedSyndrome_of_same {syndrome : BitVec 32} {a b : Buffer} {bits : Nat}
    (hbits : bits = 56 ∨ bits = 112) (hsame : b.bytes.take (bits / 8) = a.bytes.take (bits / 8))
    (h : syndrome = uncheckedSyndrome ∨ syndrome = modesChecksum a.bytes bits) :
    checkedSyndrome syndrome b bits = modesChecksum a.bytes bits := by
  rcases h with h | h
  · rw [checkedSyndrome, if_pos h, modesChecksum_congr (by omega) hsame]
  · exact checkedSyndrome_of_checked h b bits

/-- The syndromes of `correctMessageWith` are those of its input, where computed. -/
theorem correctMessageWith_syndromes (long_dfs short_dfs : BitVec 32) (tables : ErrorTables)
    (inp out : Buffer) :
    let r := correctMessageWith long_dfs short_dfs tables inp out
    (r.short_syndrome = uncheckedSyndrome ∨ r.short_syndrome = modesChecksum inp.bytes 56) ∧
      (¬ ValidLong inp → Admits short_dfs inp → r.short_syndrome = modesChecksum inp.bytes 56) ∧
      (r.long_syndrome = uncheckedSyndrome ∨ r.long_syndrome = modesChecksum inp.bytes 112) ∧
      (Admits long_dfs inp → r.long_syndrome = modesChecksum inp.bytes 112) := by
  have hcomputed (c : Prop) [Decidable c] (x : BitVec 32) :
      ((if c then x else uncheckedSyndrome) = uncheckedSyndrome ∨
        (if c then x else uncheckedSyndrome) = x) ∧
      (c → (if c then x else uncheckedSyndrome) = x) := by
    split <;> simp [*]
  obtain ⟨hlong, hlongChecked⟩ := hcomputed (Admits long_dfs inp) (modesChecksum inp.bytes 112)
  obtain ⟨hshort, hshortChecked⟩ := hcomputed (Admits short_dfs inp) (modesChecksum inp.bytes 56)
  simp only [correctMessageWith]
  by_cases hvalid : Admits long_dfs inp ∧ isLongPIMessage inp = true ∧
      (if Admits long_dfs inp then modesChecksum inp.bytes longMsgBits else uncheckedSyndrome) = 0
  · rw [if_pos hvalid]
    refine ⟨.inl rfl, fun hnl => absurd ⟨hvalid.2.1, ?_⟩ hnl, hlong, hlongChecked⟩
    rw [← hlongChecked hvalid.1]
    exact hvalid.2.2
  · rw [if_neg hvalid, apply_ite Corrected.short_syndrome, apply_ite Corrected.long_syndrome,
      ite_self, ite_self]
    exact ⟨hshort, fun _ => hshortChecked, hlong, hlongChecked⟩

section Outcomes
variable {f : Nat} {long_dfs short_dfs : BitVec 32} {inp out : Buffer} {k : Int} {syndrome : BitVec 32}

theorem format_of_long {msg : Buffer} (h : isLongPIMessage msg) : downlinkFormat msg &&& 16 ≠ 0 := by
  rw [isLongPIMessage, Bool.or_eq_true, beq_iff_eq, beq_iff_eq] at h
  rcases h with h | h <;> rw [h] <;> decide

theorem format_of_short {msg : Buffer} (h : isShortPIMessage msg) : downlinkFormat msg &&& 16 = 0 := by
  rw [isShortPIMessage, beq_iff_eq] at h
  rw [h]
  decide

/-- The short syndrome, checked on a short output, is the one of the input. -/
theorem Outcome.checked_short (h : Outcome f long_dfs short_dfs inp k out)
    (hsyn : syndrome = uncheckedSyndrome ∨ syndrome = modesChecksum inp.bytes 56)
    (hchecked : ¬ ValidLong inp → Admits short_dfs inp → syndrome = modesChecksum inp.bytes 56)
    (hdf : downlinkFormat out &&& 16 = 0) :
    checkedSyndrome syndrome out shortMsgBits = modesChecksum inp.bytes 56 := by
  cases h with
  | validLong hvalid => exact absurd hdf (format_of_long hvalid.1)
  | validShort o hvalid =>
    exact checkedSyndrome_of_same (.inl rfl) (take_memcpy o inp 7 (by decide)) hsyn
  | fixedLong l _ _ _ hl => exact absurd hdf (format_of_long hl.format)
  | fixedShort i o hnl _ hadmits _ => exact checkedSyndrome_of_checked (hchecked hnl hadmits) _ _
  | uncorrectable => exact checkedSyndrome_of_same (.inl rfl) rfl hsyn

/-- The long syndrome, checked on a long output, is the one of the input. -/
theorem Outcome.checked_long (h : Outcome f long_dfs short_dfs inp k out)
    (hsyn : syndrome = uncheckedSyndrome ∨ syndrome = modesChecksum inp.bytes 112)
    (hchecked : Admits long_dfs inp → syndrome = modesChecksum inp.bytes 112)
    (hdf : downlinkFormat out &&& 16 ≠ 0) :
    checkedSyndrome syndrome out longMsgBits = modesChecksum inp.bytes 112 := by
  have hshort {a b : Buffer} (htake : a.bytes.take 7 = b.bytes.take 7) (hb : isShortPIMessage b) :
      downlinkFormat a &&& 16 = 0 := by
    rw [downlinkFormat_congr (by decide) htake]
    exact format_of_short hb
  cases h with
  | validLong hvalid => exact checkedSyndrome_of_same (.inr rfl) rfl hsyn
  | validShort o hvalid => exact absurd (hshort (take_memcpy o inp 7 (by decide)) hvalid.1) hdf
  | fixedLong l _ _ hadmits _ => exact checkedSyndrome_of_checked (hchecked hadmits) _ _
  | fixedShort i o _ _ _ hi => exact absurd (hshort (take_shortFix o inp i) hi.format) hdf
  | uncorrectable => exact checkedSyndrome_of_same (.inr rfl) rfl hsyn

end Outcomes

/-! ### Scores -/

/-- The score of `inp` when it is corrected to `out` with `k` corrections. -/
def scoreAs (modes : Modes) (filter : IcaoFilter) (inp : Buffer) (k : Int) (out : Buffer) : ScoreRank :=
  scoreCorrected modes filter ⟨k, out, modesChecksum inp.bytes 56, modesChecksum inp.bytes 112⟩

/-- The first seven bytes of the message are zero. -/
abbrev AllZeros (inp : Buffer) : Prop := inp.bytes.take shortMsgBytes = List.replicate shortMsgBytes 0

/-- A score reads a syndrome only over the length of the corrected message. -/
theorem scoreCorrected_congr (modes : Modes) (filter : IcaoFilter) {c c' : Corrected}
    (hresult : c.result = c'.result) (hdf : downlinkFormat c.out = downlinkFormat c'.out)
    (haddr : announcedAddress c.out = announcedAddress c'.out)
    (hshort : downlinkFormat c.out &&& 16 = 0 → checkedSyndrome c.short_syndrome c.out shortMsgBits =
      checkedSyndrome c'.short_syndrome c'.out shortMsgBits)
    (hlong : downlinkFormat c.out &&& 16 ≠ 0 → checkedSyndrome c.long_syndrome c.out longMsgBits =
      checkedSyndrome c'.long_syndrome c'.out longMsgBits) :
    scoreCorrected modes filter c = scoreCorrected modes filter c' := by
  have hformat {n : Nat} (h : (downlinkFormat c.out).toNat = n) :
      downlinkFormat c.out &&& 16 = BitVec.ofNat 32 n &&& 16 := by
    rw [← h, BitVec.ofNat_toNat, BitVec.setWidth_eq]
  simp only [scoreCorrected, ← hdf, ← hresult, ← haddr]
  split <;> rename_i hn <;> first
    | rw [hshort (by rw [hformat hn]; decide)]
    | rw [hlong (by rw [hformat hn]; decide)]
    | rfl

theorem scoreModesMessage_eq (modes : Modes) (f : Fin 3) (filter : IcaoFilter) (garbage inp : Buffer)
    (hzeros : ¬ AllZeros inp) :
    let c := correctMessage modes (modesChecksumInit f) inp garbage
    scoreModesMessage modes (modesChecksumInit f) filter garbage inp =
      scoreAs modes filter inp c.result c.out := by
  intro c
  have houtcome : Outcome f _ _ inp c.result c.out := correctMessage_outcome modes f inp garbage
  obtain ⟨hshort, hshortChecked, hlong, hlongChecked⟩ :=
    correctMessageWith_syndromes (dfCorrectableLong.get modes.fixDfBits)
      (dfCorrectableShort.get modes.fixDfBits)
      (modesChecksumInit f) inp garbage
  rw [scoreModesMessage, if_neg hzeros]
  refine scoreCorrected_congr modes filter rfl rfl rfl (fun hdf => ?_) (fun hdf => ?_)
  · exact (houtcome.checked_short hshort hshortChecked hdf).trans
      (checkedSyndrome_of_checked rfl _ _).symm
  · exact (houtcome.checked_long hlong hlongChecked hdf).trans
      (checkedSyndrome_of_checked rfl _ _).symm

/-! ### Accepting scores -/

theorem rank_accepted (recent : Bool) {known unknown : ScoreRank}
    (hknown : ¬ known < SR_ACCEPT_THRESHOLD) :
    ¬ rank recent known unknown < SR_ACCEPT_THRESHOLD ↔
      ¬ unknown < SR_ACCEPT_THRESHOLD ∨ recent = true := by
  cases recent <;> simp [rank, hknown]

theorem scoreDF11_accepted (k : Int) (iid : BitVec 32) (recent : Bool) :
    ¬ scoreDF11 k iid recent < SR_ACCEPT_THRESHOLD ↔
      (k = 0 ∧ iid = 0) ∨ ((k = 0 ∨ k = 1) ∧ recent = true) := by
  have hACQ : ¬ SR_DF11_ACQ_UNKNOWN < SR_ACCEPT_THRESHOLD := by decide
  have hIID : SR_DF11_IID_UNKNOWN < SR_ACCEPT_THRESHOLD := by decide
  have hACQ1 : SR_DF11_ACQ_1ERROR_UNKNOWN < SR_ACCEPT_THRESHOLD := by decide
  have hIID1 : SR_DF11_IID_1ERROR_UNKNOWN < SR_ACCEPT_THRESHOLD := by decide
  unfold scoreDF11
  split
  · split <;> rw [rank_accepted recent (by decide)] <;> simp_all
  · split <;> rw [rank_accepted recent (by decide)] <;> simp_all
  · next h0 h1 =>
    refine iff_of_false (not_not.mpr (by decide)) ?_
    intro hgiven
    obtain ⟨h, -⟩ | ⟨h | h, -⟩ := hgiven
    exacts [h0 h, h0 h, h1 h]

theorem scoreSquitter_accepted {known unknown : Fin 3 → ScoreRank}
    (hknown : ∀ i, ¬ known i < SR_ACCEPT_THRESHOLD)
    (hunknown : ∀ i, ¬ unknown i < SR_ACCEPT_THRESHOLD ↔ i ≠ 2) (k : Int) (recent : Bool) :
    ¬ scoreSquitter known unknown k recent < SR_ACCEPT_THRESHOLD ↔
      k = 0 ∨ k = 1 ∨ (k = 2 ∧ recent = true) := by
  unfold scoreSquitter
  split
  · rw [rank_accepted recent (hknown 0), hunknown 0]
    simp
  · rw [rank_accepted recent (hknown 1), hunknown 1]
    simp
  · rw [rank_accepted recent (hknown 2), hunknown 2]
    simp
  · next h0 h1 h2 =>
    refine iff_of_false (not_not.mpr (by decide)) ?_
    intro hgiven
    obtain h | h | ⟨h, -⟩ := hgiven
    exacts [h0 h, h1 h, h2 h]

theorem scoreDF17_accepted (k : Int) (recent : Bool) :
    ¬ scoreDF17 k recent < SR_ACCEPT_THRESHOLD ↔ k = 0 ∨ k = 1 ∨ (k = 2 ∧ recent = true) :=
  scoreSquitter_accepted (by decide) (by decide) k recent

theorem scoreDF18_accepted (k : Int) (recent : Bool) :
    ¬ scoreDF18 k recent < SR_ACCEPT_THRESHOLD ↔ k = 0 ∨ k = 1 ∨ (k = 2 ∧ recent = true) :=
  scoreSquitter_accepted (by decide) (by decide) k recent

/-- Corrected to `out` with `k` corrections, the message is good enough: for the
formats that overlay the checksum with the address, if the address is known; for
the others if there are few errors, or the address is known and a few more. -/
def AcceptableAs (modes : Modes) (filter : IcaoFilter) (inp : Buffer) (k : Int) (out : Buffer) :
    Prop :=
  match (downlinkFormat out).toNat with
  | 0 | 4 | 5 => icaoFilterTest filter (modesChecksum inp.bytes 56) = true
  | 16 | 20 | 21 => icaoFilterTest filter (modesChecksum inp.bytes 112) = true
  | 24 | 25 | 26 | 27 | 28 | 29 | 30 | 31 =>
    modes.enable_df24 = true ∧ icaoFilterTest filter (modesChecksum inp.bytes 112) = true
  | 11 => (k = 0 ∧ modesChecksum inp.bytes 56 &&& 0x7F = 0) ∨
      ((k = 0 ∨ k = 1) ∧ icaoFilterTest filter (announcedAddress out) = true)
  | 17 => k = 0 ∨ k = 1 ∨ (k = 2 ∧ icaoFilterTest filter (announcedAddress out) = true)
  | 18 => k = 0 ∨ k = 1 ∨
      (k = 2 ∧ icaoFilterTest filter (announcedAddress out ||| icaoFilterAdsbNt) = true)
  | _ => False

theorem scoreAs_accepted (modes : Modes) (filter : IcaoFilter) (inp : Buffer) (k : Int) (out : Buffer) :
    ¬ scoreAs modes filter inp k out < SR_ACCEPT_THRESHOLD ↔ AcceptableAs modes filter inp k out := by
  have hchecked (bits : Nat) : checkedSyndrome (modesChecksum inp.bytes bits) out bits =
      modesChecksum inp.bytes bits := checkedSyndrome_of_checked rfl _ _
  have hshort := hchecked 56
  have hlong := hchecked 112
  have hAP : SR_UNRELIABLE_UNKNOWN < SR_ACCEPT_THRESHOLD := by decide
  have haddress (recent : Bool) :
      ¬ rank recent SR_UNRELIABLE_KNOWN SR_UNRELIABLE_UNKNOWN < SR_ACCEPT_THRESHOLD ↔
        recent = true := by
    rw [rank_accepted recent (by decide)]
    simp [hAP]
  have hrejected (score : ScoreRank) (p : Prop) (hscore : score < SR_ACCEPT_THRESHOLD) (hp : ¬ p) :
      ¬ score < SR_ACCEPT_THRESHOLD ↔ p := iff_of_false (not_not.mpr hscore) hp
  unfold scoreAs scoreCorrected AcceptableAs
  simp only [shortMsgBits, longMsgBits, hshort, hlong]
  generalize (downlinkFormat out).toNat = df
  split
  case h_15 => exact scoreDF11_accepted _ _ _
  case h_16 => exact scoreDF17_accepted _ _
  case h_17 => exact scoreDF18_accepted _ _
  case h_18 =>
    refine hrejected _ _ (by decide) ?_
    simp [*]
  all_goals
    first
      | exact haddress _
      | split
        · next h24 => rw [haddress]; simp [h24]
        · next h24 => exact hrejected _ _ (by decide) fun h => h24 h.1

/-! ### What is accepted -/

theorem take_of_messageBytes {a b : Buffer} (h : messageBytes a = messageBytes b) :
    a.bytes.take 7 = b.bytes.take 7 := by
  have hhead (msg : Buffer) : (messageBytes msg).take 7 = msg.bytes.take 7 := by
    rw [messageBytes, List.take_take]
    congr 1
    unfold modesMessageLenByType
    split <;> rfl
  rw [← hhead a, h, hhead b]

theorem announcedAddress_congr {a b : Buffer} (h : a.bytes.take 7 = b.bytes.take 7) :
    announcedAddress a = announcedAddress b := by
  have hbytes (msg : Buffer) : announcedAddress msg =
      (((byteAt msg.bytes 1).setWidth 32 &&& (0xFF#32 >>> 0)) <<< 16) |||
        ((byteAt msg.bytes 2).setWidth 32 <<< 8) ||| ((byteAt msg.bytes 3).setWidth 32 >>> 0) := rfl
  rw [hbytes, hbytes, byteAt_congr h (by decide), byteAt_congr h (by decide),
    byteAt_congr h (by decide)]

section Accepted
variable (modes : Modes) (f : Fin 3) (filter : IcaoFilter)

/-- Whichever outcome is at hand, the score is the same. -/
theorem Outcome.scoreAs_unique {inp out out' : Buffer} {k k' : Int} {long_dfs short_dfs : BitVec 32}
    (h : Outcome f long_dfs short_dfs inp k out) (h' : Outcome f long_dfs short_dfs inp k' out') :
    scoreAs modes filter inp k out = scoreAs modes filter inp k' out' := by
  obtain ⟨rfl, hbytes⟩ := h.unique (by omega) h'
  have htake := take_of_messageBytes hbytes
  refine scoreCorrected_congr modes filter rfl (downlinkFormat_congr (by decide) htake)
    (announcedAddress_congr htake) (fun _ => ?_) (fun _ => ?_)
  · exact (checkedSyndrome_of_checked rfl _ _).trans (checkedSyndrome_of_checked rfl _ _).symm
  · exact (checkedSyndrome_of_checked rfl _ _).trans (checkedSyndrome_of_checked rfl _ _).symm

/-- The score does not depend on what the local buffer held. -/
theorem scoreModesMessage_garbage (garbage garbage' inp : Buffer) :
    scoreModesMessage modes (modesChecksumInit f) filter garbage inp =
      scoreModesMessage modes (modesChecksumInit f) filter garbage' inp := by
  by_cases hzeros : AllZeros inp
  · rw [scoreModesMessage, if_pos hzeros, scoreModesMessage, if_pos hzeros]
  · rw [scoreModesMessage_eq modes f filter garbage inp hzeros,
      scoreModesMessage_eq modes f filter garbage' inp hzeros]
    exact (correctMessage_outcome modes f inp garbage).scoreAs_unique modes f filter
      (correctMessage_outcome modes f inp garbage')

/-- The message is worth accepting: it is not empty, and as it stands or as the
tables repair it, it is of a type, with an address and few enough errors to be kept. -/
def Acceptable (inp : Buffer) : Prop :=
  ¬ AllZeros inp ∧ ∃ k out,
    Outcome f (dfCorrectableLong.get modes.fixDfBits) (dfCorrectableShort.get modes.fixDfBits)
      inp k out ∧
      AcceptableAs modes filter inp k out

theorem scoreModesMessage_accepted (garbage inp : Buffer) :
    ¬ scoreModesMessage modes (modesChecksumInit f) filter garbage inp < SR_ACCEPT_THRESHOLD ↔
      Acceptable modes f filter inp := by
  by_cases hzeros : AllZeros inp
  · rw [scoreModesMessage, if_pos hzeros]
    exact iff_of_false (not_not.mpr (by decide)) fun h => h.1 hzeros
  · have houtcome := correctMessage_outcome modes f inp garbage
    rw [scoreModesMessage_eq modes f filter garbage inp hzeros]
    constructor
    · exact fun h => ⟨hzeros, _, _, houtcome, (scoreAs_accepted ..).mp h⟩
    · intro hgiven
      obtain ⟨-, k, out, houtcome', has⟩ := hgiven
      rw [houtcome.scoreAs_unique modes f filter houtcome']
      exact (scoreAs_accepted ..).mpr has

/-- An accepted format is one whose checksum the decoder knows how to treat. -/
theorem AcceptableAs.checksumFields {inp out : Buffer} {k : Int}
    (h : AcceptableAs modes filter inp k out) {mm : ModesMessage}
    (htype : mm.msgtype = (downlinkFormat out).toNat) : ∃ mm', checksumFields mm = some mm' := by
  unfold AcceptableAs at h
  unfold ModeS.checksumFields
  rw [htype]
  generalize (downlinkFormat out).toNat = df at h
  split at h
  case h_18 => exact h.elim
  all_goals exact ⟨_, rfl⟩

/-- The return value of the decoder on a message that it scores itself, or that
comes with its score. -/
theorem decodeModesMessage_result (garbage inp : Buffer) (mm : ModesMessage)
    (hscore : mm.score = SR_NOT_SET ∨
      mm.score = scoreModesMessage modes (modesChecksumInit f) filter garbage inp) :
    let score := scoreModesMessage modes (modesChecksumInit f) filter garbage inp
    (decodeModesMessage modes (modesChecksumInit f) filter garbage mm inp).1 =
      if score < SR_UNKNOWN_THRESHOLD then -1 else if score < SR_ACCEPT_THRESHOLD then -2 else 0 := by
  intro score
  have hused : (if mm.score = SR_NOT_SET then score else mm.score) = score := by
    split
    · rfl
    · next hset => exact hscore.resolve_left hset
  simp only [decodeModesMessage]
  rw [hused]
  by_cases hunknown : score < SR_UNKNOWN_THRESHOLD
  · rw [if_pos hunknown, if_pos hunknown]
  rw [if_neg hunknown, if_neg hunknown]
  by_cases haccept : score < SR_ACCEPT_THRESHOLD
  · rw [if_pos haccept, if_pos haccept]
  rw [if_neg haccept, if_neg haccept]
  have hzeros : ¬ AllZeros inp := ((scoreModesMessage_accepted modes f filter garbage inp).mp haccept).1
  have hscored : ¬ scoreModesMessage modes (modesChecksumInit f) filter mm.msg inp <
      SR_ACCEPT_THRESHOLD := by
    rwa [scoreModesMessage_garbage modes f filter mm.msg garbage inp]
  rw [scoreModesMessage_eq modes f filter mm.msg inp hzeros, scoreAs_accepted] at hscored
  obtain ⟨mm', hfields⟩ : ∃ mm', checksumFields (({ mm with score := score } : ModesMessage).corrected
      inp (correctMessage modes (modesChecksumInit f) inp mm.msg)) = some mm' :=
    hscored.checksumFields modes filter rfl
  rw [hfields]

theorem decodeModesMessage_accepts (garbage inp : Buffer) (mm : ModesMessage)
    (hscore : mm.score = SR_NOT_SET ∨
      mm.score = scoreModesMessage modes (modesChecksumInit f) filter garbage inp)
    (h : Acceptable modes f filter inp) :
    (decodeModesMessage modes (modesChecksumInit f) filter garbage mm inp).1 = 0 := by
  have haccept := (scoreModesMessage_accepted modes f filter garbage inp).mpr h
  have hunknown : ¬ scoreModesMessage modes (modesChecksumInit f) filter garbage inp <
      SR_UNKNOWN_THRESHOLD :=
    fun h => haccept (Nat.lt_trans h (show SR_UNKNOWN_THRESHOLD.value < SR_ACCEPT_THRESHOLD.value by decide))
  rw [decodeModesMessage_result modes f filter garbage inp mm hscore, if_neg hunknown, if_neg haccept]

end Accepted

end RbFeeder.ModeS
