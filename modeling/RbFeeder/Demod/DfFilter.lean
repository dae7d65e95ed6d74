import RbFeeder.ModeS.ShortFrame

/-! The downlink format filter of `demodulate2400`.

After the first byte the demodulator knows the downlink format. Two bitsets say
whether a message of this format is long, short, or not worth demodulating; the
formats that a correction can turn into DF11, DF17 or DF18 are among them. The other
bytes of the buffer keep what the phase before has left there.

What the filter rejects, scoring would reject, and the bytes that are left over have
no influence on the score and on the message (`df_filter`). -/
namespace RbFeeder.Demod
open ModeS

/-! ### The bitsets -/

/-- `generate_damage_set(df, damage_bits)`. -/
def generate_damage_set (df : Nat) : Nat → BitVec 32
  | 0 => 1#32 <<< df
  | damage_bits + 1 =>
    (List.range 5).foldl
      (fun result bit => result ||| generate_damage_set (df ^^^ 1 <<< bit) damage_bits) (1#32 <<< df)

/-- `valid_df_short_bitset` and `valid_df_long_bitset`. -/
structure Bitsets where
  valid_df_short_bitset : BitVec 32
  valid_df_long_bitset : BitVec 32
deriving DecidableEq

/-- The bitset with the given elements. -/
def bitset (dfs : List Nat) : BitVec 32 := dfs.foldl (fun result df => result ||| 1#32 <<< df) 0

def init_bitsets (modes : Modes) : Bitsets :=
  let short := bitset [0, 4, 5, 11]
  let long := bitset [16, 17, 18, 20, 21]
  let long := if modes.enable_df24 then long ||| bitset [24, 25, 26, 27, 28, 29, 30, 31] else long
  if modes.fix_df ∧ modes.nfix_crc ≠ 0 then
    ⟨short ||| generate_damage_set 11 1,
      long ||| generate_damage_set 17 modes.nfix_crc ||| generate_damage_set 18 modes.nfix_crc⟩
  else ⟨short, long⟩

namespace Bitsets
variable (sets : Bitsets)

/-- `bytelen`, after the first byte. -/
def bytelen (theByte : Byte) : Nat :=
  let df := (theByte >>> 3).toNat
  if sets.valid_df_long_bitset &&& 1#32 <<< df ≠ 0 then longMsgBytes
  else if sets.valid_df_short_bitset &&& 1#32 <<< df ≠ 0 then shortMsgBytes
  else 1

/-- The buffer after the loop over `bytelen`: the bytes that were demodulated, over
what it held. -/
def demodulated (bytes stale : Buffer) : Buffer :=
  stale.memcpy bytes (sets.bytelen (byteAt bytes.bytes 0))

end Bitsets

/-! ### Formats -/

theorem downlinkFormat_eq_shift (msg : Buffer) :
    (downlinkFormat msg).toNat = (byteAt msg.bytes 0 >>> 3).toNat := by
  rw [downlinkFormat_eq]
  generalize byteAt msg.bytes 0 = b
  revert b
  decide +kernel

/-- The corrector's bitset of long formats is within that of the filter. -/
theorem admits_long_valid : ∀ (nfix_crc : Fin 3) (fix_df enable_df24 mode_ac : Bool) (df : Fin 32),
    let modes : Modes := ⟨nfix_crc, fix_df, enable_df24, mode_ac⟩
    dfCorrectableLong.get modes.fixDfBits &&& 1#32 <<< (df : Nat) ≠ 0 →
      (init_bitsets modes).valid_df_long_bitset &&& 1#32 <<< (df : Nat) ≠ 0 := by
  decide +kernel

/-- So is that of short formats, but for the long ones. -/
theorem admits_short_valid : ∀ (nfix_crc : Fin 3) (fix_df enable_df24 mode_ac : Bool) (df : Fin 32),
    let modes : Modes := ⟨nfix_crc, fix_df, enable_df24, mode_ac⟩
    dfCorrectableShort.get modes.fixDfBits &&& 1#32 <<< (df : Nat) ≠ 0 →
      (init_bitsets modes).valid_df_short_bitset &&& 1#32 <<< (df : Nat) ≠ 0 := by
  decide +kernel

/-- The formats that are scored as they are. -/
theorem scored_valid : ∀ (nfix_crc : Fin 3) (fix_df enable_df24 mode_ac : Bool) (df : Fin 32),
    let modes : Modes := ⟨nfix_crc, fix_df, enable_df24, mode_ac⟩
    ((df : Nat) ∈ [16, 17, 18, 20, 21] ∨ 24 ≤ (df : Nat) ∧ enable_df24 = true →
      (init_bitsets modes).valid_df_long_bitset &&& 1#32 <<< (df : Nat) ≠ 0) ∧
    ((df : Nat) ∈ [0, 4, 5, 11] → (init_bitsets modes).valid_df_short_bitset &&& 1#32 <<< (df : Nat) ≠ 0) := by
  decide +kernel

/-! ### Messages that are taken for short ones -/

section Correct
variable {long_dfs short_dfs : BitVec 32} {inp inp' : Buffer}

/-- What is decided by the first seven bytes of a message. -/
structure SameCorrected (c c' : Corrected) : Prop where
  result : c.result = c'.result
  out : c.out.bytes.take 7 = c'.out.bytes.take 7
  short_syndrome : c.short_syndrome = c'.short_syndrome

theorem goodShort_congr (htake : inp.bytes.take 7 = inp'.bytes.take 7) (ei : Option ErrorInfo) :
    goodShort inp ei = goodShort inp' ei := by
  refine congrArg (Option.filter · ei) (funext fun e => ?_)
  rw [modesChecksumFix_eq, modesChecksumFix_eq, isShortPIMessage_congr (take_flips_congr htake _)]

/-- Without a long diagnosis, the corrections are those of the short message. -/
theorem tryCorrections_congr (htake : inp.bytes.take 7 = inp'.bytes.take 7) (out out' : Buffer)
    (ei : Option ErrorInfo) :
    (tryCorrections inp out none ei).1 = (tryCorrections inp' out' none ei).1 ∧
      (tryCorrections inp out none ei).2.bytes.take 7 = (tryCorrections inp' out' none ei).2.bytes.take 7 ∧
      (isShortPIMessage (tryCorrections inp out none ei).2 ∨
        (tryCorrections inp out none ei).2 = inp) := by
  have hsame := goodShort_congr htake ei
  obtain ⟨e, he, -⟩ | ⟨e, o, he, -, heq⟩ | ⟨-, hnone, heq⟩ := tryCorrections_cases inp out none ei
  · cases he
  · obtain ⟨e', he', -⟩ | ⟨e', o', he', -, heq'⟩ | ⟨-, hnone', -⟩ := tryCorrections_cases inp' out' none ei
    · cases he'
    · rw [hsame, he'] at he
      obtain rfl := Option.some.inj he
      rw [heq, heq']
      have htake' := take_copyAndFix_short inp o e'
      refine ⟨rfl, htake'.trans ?_, Or.inl ?_⟩
      · rw [take_copyAndFix_short, modesChecksumFix_eq, modesChecksumFix_eq]
        exact take_flips_congr htake _
      · rw [← hsame] at he'
        have hgood := (Option.filter_eq_some_iff.mp he').2
        rw [Bool.and_eq_true] at hgood
        rw [isShortPIMessage_congr htake']
        exact hgood.2
    · rw [hsame, hnone'] at he
      cases he
  · obtain ⟨e', he', -⟩ | ⟨e', o', he', -⟩ | ⟨-, -, heq'⟩ := tryCorrections_cases inp' out' none ei
    · cases he'
    · rw [← hsame, hnone] at he'
      cases he'
    · rw [heq, heq']
      exact ⟨rfl, htake, Or.inr rfl⟩

/-- The syndrome of a short message, if it is computed. -/
def shortSyndrome (short_dfs : BitVec 32) (inp : Buffer) : BitVec 32 :=
  if Admits short_dfs inp then modesChecksum inp.bytes shortMsgBits else uncheckedSyndrome

/-- Its diagnosis. -/
def shortDiagnosis (short_dfs : BitVec 32) (tables : ErrorTables) (inp : Buffer) : Option ErrorInfo :=
  if Admits short_dfs inp then modesChecksumDiagnose tables (shortSyndrome short_dfs inp) shortMsgBits
  else none

/-- A message whose format is not in the long bitset is corrected as a short one. -/
theorem correctMessageWith_of_not_admits (tables : ErrorTables) (out : Buffer)
    (hlong : ¬ Admits long_dfs inp) :
    correctMessageWith long_dfs short_dfs tables inp out =
      if Admits short_dfs inp ∧ isShortPIMessage inp = true ∧
          shortSyndrome short_dfs inp &&& 0xFFFF80 = 0 then
        ⟨0, out.memcpy inp shortMsgBytes, shortSyndrome short_dfs inp, uncheckedSyndrome⟩
      else
        ⟨(tryCorrections inp out none (shortDiagnosis short_dfs tables inp)).1,
          (tryCorrections inp out none (shortDiagnosis short_dfs tables inp)).2,
          shortSyndrome short_dfs inp, uncheckedSyndrome⟩ := by
  have hnot : ¬ (Admits long_dfs inp ∧ isLongPIMessage inp = true ∧
      (if Admits long_dfs inp then modesChecksum inp.bytes longMsgBits else uncheckedSyndrome) = 0) :=
    fun h => hlong h.1
  simp only [correctMessageWith]
  rw [if_neg hnot, if_neg hlong, if_neg hlong]
  rfl

/-- Such a message is corrected by its first seven bytes, to a DF11 or not at all. -/
theorem correctMessageWith_congr (tables : ErrorTables) (out out' : Buffer) (hlong : ¬ Admits long_dfs inp)
    (htake : inp.bytes.take 7 = inp'.bytes.take 7) :
    SameCorrected (correctMessageWith long_dfs short_dfs tables inp out)
        (correctMessageWith long_dfs short_dfs tables inp' out') ∧
      (isShortPIMessage (correctMessageWith long_dfs short_dfs tables inp out).out ∨
        (correctMessageWith long_dfs short_dfs tables inp out).out = inp) := by
  have hformat : downlinkFormat inp = downlinkFormat inp' := downlinkFormat_congr (by decide) htake
  have hlong' : ¬ Admits long_dfs inp' := by
    rw [Admits, ← hformat]
    exact hlong
  have hshort : Admits short_dfs inp' ↔ Admits short_dfs inp := by
    rw [Admits, Admits, hformat]
  have hpi : isShortPIMessage inp' = isShortPIMessage inp := (isShortPIMessage_congr htake).symm
  have hsum : modesChecksum inp'.bytes shortMsgBits = modesChecksum inp.bytes shortMsgBits :=
    modesChecksum_congr (by decide) htake.symm
  have hsyndrome : shortSyndrome short_dfs inp' = shortSyndrome short_dfs inp := by
    simp only [shortSyndrome, hshort, hsum]
  have hdiagnosis : shortDiagnosis short_dfs tables inp' = shortDiagnosis short_dfs tables inp := by
    simp only [shortDiagnosis, hshort, hsyndrome]
  rw [correctMessageWith_of_not_admits tables out hlong, correctMessageWith_of_not_admits tables out' hlong']
  simp only [hshort, hpi, hsyndrome, hdiagnosis]
  split
  · next hvalid =>
    have hcopy := take_memcpy out inp 7 (by decide)
    refine ⟨⟨rfl, hcopy.trans (htake.trans (take_memcpy out' inp' 7 (by decide)).symm), rfl⟩, Or.inl ?_⟩
    rw [isShortPIMessage_congr (show (out.memcpy inp shortMsgBytes).bytes.take 7 = _ from hcopy)]
    exact hvalid.2.1
  · obtain ⟨hresult, hout, hcases⟩ := tryCorrections_congr htake out out' (shortDiagnosis short_dfs tables inp)
    exact ⟨⟨hresult, hout, rfl⟩, hcases⟩

end Correct

/-! ### Scores -/

/-- A format that is not scored at all, or only by its number. -/
theorem scoreCorrected_unscored (modes : Modes) (filter : IcaoFilter) (c : Corrected)
    (hshort : (downlinkFormat c.out).toNat ∉ [0, 4, 5, 11])
    (hlong : ¬ ((downlinkFormat c.out).toNat ∈ [16, 17, 18, 20, 21] ∨
      24 ≤ (downlinkFormat c.out).toNat ∧ modes.enable_df24 = true)) :
    scoreCorrected modes filter c =
      if 24 ≤ (downlinkFormat c.out).toNat then .SR_UNCORRECTABLE else .SR_UNKNOWN_DF := by
  have hlt := downlinkFormat_lt c.out
  unfold scoreCorrected
  dsimp only
  generalize (downlinkFormat c.out).toNat = df at hshort hlong hlt ⊢
  obtain ⟨hformats, helm⟩ := not_or.mp hlong
  interval_cases df
  all_goals first
    | exact absurd (by decide) hshort
    | exact absurd (by decide) hformats
    | rfl
    | exact if_neg fun h => helm ⟨by decide, h⟩

section Filter
variable {modes : Modes} {tables : ErrorTables} {filter : IcaoFilter} {garbage msg msg' : Buffer}

/-- The filter does not take the message for a long one. -/
def NotLong (modes : Modes) (msg : Buffer) : Prop :=
  ¬ Admits (init_bitsets modes).valid_df_long_bitset msg

theorem NotLong.admits (h : NotLong modes msg) : ¬ Admits (dfCorrectableLong.get modes.fixDfBits) msg := by
  obtain ⟨nfix_crc, fix_df, enable_df24, mode_ac⟩ := modes
  exact fun hadmits => h (admits_long_valid nfix_crc fix_df enable_df24 mode_ac
    ⟨_, downlinkFormat_lt msg⟩ hadmits)

theorem NotLong.scored (h : NotLong modes msg) :
    ¬ ((downlinkFormat msg).toNat ∈ [16, 17, 18, 20, 21] ∨
      24 ≤ (downlinkFormat msg).toNat ∧ modes.enable_df24 = true) := by
  obtain ⟨nfix_crc, fix_df, enable_df24, mode_ac⟩ := modes
  exact fun hscored => h ((scored_valid nfix_crc fix_df enable_df24 mode_ac
    ⟨_, downlinkFormat_lt msg⟩).1 hscored)

theorem NotLong.correctMessage_congr (h : NotLong modes msg) (tables : ErrorTables) (out out' : Buffer)
    (htake : msg.bytes.take 7 = msg'.bytes.take 7) :
    SameCorrected (correctMessage modes tables msg out) (correctMessage modes tables msg' out') ∧
      (isShortPIMessage (correctMessage modes tables msg out).out ∨
        (correctMessage modes tables msg out).out = msg) :=
  correctMessageWith_congr tables out out' h.admits htake

/-- What the filter says, by the format. -/
theorem bytelen_cases (modes : Modes) (msg : Buffer) :
    (init_bitsets modes).bytelen (byteAt msg.bytes 0) = 14 ∨
      NotLong modes msg ∧ ((init_bitsets modes).bytelen (byteAt msg.bytes 0) = 7 ∨
        (init_bitsets modes).bytelen (byteAt msg.bytes 0) = 1 ∧
          ¬ Admits (init_bitsets modes).valid_df_short_bitset msg) := by
  simp only [Bitsets.bytelen, ← downlinkFormat_eq_shift]
  by_cases hlong : Admits (init_bitsets modes).valid_df_long_bitset msg
  · exact Or.inl (if_pos hlong)
  rw [if_neg hlong]
  by_cases hshort : Admits (init_bitsets modes).valid_df_short_bitset msg
  · exact Or.inr ⟨hlong, Or.inl (if_pos hshort)⟩
  · exact Or.inr ⟨hlong, Or.inr ⟨if_neg hshort, hshort⟩⟩

/-- A message taken for a short one that has not become one is scored by its format. -/
theorem NotLong.unscored (h : NotLong modes msg) (out : Buffer)
    (hbit : downlinkFormat (correctMessage modes tables msg out).out &&& 16 ≠ 0) (c : Corrected)
    (hdf : downlinkFormat c.out = downlinkFormat (correctMessage modes tables msg out).out) :
    scoreCorrected modes filter c =
      if 24 ≤ (downlinkFormat c.out).toNat then .SR_UNCORRECTABLE else .SR_UNKNOWN_DF := by
  obtain ⟨-, hpi | hsame⟩ := h.correctMessage_congr tables out out rfl
  · exact absurd (format_of_short hpi) hbit
  · have hscored := h.scored
    rw [← hsame, ← hdf] at hscored
    rw [← hdf] at hbit
    refine scoreCorrected_unscored modes filter c (fun hmem => hbit ?_) hscored
    have hall : ∀ n ∈ [0, 4, 5, 11], BitVec.ofNat 32 n &&& 16 = 0 := by decide
    have hzero := hall _ hmem
    rwa [BitVec.ofNat_toNat, BitVec.setWidth_eq] at hzero

/-- A message that the filter rejects is not worth a score. -/
theorem score_rejected (h : NotLong modes msg)
    (hshort : ¬ Admits (init_bitsets modes).valid_df_short_bitset msg) :
    scoreModesMessage modes tables filter garbage msg < .SR_UNKNOWN_THRESHOLD := by
  have hlt := downlinkFormat_lt msg
  have hadmits : ¬ Admits (dfCorrectableShort.get modes.fixDfBits) msg := by
    obtain ⟨nfix_crc, fix_df, enable_df24, mode_ac⟩ := modes
    exact fun hadmits => hshort (admits_short_valid nfix_crc fix_df enable_df24 mode_ac ⟨_, hlt⟩ hadmits)
  have hscored : (downlinkFormat msg).toNat ∉ [0, 4, 5, 11] := by
    obtain ⟨nfix_crc, fix_df, enable_df24, mode_ac⟩ := modes
    exact fun hmem => hshort ((scored_valid nfix_crc fix_df enable_df24 mode_ac ⟨_, hlt⟩).2 hmem)
  have hout : (correctMessage modes tables msg garbage).out = msg := by
    have hdiagnosis : shortDiagnosis (dfCorrectableShort.get modes.fixDfBits) tables msg = none :=
      if_neg hadmits
    rw [correctMessage, correctMessageWith_of_not_admits tables garbage h.admits,
      if_neg fun hvalid => hadmits hvalid.1, hdiagnosis]
    obtain ⟨e, he, -⟩ | ⟨e, o, he, -⟩ | ⟨-, -, heq⟩ := tryCorrections_cases msg garbage none none
    · cases he
    · cases he
    · exact congrArg Prod.snd heq
  rw [scoreModesMessage]
  split
  · decide
  · rw [scoreCorrected_unscored modes filter _ (by rwa [hout]) (by rw [hout]; exact h.scored)]
    split <;> decide

/-- The score of a message taken for a short one is that of its first seven bytes. -/
theorem score_short (h : NotLong modes msg) (htake : msg.bytes.take 7 = msg'.bytes.take 7) :
    scoreModesMessage modes tables filter garbage msg =
      scoreModesMessage modes tables filter garbage msg' := by
  obtain ⟨hsame, hcases⟩ := h.correctMessage_congr tables garbage garbage htake
  have hdf : downlinkFormat (correctMessage modes tables msg garbage).out =
      downlinkFormat (correctMessage modes tables msg' garbage).out :=
    downlinkFormat_congr (by decide) hsame.out
  have hscore : scoreCorrected modes filter (correctMessage modes tables msg garbage) =
      scoreCorrected modes filter (correctMessage modes tables msg' garbage) := by
    by_cases hshort : downlinkFormat (correctMessage modes tables msg garbage).out &&& 16 = 0
    · refine scoreCorrected_congr modes filter hsame.result hdf (announcedAddress_congr hsame.out)
        (fun _ => ?_) (fun hlong => absurd hshort hlong)
      rw [checkedSyndrome, checkedSyndrome, hsame.short_syndrome,
        modesChecksum_congr (show 24 ≤ shortMsgBits by decide) hsame.out]
    · rw [h.unscored garbage hshort _ rfl, h.unscored garbage hshort _ hdf.symm, hdf]
  rw [scoreModesMessage, scoreModesMessage, show shortMsgBytes = 7 from rfl, htake, hscore]

/-! ### Decoding -/

/-- Two short messages that agree in their first seven bytes and all that is computed
from them. -/
structure SameDecoded (a b : ModesMessage) : Prop where
  score : a.score = b.score
  msgtype : a.msgtype = b.msgtype
  msgbits : a.msgbits = b.msgbits
  crc : a.crc = b.crc
  correctedbits : a.correctedbits = b.correctedbits
  IID : a.IID = b.IID
  msg : a.msg.bytes.take 7 = b.msg.bytes.take 7
  verbatim : a.verbatim.bytes.take 7 = b.verbatim.bytes.take 7
  short : a.msgtype < 16
  bits : a.msgbits = 56

theorem SameDecoded.received {a b : ModesMessage} (h : SameDecoded a b) : received a = received b :=
  received_congr h.score h.msgtype h.short h.bits (h.msgbits ▸ h.bits) h.crc h.correctedbits h.IID h.msg
    h.verbatim

theorem checksumFields_congr {a b : ModesMessage} (h : SameDecoded a b) :
    checksumFields a = none ∧ checksumFields b = none ∨
      ∃ a' b', checksumFields a = some a' ∧ checksumFields b = some b' ∧ SameDecoded a' b' := by
  unfold checksumFields
  rw [← h.msgtype]
  have hshort := h.short
  split
  case h_18 => exact Or.inl ⟨rfl, rfl⟩
  case h_9 =>
    exact Or.inr ⟨_, _, rfl, rfl, ⟨h.score, rfl, h.msgbits, h.crc, h.correctedbits,
      congrArg (· &&& 0x7f) h.crc, h.msg, h.verbatim, hshort, h.bits⟩⟩
  all_goals first
    | exact Or.inr ⟨_, _, rfl, rfl, h⟩
    | omega

/-- The corrected messages agree, if they are worth decoding. -/
theorem SameCorrected.decoded {c c' : Corrected} (h : SameCorrected c c')
    (htake : msg.bytes.take 7 = msg'.bytes.take 7) (hbit : downlinkFormat c.out &&& 16 = 0)
    (mm : ModesMessage) : SameDecoded (mm.corrected msg c) (mm.corrected msg' c') := by
  have hdf : downlinkFormat c.out = downlinkFormat c'.out := downlinkFormat_congr (by decide) h.out
  have hsyndrome : checkedSyndrome c.short_syndrome c.out shortMsgBits =
      checkedSyndrome c'.short_syndrome c'.out shortMsgBits := by
    rw [checkedSyndrome, checkedSyndrome, h.short_syndrome,
      modesChecksum_congr (show 24 ≤ shortMsgBits by decide) h.out]
  exact {
    score := rfl
    msgtype := congrArg BitVec.toNat hdf
    msgbits := congrArg modesMessageLenByType hdf
    crc := by
      simp only [ModesMessage.corrected]
      rw [← hdf, if_neg (not_not.mpr hbit), if_neg (not_not.mpr hbit), hsyndrome]
    correctedbits := congrArg (fun result : Int => if result > 0 then result.toNat else 0) h.result
    IID := rfl
    msg := h.out
    verbatim := htake
    short := toNat_lt_of_short (downlinkFormat_lt c.out) hbit
    bits := if_neg (not_not.mpr hbit) }

variable (tables filter garbage) in
/-- What the demodulator makes of two messages that agree in their first seven bytes,
and are taken for short ones. -/
theorem demodulateMessage_congr (h : NotLong modes msg) (htake : msg.bytes.take 7 = msg'.bytes.take 7)
    (stats : Stats) :
    (demodulateMessage modes tables filter garbage stats msg).2 = none ∧
        (demodulateMessage modes tables filter garbage stats msg').2 = none ∨
      ∃ a b, (demodulateMessage modes tables filter garbage stats msg).2 = some a ∧
        (demodulateMessage modes tables filter garbage stats msg').2 = some b ∧ SameDecoded a b := by
  have hscore : scoreModesMessage modes tables filter garbage msg' =
      scoreModesMessage modes tables filter garbage msg := (score_short h htake).symm
  simp only [demodulateMessage, demodulateCandidate, hscore]
  by_cases haccept : scoreModesMessage modes tables filter garbage msg < .SR_ACCEPT_THRESHOLD
  · simp only [haccept, if_true]
    split <;> exact Or.inl ⟨rfl, rfl⟩
  have hunknown : ¬ scoreModesMessage modes tables filter garbage msg < .SR_UNKNOWN_THRESHOLD :=
    fun hlow => haccept (Nat.lt_trans hlow
      (show ScoreRank.SR_UNKNOWN_THRESHOLD.value < ScoreRank.SR_ACCEPT_THRESHOLD.value by decide))
  have hset : scoreModesMessage modes tables filter garbage msg ≠ .SR_NOT_SET := by
    intro hnot
    rw [hnot] at haccept
    exact haccept (by decide)
  -- the decoder corrects the message once more, into another buffer
  obtain ⟨hsame, -⟩ := h.correctMessage_congr tables garbage zeroMessage.msg rfl
  have hbit : downlinkFormat (correctMessage modes tables msg zeroMessage.msg).out &&& 16 = 0 := by
    rw [← downlinkFormat_congr (by decide) hsame.out]
    by_contra hbit
    refine hunknown ?_
    rw [scoreModesMessage]
    split
    · decide
    · rw [h.unscored garbage hbit _ rfl]
      split <;> decide
  obtain ⟨hcorrected, -⟩ := h.correctMessage_congr tables zeroMessage.msg zeroMessage.msg htake
  have hdecoded := hcorrected.decoded htake hbit
    { zeroMessage with score := scoreModesMessage modes tables filter garbage msg }
  simp only [decodeModesMessage, hset, hunknown, haccept, if_false]
  obtain ⟨hnone, hnone'⟩ | ⟨a, b, ha, hb, hab⟩ := checksumFields_congr hdecoded
  · rw [hnone, hnone']
    exact Or.inl ⟨rfl, rfl⟩
  · rw [ha, hb]
    exact Or.inr ⟨a, b, rfl, rfl, hab⟩

/-! ### The filter -/

theorem take_demodulated (sets : Bitsets) (msg stale : Buffer)
    (h : sets.bytelen (byteAt msg.bytes 0) = 7) :
    msg.bytes.take 7 = (sets.demodulated msg stale).bytes.take 7 := by
  rw [Bitsets.demodulated, h, take_memcpy stale msg 7 (by decide)]

/-- **The filter of downlink formats.** A message that is rejected after its first byte would get a
score below the threshold. Of a message that is not, the score and what is received
of it are the same, whatever the buffer held before. -/
theorem df_filter (modes : Modes) (tables : ErrorTables) (filter : IcaoFilter) (garbage : Buffer)
    (stats : Stats) (msg : Buffer) :
    let sets := init_bitsets modes
    let bytelen := sets.bytelen (byteAt msg.bytes 0)
    bytelen = 1 ∧ scoreModesMessage modes tables filter garbage msg < .SR_UNKNOWN_THRESHOLD ∨
      (bytelen = shortMsgBytes ∨ bytelen = longMsgBytes) ∧ ∀ stale : Buffer,
        scoreModesMessage modes tables filter garbage (sets.demodulated msg stale) =
            scoreModesMessage modes tables filter garbage msg ∧
          (demodulateMessage modes tables filter garbage stats (sets.demodulated msg stale)).2.map received =
            (demodulateMessage modes tables filter garbage stats msg).2.map received := by
  intro sets bytelen
  obtain hlong | ⟨hnotLong, hshort | ⟨hrejected, hadmits⟩⟩ := bytelen_cases modes msg
  · refine Or.inr ⟨Or.inr hlong, fun stale => ?_⟩
    have hwhole : sets.demodulated msg stale = msg := by
      rw [Bitsets.demodulated, hlong]
      exact memcpy_long stale msg
    rw [hwhole]
    exact ⟨rfl, rfl⟩
  · refine Or.inr ⟨Or.inl hshort, fun stale => ?_⟩
    have htake := take_demodulated sets msg stale hshort
    refine ⟨(score_short hnotLong htake).symm, ?_⟩
    obtain ⟨hnone, hnone'⟩ | ⟨a, b, ha, hb, hab⟩ :=
      demodulateMessage_congr tables filter garbage hnotLong htake stats
    · rw [hnone, hnone']
    · rw [ha, hb, Option.map_some, Option.map_some, hab.received]
  · exact Or.inl ⟨hrejected, score_rejected hnotLong hadmits⟩

end Filter

end RbFeeder.Demod
