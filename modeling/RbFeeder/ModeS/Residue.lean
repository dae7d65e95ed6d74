import RbFeeder.ModeS.ScoreProofs

/-! Which message the checksum fields of a decoded message describe.

The syndrome that becomes `crc` is computed before anything is corrected, so `crc`
is the checksum of the message as received, over the length of the message as kept
(`correctMessage_residue`). It describes the kept message exactly when nothing was
corrected (`reportsKept_iff`). -/
namespace RbFeeder.ModeS
open ScoreRank

/-! ### Decoding -/

theorem checksumFields_eq_some {mm mm' : ModesMessage} (h : checksumFields mm = some mm') :
    mm'.msg = mm.msg ∧ mm'.msgbits = mm.msgbits ∧ mm'.crc = mm.crc ∧
      (mm'.msgtype = 11 → mm'.IID = mm.crc &&& 0x7f) := by
  unfold checksumFields at h
  split at h
  case h_18 => contradiction
  case h_9 =>
    obtain rfl := Option.some.inj h
    exact ⟨rfl, rfl, rfl, fun _ => rfl⟩
  all_goals
    obtain rfl := Option.some.inj h
    refine ⟨rfl, rfl, rfl, fun htype => ?_⟩
    simp_all

/-- A message that is not rejected is what the corrector and the checksum make of it. -/
theorem decodeModesMessage_corrected {modes : Modes} {tables : ErrorTables} {filter : IcaoFilter}
    {garbage : Buffer} {mm : ModesMessage} {inp : Buffer}
    (h : ¬ (decodeModesMessage modes tables filter garbage mm inp).1 < 0) :
    ∃ score, checksumFields (({ mm with score := score } : ModesMessage).corrected inp
        (correctMessage modes tables inp mm.msg)) =
      some (decodeModesMessage modes tables filter garbage mm inp).2 := by
  simp only [decodeModesMessage] at h ⊢
  generalize (if mm.score = SR_NOT_SET then scoreModesMessage modes tables filter garbage inp
    else mm.score) = score at h ⊢
  by_cases hunknown : score < SR_UNKNOWN_THRESHOLD
  · rw [if_pos hunknown] at h
    exact absurd (show (-1 : Int) < 0 by decide) h
  by_cases haccept : score < SR_ACCEPT_THRESHOLD
  · rw [if_neg hunknown, if_pos haccept] at h
    exact absurd (show (-2 : Int) < 0 by decide) h
  rw [if_neg hunknown, if_neg haccept] at h ⊢
  refine ⟨score, ?_⟩
  cases hfields : checksumFields
      (({ mm with score := score } : ModesMessage).corrected inp (correctMessage modes tables inp mm.msg)) with
  | none =>
    rw [hfields] at h
    exact absurd (show (-2 : Int) < 0 by decide) h
  | some mm' => rfl

/-- What a decoded message holds, from what `correctMessage` returned. -/
theorem decodeModesMessage_accepted {modes : Modes} {tables : ErrorTables} {filter : IcaoFilter}
    {garbage : Buffer} {mm : ModesMessage} {inp : Buffer}
    (h : (decodeModesMessage modes tables filter garbage mm inp).1 = 0) :
    let r := (decodeModesMessage modes tables filter garbage mm inp).2
    let c := correctMessage modes tables inp mm.msg
    r.msg = c.out ∧ r.msgbits = modesMessageLenByType (downlinkFormat c.out) ∧
      r.crc = (mm.corrected inp c).crc ∧ (r.msgtype = 11 → r.IID = r.crc &&& 0x7f) := by
  intro r c
  obtain ⟨score, hfields⟩ := decodeModesMessage_corrected (not_lt.mpr h.ge)
  obtain ⟨hmsg, hbits, hcrc, hiid⟩ := checksumFields_eq_some hfields
  exact ⟨hmsg, hbits, hcrc, fun htype => by rw [hiid htype, hcrc]⟩

section Decode
variable (modes : Modes) (f : Fin 3) (filter : IcaoFilter) (garbage : Buffer)

/-- The checksum fields come from the bytes as received. -/
theorem correctMessage_residue (mm : ModesMessage) (inp out : Buffer) :
    let c := correctMessage modes (modesChecksumInit f) inp out
    (mm.corrected inp c).crc = modesChecksum inp.bytes (modesMessageLenByType (downlinkFormat c.out)) := by
  intro c
  have houtcome : Outcome f _ _ inp c.result c.out := correctMessage_outcome modes f inp out
  obtain ⟨hshort, hshortChecked, hlong, hlongChecked⟩ :=
    correctMessageWith_syndromes (dfCorrectableLong.get modes.fixDfBits)
      (dfCorrectableShort.get modes.fixDfBits)
      (modesChecksumInit f) inp out
  by_cases hdf : downlinkFormat c.out &&& 16 = 0
  · have hlen : modesMessageLenByType (downlinkFormat c.out) = 56 := by
      rw [modesMessageLenByType, if_neg (not_not.mpr hdf)]
      rfl
    rw [hlen]
    simp only [ModesMessage.corrected, hdf, ne_eq, not_true, if_false]
    exact houtcome.checked_short hshort hshortChecked hdf
  · have hlen : modesMessageLenByType (downlinkFormat c.out) = 112 := by
      rw [modesMessageLenByType, if_pos hdf]
      rfl
    rw [hlen]
    simp only [ModesMessage.corrected, hdf, ne_eq, not_false_eq_true, if_true]
    exact houtcome.checked_long hlong hlongChecked hdf

theorem LongFix.checksum_ne_zero {inp : Buffer} {l : List Nat} (h : LongFix f inp l) :
    modesChecksum inp.bytes 112 ≠ 0 := by
  have hpattern := h.correctable.pattern
  have hlight := hpattern.light
  rw [← h.syndrome]
  exact patternSyndrome_ne_zero rfl hpattern.nonempty hpattern.nodup hpattern.inside (by omega)

theorem ShortFix.checksum_ne_zero {inp : Buffer} {i : Nat} (h : ShortFix f inp i) :
    modesChecksum inp.bytes 56 ≠ 0 := by
  have hpattern := h.correctable.pattern
  rw [← h.syndrome]
  exact patternSyndrome_ne_zero rfl hpattern.nonempty hpattern.nodup hpattern.inside (by simp)

/-- The message is not valid as it stands, and the tables hold a repair that the
bitsets let through. -/
structure Repairable (inp : Buffer) : Prop where
  invalidLong : ¬ ValidLong inp
  invalidShort : ¬ ValidShort inp
  repair : (Admits (dfCorrectableLong.get modes.fixDfBits) inp ∧ ∃ l, LongFix f inp l) ∨
    (Admits (dfCorrectableShort.get modes.fixDfBits) inp ∧ ∃ i, ShortFix f inp i)

/-- The kept message has the checksum of the received one unless it was repaired. -/
theorem Outcome.same_residue_iff {inp out : Buffer} {k : Int}
    (h : Outcome f (dfCorrectableLong.get modes.fixDfBits) (dfCorrectableShort.get modes.fixDfBits)
      inp k out) :
    modesChecksum inp.bytes (modesMessageLenByType (downlinkFormat out)) =
        modesChecksum out.bytes (modesMessageLenByType (downlinkFormat out)) ↔
      ¬ Repairable modes f inp := by
  have hf : (f : Nat) ≤ 2 := by omega
  cases h with
  | validLong hvalid => exact iff_of_true rfl fun h => h.invalidLong hvalid
  | validShort o hvalid =>
    have htake : (o.memcpy inp shortMsgBytes).bytes.take 7 = inp.bytes.take 7 :=
      take_memcpy o inp 7 (by decide)
    have hlen := length_of_short ((isShortPIMessage_congr htake).trans hvalid.1)
    rw [hlen]
    exact iff_of_true (modesChecksum_congr (by decide) htake.symm) fun h => h.invalidShort hvalid
  | fixedLong l hnl hns hadmits hl _ =>
    have hclean := (modesChecksum_fixed hf (.inr rfl) hl.correctable hl.syndrome).2
    rw [length_of_long hl.format, hclean]
    exact iff_of_false hl.checksum_ne_zero (not_not.mpr ⟨hnl, hns, .inl ⟨hadmits, l, hl⟩⟩)
  | fixedShort i o hnl hns hadmits hi _ =>
    have htake := take_shortFix o inp i
    have hclean := (modesChecksum_fixed hf (.inl rfl) hi.correctable hi.syndrome).2
    have hsum : modesChecksum ((o.memcpy inp shortMsgBytes).flips [i]).bytes 56 = 0 :=
      (modesChecksum_congr (by decide) htake).trans hclean
    rw [length_of_short ((isShortPIMessage_congr htake).trans hi.format), hsum]
    exact iff_of_false hi.checksum_ne_zero (not_not.mpr ⟨hnl, hns, .inr ⟨hadmits, i, hi⟩⟩)
  | uncorrectable _ _ hnolong hnoshort =>
    refine iff_of_true rfl fun h => ?_
    rcases h.repair with ⟨hadmits, l, hl⟩ | ⟨hadmits, i, hi⟩
    · exact hnolong hadmits l hl
    · exact hnoshort hadmits i hi

/-- `crc` and the interrogator code are those of the message that was kept. -/
structure ReportsKept (mm : ModesMessage) : Prop where
  crc : mm.crc = modesChecksum mm.msg.bytes mm.msgbits
  iid : mm.msgtype = 11 → mm.IID = modesChecksum mm.msg.bytes mm.msgbits &&& 0x7f

theorem reportsKept_iff (mm : ModesMessage) (inp : Buffer)
    (h : (decodeModesMessage modes (modesChecksumInit f) filter garbage mm inp).1 = 0) :
    ReportsKept (decodeModesMessage modes (modesChecksumInit f) filter garbage mm inp).2 ↔
      ¬ Repairable modes f inp := by
  obtain ⟨hmsg, hbits, hcrc, hiid⟩ := decodeModesMessage_accepted h
  have houtcome := correctMessage_outcome modes f inp mm.msg
  rw [correctMessage_residue modes f mm inp mm.msg] at hcrc
  rw [← houtcome.same_residue_iff modes f]
  rw [← hbits, ← hmsg]
  rw [← hbits] at hcrc
  rw [← hcrc]
  exact ⟨fun h => h.crc, fun h => ⟨h, fun htype => by rw [hiid htype, h]⟩⟩

/-- A one-bit correction to a DF11 leaves a message whose checksum is zero. -/
theorem Outcome.fixedShort_of_result {inp out : Buffer} {long_dfs short_dfs : BitVec 32}
    (h : Outcome f long_dfs short_dfs inp 1 out) (hshort : isShortPIMessage out) :
    ∃ i, ShortFix f inp i ∧ modesChecksum out.bytes 56 = 0 := by
  have hf : (f : Nat) ≤ 2 := by omega
  generalize hk : (1 : Int) = k at h
  cases h with
  | validLong | validShort | uncorrectable => exact absurd hk (by decide)
  | fixedLong l _ _ _ hl =>
    exact absurd (format_of_short hshort) (format_of_long hl.format)
  | fixedShort i o _ _ _ hi =>
    have hclean := (modesChecksum_fixed hf (.inl rfl) hi.correctable hi.syndrome).2
    exact ⟨i, hi, (modesChecksum_congr (by decide) (take_shortFix o inp i)).trans hclean⟩

/-- No single bit makes a DF11 out of an empty message. -/
theorem ShortFix.not_allZeros {inp : Buffer} {i : Nat} (h : ShortFix f inp i) : ¬ AllZeros inp := by
  intro hzeros
  have hinside : ∀ j ∈ [i], j < 112 :=
    fun j hj => (h.correctable.pattern.inside j hj).trans (by decide)
  obtain ⟨b₁, b₂, hone, hdf⟩ := downlinkFormat_flips inp hinside (by simp)
  have hformat := h.format
  rw [isShortPIMessage, beq_iff_eq] at hformat
  have htake : inp.bytes.take 7 = (List.replicate 7 (0 : Byte)).take 7 := hzeros
  have hbyte := byteAt_congr htake (show 0 < 7 by decide)
  have hzero : downlinkFormat inp = 0 := by
    rw [downlinkFormat_eq, hbyte]
    rfl
  have hcheck : ∀ b : Fin 6, (11#32 ^^^ dfMask b ^^^ dfMask (5 : Fin 6)) ≠ 0 := by decide +kernel
  rw [hformat, hone (by simp), hzero] at hdf
  exact hcheck b₁ hdf.symm

theorem scoreDF11_one (iid : BitVec 32) (recent : Bool) :
    scoreDF11 1 iid recent = scoreDF11 1 0 recent ↔ iid = 0 := by
  by_cases h : iid = 0
  · simp [h]
  · refine iff_of_false ?_ h
    simp only [scoreDF11, h, if_false, if_true]
    cases recent <;> decide

/-- The score of a one-bit correction to a DF11 goes by the message as received. -/
theorem score_fixedShort (inp : Buffer)
    (hresult : (correctMessage modes (modesChecksumInit f) inp garbage).result = 1)
    (hshort : isShortPIMessage (correctMessage modes (modesChecksumInit f) inp garbage).out) :
    let out := (correctMessage modes (modesChecksumInit f) inp garbage).out
    let recent := icaoFilterTest filter (announcedAddress out)
    scoreModesMessage modes (modesChecksumInit f) filter garbage inp =
        scoreDF11 1 (modesChecksum out.bytes 56 &&& 0x7f) recent ↔
      modesChecksum inp.bytes 56 &&& 0x7f = 0 := by
  intro out recent
  have houtcome := correctMessage_outcome modes f inp garbage
  rw [hresult] at houtcome
  obtain ⟨i, hi, hclean⟩ := houtcome.fixedShort_of_result f hshort
  have hdf : (downlinkFormat out).toNat = 11 := by
    rw [isShortPIMessage, beq_iff_eq] at hshort
    rw [hshort]
    rfl
  rw [scoreModesMessage_eq modes f filter garbage inp (hi.not_allZeros f), hclean, hresult]
  have hscore : scoreAs modes filter inp 1 out =
      scoreDF11 1 (modesChecksum inp.bytes 56 &&& 0x7F) recent := by
    unfold scoreAs scoreCorrected
    simp only [hdf]
    rw [checkedSyndrome_of_checked rfl]
  rw [hscore]
  exact scoreDF11_one _ _

/-- **When the residue describes the kept message.** Of the messages that are
decoded, `crc` and the interrogator code are those of the kept message exactly for
the ones that needed no repair. A DF11 with one corrected bit is ranked by the kept
message exactly if the low seven bits of the received one's checksum are zero. -/
theorem residue_kept_iff (inp : Buffer) :
    (∀ mm, (decodeModesMessage modes (modesChecksumInit f) filter garbage mm inp).1 = 0 →
      (ReportsKept (decodeModesMessage modes (modesChecksumInit f) filter garbage mm inp).2 ↔
        ¬ Repairable modes f inp)) ∧
    (let c := correctMessage modes (modesChecksumInit f) inp garbage;
      c.result = 1 → isShortPIMessage c.out →
        (scoreModesMessage modes (modesChecksumInit f) filter garbage inp =
            scoreDF11 1 (modesChecksum c.out.bytes 56 &&& 0x7f)
              (icaoFilterTest filter (announcedAddress c.out)) ↔
          modesChecksum inp.bytes 56 &&& 0x7f = 0)) :=
  ⟨fun mm => reportsKept_iff modes f filter garbage mm inp, score_fixedShort modes f filter garbage inp⟩

end Decode

theorem damagedSquitter_acceptable : Acceptable feederModes 1 icaoFilterInit damagedSquitter := by
  obtain ⟨hfix, hnl, hns, hadmits⟩ := damagedSquitter_repair
  refine ⟨by decide +kernel, _, _, .fixedLong [40] hnl hns hadmits hfix fun _ _ _ => by simp, ?_⟩
  have hdf : (downlinkFormat (damagedSquitter.flips [40])).toNat = 17 := by decide +kernel
  unfold AcceptableAs
  rw [hdf]
  exact .inr (.inl rfl)

/-- The damaged squitter is decoded, with the checksum from before its correction. -/
theorem damagedSquitter_residue :
    (decodeModesMessage feederModes (modesChecksumInit 1) icaoFilterInit Buffer.zero zeroMessage
        damagedSquitter).1 = 0 ∧
      ¬ ReportsKept (decodeModesMessage feederModes (modesChecksumInit 1) icaoFilterInit Buffer.zero
        zeroMessage damagedSquitter).2 := by
  obtain ⟨hfix, hnl, hns, hadmits⟩ := damagedSquitter_repair
  have haccepted := decodeModesMessage_accepts feederModes 1 icaoFilterInit Buffer.zero
    damagedSquitter zeroMessage (.inl rfl) damagedSquitter_acceptable
  refine ⟨haccepted, fun h => ?_⟩
  exact (reportsKept_iff feederModes 1 icaoFilterInit Buffer.zero zeroMessage damagedSquitter
    haccepted).mp h ⟨hnl, hns, .inl ⟨hadmits, [40], hfix⟩⟩

end RbFeeder.ModeS
