import RbFeeder.ModeS.CorrectProofs

/-! Corrections are sound and minimal, and the shortcut does not show.

Both results read `correctMessageWith_outcome`. The soundness theorem
(`correctMessage_sound`) checks each way out against what a caller may rely on.
The shortcut theorem (`correctMessage_shortcut`) compares the bitsets of downlink
formats with bitsets of ones: every repair the bitsets could suppress starts from
a format they contain (`admits_of_longFix`, `admits_of_shortFix`), so both runs
have an outcome under the same conditions, and outcomes are unique. -/
namespace RbFeeder.ModeS

/-- The bytes of a message, as many as its downlink format says. -/
def messageBytes (msg : Buffer) : List Byte :=
  msg.bytes.take (modesMessageLenByType (downlinkFormat msg) / 8)

/-- The bit positions of the message `a` in which it differs from `b`. -/
def differingBits (a b : Buffer) : Finset Nat :=
  (Finset.range (modesMessageLenByType (downlinkFormat a))).filter
    fun i => bitAt a.bytes i ≠ bitAt b.bytes i

/-! ### Message lengths -/

theorem length_of_long {msg : Buffer} (h : isLongPIMessage msg) :
    modesMessageLenByType (downlinkFormat msg) = 112 := by
  rw [isLongPIMessage, Bool.or_eq_true, beq_iff_eq, beq_iff_eq] at h
  rcases h with h | h <;> rw [h] <;> rfl

theorem length_of_short {msg : Buffer} (h : isShortPIMessage msg) :
    modesMessageLenByType (downlinkFormat msg) = 56 := by
  rw [isShortPIMessage, beq_iff_eq] at h
  rw [h]
  rfl

theorem isShortPIMessage_congr {a b : Buffer} (h : a.bytes.take 7 = b.bytes.take 7) :
    isShortPIMessage a = isShortPIMessage b := by
  rw [isShortPIMessage, isShortPIMessage, downlinkFormat_congr (by decide) h]

theorem messageBytes_short {a b : Buffer} (h : a.bytes.take 7 = b.bytes.take 7)
    (hb : isShortPIMessage b) : messageBytes a = messageBytes b := by
  rw [messageBytes, messageBytes, downlinkFormat_congr (by decide) h, length_of_short hb]
  exact h

theorem validShort_congr {a b : Buffer} (h : a.bytes.take 7 = b.bytes.take 7) (hb : ValidShort b) :
    ValidShort a := by
  refine ⟨(isShortPIMessage_congr h).trans hb.1, ?_⟩
  have hsum : modesChecksum a.bytes 56 = modesChecksum b.bytes 56 := modesChecksum_congr (by decide) h
  rw [hsum]
  exact hb.2

theorem differingBits_flips (msg : Buffer) {l : List Nat} (hn : l.Nodup)
    (hl : ∀ i ∈ l, i < modesMessageLenByType (downlinkFormat (msg.flips l))) :
    (differingBits (msg.flips l) msg).card = l.length := by
  have hbound : modesMessageLenByType (downlinkFormat (msg.flips l)) ≤ 112 := by
    unfold modesMessageLenByType
    split <;> decide
  have : differingBits (msg.flips l) msg = l.toFinset := by
    ext i
    have hflip := msg.bitAt_flips hn (fun i hi => (hl i hi).trans_le hbound) i
    simp only [differingBits, Finset.mem_filter, Finset.mem_range, List.mem_toFinset, hflip]
    by_cases hi : i ∈ l
    · simp [hi, hl i hi]
    · simp [hi]
  rw [this, List.toFinset_card_of_nodup hn]

theorem differingBits_congr {a b c : Buffer} (h : a.bytes.take 7 = b.bytes.take 7)
    (hb : isShortPIMessage b) : differingBits a c = differingBits b c := by
  have hlen := length_of_short hb
  ext i
  simp only [differingBits, downlinkFormat_congr (by decide) h, hlen, Finset.mem_filter,
    Finset.mem_range]
  exact and_congr_right fun hi => by rw [bitAt_congr h (by omega)]

/-! ### The bitsets -/

theorem downlinkFormat_lt (msg : Buffer) : (downlinkFormat msg).toNat < 32 := by
  rw [downlinkFormat_eq]
  generalize byteAt msg.bytes 0 = b
  revert b
  decide +kernel

theorem admits_allOnes (msg : Buffer) : Admits (BitVec.allOnes 32) msg := by
  have : ∀ n : Fin 32, BitVec.allOnes 32 &&& 1#32 <<< (n : Nat) ≠ 0 := by decide
  exact this ⟨_, downlinkFormat_lt msg⟩

theorem admits_long (level : Fin 3) (msg : Buffer) (h : isLongPIMessage msg) :
    Admits (dfCorrectableLong.get level) msg := by
  rw [isLongPIMessage, Bool.or_eq_true, beq_iff_eq, beq_iff_eq] at h
  rw [Admits]
  rcases h with h | h <;> rw [h] <;> revert level <;> decide +kernel

theorem admits_short (level : Fin 3) (msg : Buffer) (h : isShortPIMessage msg) :
    Admits (dfCorrectableShort.get level) msg := by
  rw [isShortPIMessage, beq_iff_eq] at h
  rw [Admits, h]
  revert level
  decide +kernel

/-- The bitset for DF17 and DF18 has every format at most `level` bits away. -/
theorem dfCorrectableLong_bits : ∀ (level : Fin 3) (b₁ b₂ : Fin 6), level ≠ 0 →
    (level = 1 → b₂ = 5) →
      (dfCorrectableLong.get level) &&& 1#32 <<< (17#32 ^^^ dfMask b₁ ^^^ dfMask b₂).toNat ≠ 0 ∧
      (dfCorrectableLong.get level) &&& 1#32 <<< (18#32 ^^^ dfMask b₁ ^^^ dfMask b₂).toNat ≠ 0 := by
  decide +kernel

/-- The bitset for DF11 has every format one bit away. -/
theorem dfCorrectableShort_bits : ∀ (level : Fin 3) (b : Fin 6), level ≠ 0 →
    (dfCorrectableShort.get level) &&& 1#32 <<< (11#32 ^^^ dfMask b ^^^ dfMask (5 : Fin 6)).toNat ≠ 0 := by
  decide +kernel

/-- A message that the tables can turn into a DF17 or DF18 has a format in the
bitset of the same level. -/
theorem admits_of_longFix (level : Fin 3) {inp : Buffer} {l : List Nat} (h : LongFix level inp l) :
    Admits (dfCorrectableLong.get level) inp := by
  have hpattern := h.correctable.pattern
  have hlight : l.length ≤ level := hpattern.light
  obtain ⟨b₁, b₂, hone, hdf⟩ := downlinkFormat_flips inp hpattern.inside
    (hlight.trans (by omega))
  have hpos := List.length_pos_iff.mpr hpattern.nonempty
  have hformat := h.format
  rw [isLongPIMessage, Bool.or_eq_true, beq_iff_eq, beq_iff_eq] at hformat
  obtain ⟨h17, h18⟩ := dfCorrectableLong_bits level b₁ b₂ (by omega) (fun h => hone (by omega))
  rw [Admits, hdf]
  rcases hformat with hformat | hformat <;> rw [hformat] <;> assumption

theorem admits_of_shortFix (level : Fin 3) {inp : Buffer} {i : Nat} (h : ShortFix level inp i) :
    Admits (dfCorrectableShort.get level) inp := by
  have hpattern := h.correctable.pattern
  have hlight : 1 ≤ (level : Nat) := hpattern.light
  have hinside : ∀ j ∈ [i], j < 112 := fun j hj => (hpattern.inside j hj).trans (by decide)
  obtain ⟨b₁, b₂, hone, hdf⟩ := downlinkFormat_flips inp hinside (by simp)
  have hformat := h.format
  rw [isShortPIMessage, beq_iff_eq] at hformat
  rw [Admits, hdf, hone (by simp), hformat]
  exact dfCorrectableShort_bits level b₁ (by omega)

/-! ### Outcomes -/

section Bitsets
variable {f : Nat} {long_dfs short_dfs : BitVec 32} {inp out out' : Buffer} {k k' : Int}

theorem LongFix.unique {l l' : List Nat} (h : LongFix f inp l) (h' : LongFix f inp l')
    (hf : f ≤ 2) : l = l' := by
  have hpattern := h.correctable.pattern
  have hpattern' := h'.correctable.pattern
  have hlight := hpattern.light
  have hlight' := hpattern'.light
  exact hpattern.eq_of_perm hpattern' (perm_of_patternSyndrome_eq rfl hpattern.nodup hpattern'.nodup
    hpattern.inside hpattern'.inside (by omega) (h.syndrome.trans h'.syndrome.symm))

theorem ShortFix.unique {i i' : Nat} (h : ShortFix f inp i) (h' : ShortFix f inp i') : i = i' := by
  have hpattern := h.correctable.pattern
  have hpattern' := h'.correctable.pattern
  have hperm := perm_of_patternSyndrome_eq rfl hpattern.nodup hpattern'.nodup hpattern.inside
    hpattern'.inside (by simp) (h.syndrome.trans h'.syndrome.symm)
  simpa using hperm

/-- The flips of a short correction, on whatever buffer it was copied into. -/
theorem take_shortFix (o inp : Buffer) (i : Nat) :
    ((o.memcpy inp shortMsgBytes).flips [i]).bytes.take 7 = (inp.flips [i]).bytes.take 7 :=
  take_flips_congr (take_memcpy o inp 7 (by decide)) [i]

/-- A message has one outcome, up to what the output holds beyond its end. -/
theorem Outcome.unique (hf : f ≤ 2) (h : Outcome f long_dfs short_dfs inp k out)
    (h' : Outcome f long_dfs short_dfs inp k' out') :
    k = k' ∧ messageBytes out = messageBytes out' := by
  cases h with
  | validLong hvalid =>
    cases h' with
    | validLong => exact ⟨rfl, rfl⟩
    | validShort _ hshort => exact absurd hshort (not_validShort hvalid.1)
    | fixedLong _ hnl | fixedShort _ _ hnl | uncorrectable hnl => exact absurd hvalid hnl
  | validShort o hvalid =>
    cases h' with
    | validLong hlong => exact absurd hvalid (not_validShort hlong.1)
    | validShort o' =>
      exact ⟨rfl, (messageBytes_short (take_memcpy o _ 7 (by decide)) hvalid.1).trans
        (messageBytes_short (take_memcpy o' _ 7 (by decide)) hvalid.1).symm⟩
    | fixedLong _ _ hns | fixedShort _ _ _ hns | uncorrectable _ hns => exact absurd hvalid hns
  | fixedLong l hnl hns hadmits hl hpreferred =>
    cases h' with
    | validLong hvalid => exact absurd hvalid hnl
    | validShort _ hvalid => exact absurd hvalid hns
    | fixedLong l' _ _ _ hl' =>
      obtain rfl := hl.unique hl' hf
      exact ⟨rfl, rfl⟩
    | fixedShort i _ _ _ hadmits' hi hfewer =>
      have := hpreferred i hadmits' hi
      have := hfewer l hadmits hl
      omega
    | uncorrectable _ _ hnone => exact absurd hl (hnone hadmits l)
  | fixedShort i o hnl hns hadmits hi hfewer =>
    cases h' with
    | validLong hvalid => exact absurd hvalid hnl
    | validShort _ hvalid => exact absurd hvalid hns
    | fixedLong l _ _ hadmits' hl hpreferred =>
      have := hpreferred i hadmits hi
      have := hfewer l hadmits' hl
      omega
    | fixedShort i' o' _ _ _ hi' =>
      obtain rfl := hi.unique hi'
      exact ⟨rfl, (messageBytes_short (take_shortFix o inp i) hi.format).trans
        (messageBytes_short (take_shortFix o' inp i) hi.format).symm⟩
    | uncorrectable _ _ _ hnone => exact absurd hi (hnone hadmits i)
  | uncorrectable hnl hns hnolong hnoshort =>
    cases h' with
    | validLong hvalid => exact absurd hvalid hnl
    | validShort _ hvalid => exact absurd hvalid hns
    | fixedLong l _ _ hadmits hl => exact absurd hl (hnolong hadmits l)
    | fixedShort i _ _ _ hadmits hi => exact absurd hi (hnoshort hadmits i)
    | uncorrectable => exact ⟨rfl, rfl⟩

/-- Bitsets that hold every format a repair can start from do not matter. -/
theorem Outcome.of_admits {long_dfs' short_dfs' : BitVec 32}
    (hlong : ∀ l, LongFix f inp l → Admits long_dfs inp)
    (hlong' : ∀ l, LongFix f inp l → Admits long_dfs' inp)
    (hshort : ∀ i, ShortFix f inp i → Admits short_dfs inp)
    (hshort' : ∀ i, ShortFix f inp i → Admits short_dfs' inp)
    (h : Outcome f long_dfs short_dfs inp k out) : Outcome f long_dfs' short_dfs' inp k out := by
  cases h with
  | validLong hvalid => exact .validLong hvalid
  | validShort o hvalid => exact .validShort o hvalid
  | fixedLong l hnl hns _ hl hpreferred =>
    exact .fixedLong l hnl hns (hlong' l hl) hl fun i _ hi => hpreferred i (hshort i hi) hi
  | fixedShort i o hnl hns _ hi hfewer =>
    exact .fixedShort i o hnl hns (hshort' i hi) hi fun l _ hl => hfewer l (hlong l hl) hl
  | uncorrectable hnl hns hnolong hnoshort =>
    exact .uncorrectable hnl hns (fun _ l hl => hnolong (hlong l hl) l hl)
      fun _ i hi => hnoshort (hshort i hi) i hi

theorem Outcome.sound (hf : f ≤ 2) (h : Outcome f long_dfs short_dfs inp k out) (hk : 0 ≤ k) :
    k ≤ f ∧ (differingBits out inp).card = k ∧ (ValidLong out ∨ ValidShort out) := by
  have hsame : (differingBits (inp.flips []) inp).card = 0 :=
    differingBits_flips inp List.nodup_nil (by simp)
  rw [Buffer.flips_nil] at hsame
  cases h with
  | validLong hvalid => exact ⟨Int.natCast_nonneg f, by rw [hsame]; rfl, .inl hvalid⟩
  | validShort o hvalid =>
    have htake : (o.memcpy inp shortMsgBytes).bytes.take 7 = inp.bytes.take 7 :=
      take_memcpy o inp 7 (by decide)
    rw [differingBits_congr htake hvalid.1]
    exact ⟨Int.natCast_nonneg f, by rw [hsame]; rfl, .inr (validShort_congr htake hvalid)⟩
  | fixedLong l _ _ _ hl =>
    have hpattern := hl.correctable.pattern
    have hclean := (modesChecksum_fixed hf (.inr rfl) hl.correctable hl.syndrome).2
    have hdiffer := differingBits_flips inp hpattern.nodup
      (by rw [length_of_long hl.format]; exact hpattern.inside)
    exact ⟨Int.ofNat_le.mpr hpattern.light, by rw [hdiffer], .inl ⟨hl.format, hclean⟩⟩
  | fixedShort i o _ _ _ hi =>
    have hpattern := hi.correctable.pattern
    have hclean := (modesChecksum_fixed hf (.inl rfl) hi.correctable hi.syndrome).2
    have htake := take_shortFix o inp i
    have hdiffer := differingBits_flips inp hpattern.nodup
      (by rw [length_of_short hi.format]; exact hpattern.inside)
    have hvalid : ValidShort (inp.flips [i]) := ⟨hi.format, by rw [hclean]; rfl⟩
    rw [differingBits_congr htake hi.format]
    exact ⟨Int.ofNat_le.mpr hpattern.light, by rw [hdiffer]; rfl, .inr (validShort_congr htake hvalid)⟩
  | uncorrectable => exact absurd hk (by decide)

theorem Outcome.unchanged (h : Outcome f long_dfs short_dfs inp k out) (hk : ¬ 0 ≤ k) :
    k = -1 ∧ out = inp := by
  cases h with
  | validLong | validShort | fixedShort => exact absurd (by decide) hk
  | fixedLong l => exact absurd (Int.natCast_nonneg _) hk
  | uncorrectable => exact ⟨rfl, rfl⟩

theorem Outcome.of_valid (h : Outcome f long_dfs short_dfs inp k out)
    (hvalid : ValidLong inp ∨ ValidShort inp) : k = 0 ∧ messageBytes out = messageBytes inp := by
  cases h with
  | validLong => exact ⟨rfl, rfl⟩
  | validShort o hshort =>
    exact ⟨rfl, messageBytes_short (take_memcpy o inp 7 (by decide)) hshort.1⟩
  | fixedLong _ hnl hns | fixedShort _ _ hnl hns | uncorrectable hnl hns =>
    exact absurd hvalid (not_or.mpr ⟨hnl, hns⟩)

end Bitsets

/-! ### The two results -/

/-- `correctMessage` with tables of any level and any settings. -/
theorem correctMessage_outcome (modes : Modes) (f : Fin 3) (inp out : Buffer) :
    Outcome f (dfCorrectableLong.get modes.fixDfBits) (dfCorrectableShort.get modes.fixDfBits) inp
      (correctMessage modes (modesChecksumInit f) inp out).result
      (correctMessage modes (modesChecksumInit f) inp out).out :=
  correctMessageWith_outcome (admits_long _) (admits_short _) (by omega) inp out

/-- **Corrections are sound and minimal.** Whatever the tables' level `f` and the
settings, a result `k ≥ 0` is at most `f`, the output differs from the input in
exactly `k` bits of the message, and it is a valid message of a fully checked type;
the only other result is -1, and then the output is the input. A message that is
already valid comes back as it is, with result 0. -/
theorem correctMessage_sound (modes : Modes) (f : Fin 3) (inp out : Buffer) :
    let r := correctMessage modes (modesChecksumInit f) inp out
    (0 ≤ r.result → r.result ≤ (f : Nat) ∧ (differingBits r.out inp).card = r.result ∧
      (ValidLong r.out ∨ ValidShort r.out)) ∧
    (¬ 0 ≤ r.result → r.result = -1 ∧ r.out = inp) ∧
    (ValidLong inp ∨ ValidShort inp → r.result = 0 ∧ messageBytes r.out = messageBytes inp) :=
  ⟨(correctMessage_outcome modes f inp out).sound (by omega),
    (correctMessage_outcome modes f inp out).unchanged,
    (correctMessage_outcome modes f inp out).of_valid⟩

/-- **The bitsets of downlink formats never show.** With damaged formats to be
fixed and the tables of the same level, `correctMessage` returns the result and
the message of the variant that computes and diagnoses both syndromes always. -/
theorem correctMessage_shortcut (modes : Modes) (hfix : modes.fix_df = true) (inp out : Buffer) :
    let fast := correctMessage modes (modesChecksumInit modes.nfix_crc) inp out
    let slow := correctMessageWith (BitVec.allOnes 32) (BitVec.allOnes 32)
      (modesChecksumInit modes.nfix_crc) inp out
    fast.result = slow.result ∧ messageBytes fast.out = messageBytes slow.out := by
  intro fast slow
  have hlevel : modes.fixDfBits = modes.nfix_crc := by rw [Modes.fixDfBits, if_pos hfix]
  have hfast := correctMessage_outcome modes modes.nfix_crc inp out
  simp only [hlevel] at hfast
  have hslow := correctMessageWith_outcome (fun msg _ => admits_allOnes msg)
    (fun msg _ => admits_allOnes msg) (show (modes.nfix_crc : Nat) ≤ 2 by omega) inp out
  refine Outcome.unique (by omega) (hfast.of_admits ?_ ?_ ?_ ?_) hslow
  · exact fun l hl => admits_of_longFix _ hl
  · exact fun _ _ => admits_allOnes inp
  · exact fun i hi => admits_of_shortFix _ hi
  · exact fun _ _ => admits_allOnes inp

/-- An extended squitter with its bit 40 damaged. -/
def damagedSquitter : Buffer :=
  (⟨[0x8D, 0x4B, 0x96, 0x96, 0x99, 0x15, 0x56, 0x00, 0xE8, 0x74, 0x06, 0xF5, 0xB6, 0x9F], rfl⟩ :
    Buffer).flip 40

/-- One bit corrected, the default of the feeder. -/
def feederModes : Modes := ⟨1, true, false, false⟩

theorem damagedSquitter_repair : LongFix 1 damagedSquitter [40] ∧ ¬ ValidLong damagedSquitter ∧
    ¬ ValidShort damagedSquitter ∧ Admits (dfCorrectableLong.get feederModes.fixDfBits) damagedSquitter := by
  refine ⟨⟨correctable_singleton (.inl rfl) (.inr rfl) (by decide), by decide +kernel,
    by decide +kernel⟩, ?_, ?_, by decide +kernel⟩
  · exact fun h => absurd h.2 (by decide +kernel)
  · exact fun h => absurd h.1 (by decide +kernel)

/-- Its repair, with the bitsets and without them. -/
theorem correctMessage_shortcut_damaged :
    let fast := correctMessage feederModes (modesChecksumInit 1) damagedSquitter Buffer.zero
    let slow := correctMessageWith (BitVec.allOnes 32) (BitVec.allOnes 32) (modesChecksumInit 1) damagedSquitter
      Buffer.zero
    fast.result = 1 ∧ fast.result = slow.result ∧ messageBytes fast.out = messageBytes slow.out := by
  obtain ⟨hfix, hnl, hns, hadmits⟩ := damagedSquitter_repair
  have hcorrect := correctMessage_outcome feederModes 1 damagedSquitter Buffer.zero
  obtain ⟨hresult, -⟩ := hcorrect.unique (by decide) (.fixedLong [40] hnl hns hadmits hfix fun _ _ _ => le_rfl)
  exact ⟨hresult, correctMessage_shortcut feederModes rfl damagedSquitter Buffer.zero⟩

end RbFeeder.ModeS
