import RbFeeder.ModeS.Fields

/-! Seven received bytes in a buffer of fourteen.

The network handlers decode a short frame from a local buffer of which they have
filled the first seven bytes; the decoder reads all fourteen. `TailMatters` says
when the rest of the buffer, which holds whatever was on the stack, has a say in
what is received: when the seven bytes can be taken for the first half of a long
message. `tail_invisible_iff` shows that this is exactly when. -/
namespace RbFeeder.ModeS
open ScoreRank

theorem length_overlay (head : List Byte) (stack : Buffer) :
    ((head ++ stack.bytes.drop head.length).take 14).length = 14 := by
  simp
  omega

/-- The local buffer with the received bytes written over what it held. -/
def overlay (head : List Byte) (stack : Buffer) : Buffer :=
  ⟨(head ++ stack.bytes.drop head.length).take 14, length_overlay head stack⟩

theorem bytes_overlay {head : List Byte} (hlen : head.length = 7) (stack : Buffer) :
    (overlay head stack).bytes = head ++ stack.bytes.drop 7 := by
  have hbytes : (overlay head stack).bytes = (head ++ stack.bytes.drop head.length).take 14 := rfl
  rw [hbytes, hlen]
  exact List.take_of_length_le (by simp [hlen])

theorem take_overlay {head : List Byte} (hlen : head.length = 7) (stack stack' : Buffer) :
    (overlay head stack).bytes.take 7 = (overlay head stack').bytes.take 7 := by
  rw [bytes_overlay hlen, bytes_overlay hlen, ← hlen, List.take_left, List.take_left]

section Condition
variable (modes : Modes) (f : Fin 3) (filter : IcaoFilter) (head : Buffer)

/-- Some of the bits of the downlink format, none for DF17 and DF18, that the tables
correct and that make the message one of these formats. -/
structure FormatRepair (l : List Nat) : Prop where
  inside : ∀ i ∈ l, i < 5
  correctable : l = [] ∨ Correctable f 112 l ∧ Admits (dfCorrectableLong.get modes.fixDfBits) head
  format : isLongPIMessage (head.flips l)

/-- The message is taken for a DF11, as it is or with one bit corrected. -/
def ShortRepair : Prop :=
  ValidShort head ∨ Admits (dfCorrectableShort.get modes.fixDfBits) head ∧ ∃ i, ShortFix f head i

/-- The address that an extended squitter announces is known. -/
def SquitterKnown (out : Buffer) : Prop :=
  (downlinkFormat out = 17 ∧ icaoFilterTest filter (announcedAddress out) = true) ∨
    (downlinkFormat out = 18 ∧
      icaoFilterTest filter (announcedAddress out ||| icaoFilterAdsbNt) = true)

/-- A short format that overlays the checksum with the address. -/
def ShortOverlaid : Prop := (downlinkFormat head).toNat ∈ [0, 4, 5]

/-- A long format that does, and that is decoded. -/
def LongOverlaid : Prop :=
  (downlinkFormat head).toNat ∈ [16, 20, 21] ∨ 24 ≤ (downlinkFormat head).toNat ∧ modes.enable_df24 = true

/-- The bytes after the first seven of the message have a say in what is received. -/
def TailMatters : Prop :=
  ¬ AllZeros head ∧ ¬ ShortRepair modes f head ∧
    ((∃ l, FormatRepair modes f head l ∧ (l.length ≤ 1 ∨ SquitterKnown filter (head.flips l))) ∨
      (∃ l, FormatRepair modes f head l ∧ ShortOverlaid head ∧
        icaoFilterTest filter (modesChecksum head.bytes 56) = true) ∨
      (LongOverlaid modes head ∧ ∃ addr, addr &&& 0xffffff = addr ∧ icaoFilterTest filter addr = true ∧
        ∀ l, FormatRepair modes f head l → patternSyndrome 0 l ≠ addr))

end Condition

/-! ### The downlink format of a repaired message -/

theorem downlinkFormat_flips_eq (msg : Buffer) {l : List Nat} (hl : ∀ i ∈ l, i < 112) :
    downlinkFormat (msg.flips l) = l.foldl (fun df i => df ^^^ dfMask i) (downlinkFormat msg) := by
  induction l generalizing msg with
  | nil => rfl
  | cons i l ih =>
    rw [Buffer.flips_cons, ih _ fun j hj => hl j (by simp [hj]), downlinkFormat_flip _ (hl i (by simp))]
    rfl

theorem foldl_dfMask_filter (l : List Nat) (df : BitVec 32) :
    (l.filter (· < 5)).foldl (fun df i => df ^^^ dfMask i) df =
      l.foldl (fun df i => df ^^^ dfMask i) df := by
  induction l generalizing df with
  | nil => rfl
  | cons i l ih =>
    by_cases hi : i < 5
    · rw [List.filter_cons_of_pos (by simpa using hi), List.foldl_cons, List.foldl_cons, ih]
    · have hmask : df ^^^ dfMask i = df := by
        rw [dfMask, if_neg hi]
        exact BitVec.xor_zero
      rw [List.filter_cons_of_neg (by simpa using hi), List.foldl_cons, hmask, ih]

/-- Only the bits within the downlink format make a message a DF17 or DF18. -/
theorem isLongPIMessage_filter (msg : Buffer) {l : List Nat} (hl : ∀ i ∈ l, i < 112) :
    isLongPIMessage (msg.flips (l.filter (· < 5))) = isLongPIMessage (msg.flips l) := by
  have hinside : ∀ i ∈ l.filter (· < 5), i < 112 := fun i hi => hl i (List.mem_of_mem_filter hi)
  rw [isLongPIMessage, isLongPIMessage, downlinkFormat_flips_eq msg hinside, downlinkFormat_flips_eq msg hl,
    foldl_dfMask_filter]

/-- One bit takes no format both to DF11 and to DF17 or DF18. -/
theorem dfMask_separates : ∀ b b' : Fin 6,
    11#32 ^^^ dfMask b ^^^ dfMask (5 : Fin 6) ≠ 17#32 ^^^ dfMask b' ^^^ dfMask (5 : Fin 6) ∧
      11#32 ^^^ dfMask b ^^^ dfMask (5 : Fin 6) ≠ 18#32 ^^^ dfMask b' ^^^ dfMask (5 : Fin 6) := by
  decide +kernel

theorem not_both_formats {msg : Buffer} {l l' : List Nat} (hl : ∀ i ∈ l, i < 112)
    (hl' : ∀ i ∈ l', i < 112) (hlen : l.length ≤ 1) (hlen' : l'.length ≤ 1)
    (hshort : isShortPIMessage (msg.flips l)) : ¬ isLongPIMessage (msg.flips l') := by
  intro hlong
  obtain ⟨b, c, hc, hdf⟩ := downlinkFormat_flips msg hl (by omega)
  obtain ⟨b', c', hc', hdf'⟩ := downlinkFormat_flips msg hl' (by omega)
  rw [isShortPIMessage, beq_iff_eq] at hshort
  rw [isLongPIMessage, Bool.or_eq_true, beq_iff_eq, beq_iff_eq] at hlong
  rw [hshort, hc hlen] at hdf
  rw [hc' hlen'] at hdf'
  obtain ⟨h17, h18⟩ := dfMask_separates b b'
  rcases hlong with hlong | hlong <;> rw [hlong] at hdf'
  · exact h17 (hdf.symm.trans hdf')
  · exact h18 (hdf.symm.trans hdf')

section Repairs
variable {modes : Modes} {f : Fin 3} {inp head : Buffer}

/-- A correction that the tables find either is of the downlink format alone, or
contains one of a single bit of it, or of none. -/
theorem LongFix.formatRepair {l : List Nat} (h : LongFix f inp l)
    (hadmits : Admits (dfCorrectableLong.get modes.fixDfBits) inp) :
    FormatRepair modes f inp l ∨ ∃ l', FormatRepair modes f inp l' ∧ l'.length ≤ 1 := by
  have hpattern := h.correctable.pattern
  have hlight : l.length ≤ 2 := hpattern.light.trans (by omega)
  have hformat : isLongPIMessage (inp.flips (l.filter (· < 5))) := by
    rw [isLongPIMessage_filter inp hpattern.inside]
    exact h.format
  by_cases hall : ∀ i ∈ l, i < 5
  · exact .inl ⟨hall, .inr ⟨h.correctable, hadmits⟩, h.format⟩
  · have hfewer : (l.filter (· < 5)).length < l.length := by
      refine lt_of_le_of_ne (List.length_filter_le ..) fun heq => hall fun i hi => ?_
      have := List.length_filter_eq_length_iff.mp heq i hi
      simpa using this
    refine .inr ⟨l.filter (· < 5), ⟨fun i hi => by simpa using (List.mem_filter.mp hi).2, ?_, hformat⟩,
      by omega⟩
    have hpos := List.length_pos_iff.mpr hpattern.nonempty
    have hlevel : (f : Nat) = 1 ∨ (f : Nat) = 2 := by
      have : l.length ≤ f := hpattern.light
      omega
    rcases Nat.lt_or_ge 0 (l.filter (· < 5)).length with hone | hnone
    · obtain ⟨i, hi⟩ := List.length_eq_one_iff.mp (show (l.filter (· < 5)).length = 1 by omega)
      have hmem : i ∈ l := List.mem_of_mem_filter (hi ▸ List.mem_singleton_self i)
      rw [hi]
      exact .inr ⟨correctable_singleton hlevel (.inr rfl) (hpattern.inside i hmem), hadmits⟩
    · exact .inl (List.length_eq_zero_iff.mp (by omega))

variable (h : inp.bytes.take 7 = head.bytes.take 7)
include h

theorem FormatRepair.congr {l : List Nat} (hl : FormatRepair modes f head l) : FormatRepair modes f inp l := by
  refine ⟨hl.inside, ?_, ?_⟩
  · rw [Admits, downlinkFormat_congr (by decide) h]
    exact hl.correctable
  · rw [isLongPIMessage, downlinkFormat_congr (by decide) (take_flips_congr h l)]
    exact hl.format

theorem ShortFix.congr {i : Nat} (hi : ShortFix f head i) : ShortFix f inp i where
  correctable := hi.correctable
  syndrome := hi.syndrome.trans (modesChecksum_congr (by decide) h).symm
  format := (isShortPIMessage_congr (take_flips_congr h [i])).trans hi.format

theorem ShortRepair.congr (hs : ShortRepair modes f head) : ShortRepair modes f inp := by
  rcases hs with hvalid | ⟨hadmits, i, hi⟩
  · exact .inl (validShort_congr h hvalid)
  · refine .inr ⟨?_, i, hi.congr h⟩
    rw [Admits, downlinkFormat_congr (by decide) h]
    exact hadmits

end Repairs

/-! ### The last three bytes of a long message -/

theorem foldl_crcByte_mask (message : List Byte) :
    message.foldl crcByte 0 &&& 0xffffff = message.foldl crcByte 0 := by
  rcases List.eq_nil_or_concat message with rfl | ⟨front, last, rfl⟩
  · rfl
  · rw [List.concat_eq_append, List.foldl_append, List.foldl_cons, List.foldl_nil, crcByte,
      BitVec.and_assoc, BitVec.and_self]

theorem modesChecksum_mask (message : List Byte) (bits : Nat) :
    modesChecksum message bits &&& 0xffffff = modesChecksum message bits := by
  have hshift : ∀ b : Byte, b.setWidth 32 &&& 0xffffff#32 = b.setWidth 32 ∧
      b.setWidth 32 <<< 8 &&& 0xffffff#32 = b.setWidth 32 <<< 8 ∧
      b.setWidth 32 <<< 16 &&& 0xffffff#32 = b.setWidth 32 <<< 16 := by
    decide +kernel
  simp only [modesChecksum]
  rw [and_xor, and_xor, and_xor, foldl_crcByte_mask]
  exact congrArg₂ _ (congrArg₂ _ (congrArg₂ _ rfl (hshift _).2.2) (hshift _).2.1) (hshift _).1

/-- 24 bits, from three bytes. -/
theorem three_bytes {x : BitVec 32} (hx : x &&& 0xffffff = x) :
    ((x >>> 16).setWidth 8).setWidth 32 <<< 16 ^^^ ((x >>> 8).setWidth 8).setWidth 32 <<< 8 ^^^
      (x.setWidth 8).setWidth 32 = x := by
  apply BitVec.eq_of_getLsbD_eq
  intro i hi
  have hhigh : 24 ≤ i → x.getLsbD i = false := by
    intro h24
    rw [← hx, BitVec.getLsbD_and, show (0xffffff : BitVec 32) = BitVec.ofNat 32 (2 ^ 24 - 1) from rfl,
      BitVec.getLsbD_ofNat, Nat.testBit_two_pow_sub_one]
    simp
    omega
  simp only [BitVec.getLsbD_xor, BitVec.getLsbD_shiftLeft, BitVec.getLsbD_setWidth,
    BitVec.getLsbD_ushiftRight]
  rcases Nat.lt_or_ge i 8 with h8 | h8
  · simp [h8, hi, show i < 16 by omega]
  rcases Nat.lt_or_ge i 16 with h16 | h16
  · simp [hi, h16, show ¬ i < 8 by omega, show i - 8 < 8 by omega, show i - 8 < 32 by omega,
      show 8 + (i - 8) = i by omega]
  rcases Nat.lt_or_ge i 24 with h24 | h24
  · simp [hi, show ¬ i < 16 by omega, show ¬ i < 8 by omega, show ¬ i - 8 < 8 by omega,
      show i - 16 < 8 by omega, show i - 16 < 32 by omega, show 16 + (i - 16) = i by omega]
  · simp [hhigh h24, show ¬ i < 8 by omega, show ¬ i - 8 < 8 by omega, show ¬ i - 16 < 8 by omega]

/-- Any checksum can be had by a choice of the tail. -/
theorem exists_tail {head : List Byte} (hlen : head.length = 7) {s : BitVec 32}
    (hs : s &&& 0xffffff = s) : ∃ stack, modesChecksum (overlay head stack).bytes 112 = s := by
  obtain ⟨r, hr⟩ : ∃ r, r = (head ++ List.replicate 4 (0 : Byte)).foldl crcByte 0 := ⟨_, rfl⟩
  have hmask : (r ^^^ s) &&& 0xffffff = r ^^^ s := by
    rw [and_xor, hs, hr, foldl_crcByte_mask]
  let last : List Byte := [((r ^^^ s) >>> 16).setWidth 8, ((r ^^^ s) >>> 8).setWidth 8,
    (r ^^^ s).setWidth 8]
  have hfront : (head ++ List.replicate 4 (0 : Byte)).length = 11 := by simp [hlen]
  refine ⟨⟨List.replicate 11 (0 : Byte) ++ last, by simp [last]⟩, ?_⟩
  have hbytes : head ++ (List.replicate 11 (0 : Byte) ++ last).drop 7 =
      head ++ List.replicate 4 (0 : Byte) ++ last := by
    rw [List.append_assoc]
    rfl
  have hbyte (k : Nat) (hk : k < 3) :
      byteAt (head ++ List.replicate 4 (0 : Byte) ++ last) (11 + k) = byteAt last k := by
    rw [byteAt, List.getD_append_right _ _ _ _ (by omega), hfront, Nat.add_sub_cancel_left, byteAt]
  rw [bytes_overlay hlen, hbytes, modesChecksum]
  simp only [Nat.reduceDiv, Nat.reduceSub]
  rw [List.take_left' hfront, hbyte 0 (by decide), hbyte 1 (by decide), hbyte 2 (by decide), ← hr]
  calc r ^^^ ((byteAt last 0).setWidth 32 <<< 16) ^^^ ((byteAt last 1).setWidth 32 <<< 8) ^^^
        (byteAt last 2).setWidth 32
      = r ^^^ (r ^^^ s) := by
        rw [BitVec.xor_assoc, BitVec.xor_assoc]
        refine congrArg (r ^^^ ·) ?_
        rw [← BitVec.xor_assoc]
        exact three_bytes hmask
    _ = s := by
        rw [← BitVec.xor_assoc, BitVec.xor_self]
        exact BitVec.zero_xor

/-! ### What is received of a message -/

section Decoding
variable (modes : Modes) (f : Fin 3) (filter : IcaoFilter) (garbage : Buffer) (stats : Stats)

/-- What a network handler passes on of a Mode S message. -/
def remoteReceived (inp : Buffer) : Option Received :=
  (remoteMessage modes (modesChecksumInit f) filter garbage stats inp).2.map received

/-- What `checksumFields` makes of a message it accepts. -/
def ModesMessage.checked (mm : ModesMessage) : ModesMessage :=
  { mm with
    IID := if mm.msgtype = 11 then mm.crc &&& 0x7f else mm.IID
    msgtype := if 24 ≤ mm.msgtype then 24 else mm.msgtype }

theorem checksumFields_eq {mm mm' : ModesMessage} (h : checksumFields mm = some mm') :
    mm' = mm.checked := by
  obtain ⟨score, verbatim, msg, msgtype, msgbits, crc, correctedbits, IID⟩ := mm
  unfold checksumFields at h
  dsimp only at h
  split at h
  all_goals first
    | cases h; rfl
    | exact absurd h (by simp)

variable {modes f filter} {inp out : Buffer} {k : Int}

/-- How the outcomes of one message are scored. -/
theorem Outcome.acceptableAs_iff
    (h : Outcome f (dfCorrectableLong.get modes.fixDfBits) (dfCorrectableShort.get modes.fixDfBits)
      inp k out) :
    AcceptableAs modes filter inp k out ↔
      AcceptableAs modes filter inp (correctMessage modes (modesChecksumInit f) inp Buffer.zero).result
        (correctMessage modes (modesChecksumInit f) inp Buffer.zero).out := by
  rw [← scoreAs_accepted, ← scoreAs_accepted,
    h.scoreAs_unique modes f filter (correctMessage_outcome modes f inp Buffer.zero)]

variable (modes f filter inp) in
theorem acceptable_iff :
    Acceptable modes f filter inp ↔ ¬ AllZeros inp ∧
      AcceptableAs modes filter inp (correctMessage modes (modesChecksumInit f) inp Buffer.zero).result
        (correctMessage modes (modesChecksumInit f) inp Buffer.zero).out := by
  constructor
  · intro hgiven
    obtain ⟨hzeros, k, out, houtcome, hacceptable⟩ := hgiven
    exact ⟨hzeros, houtcome.acceptableAs_iff.mp hacceptable⟩
  · intro hgiven
    obtain ⟨hzeros, hacceptable⟩ := hgiven
    exact ⟨hzeros, _, _, correctMessage_outcome modes f inp Buffer.zero, hacceptable⟩

theorem remoteReceived_rejected (hrejected : ¬ Acceptable modes f filter inp) :
    remoteReceived modes f filter garbage stats inp = none := by
  have hresult := decodeModesMessage_result modes f filter garbage inp zeroMessage (.inl rfl)
  have hscore : scoreModesMessage modes (modesChecksumInit f) filter garbage inp < SR_ACCEPT_THRESHOLD :=
    by_contra fun h => hrejected ((scoreModesMessage_accepted modes f filter garbage inp).mp h)
  have hneg : (decodeModesMessage modes (modesChecksumInit f) filter garbage zeroMessage inp).1 < 0 := by
    rw [hresult, if_pos hscore]
    split <;> decide
  simp only [remoteReceived, remoteMessage]
  rw [if_pos hneg]
  split <;> rfl

variable (modes f filter inp) in
/-- The message that is passed on. -/
theorem remoteReceived_accepted (hzeros : ¬ AllZeros inp) :
    let c := correctMessage modes (modesChecksumInit f) inp Buffer.zero
    AcceptableAs modes filter inp c.result c.out →
      remoteReceived modes f filter garbage stats inp =
        some (received (({ zeroMessage with score := scoreAs modes filter inp c.result c.out } :
          ModesMessage).corrected inp c).checked) := by
  intro c hacceptable
  have hscore : scoreModesMessage modes (modesChecksumInit f) filter garbage inp =
      scoreAs modes filter inp c.result c.out := by
    rw [scoreModesMessage_garbage modes f filter garbage Buffer.zero inp,
      scoreModesMessage_eq modes f filter Buffer.zero inp hzeros]
  have haccept := (scoreAs_accepted modes filter inp c.result c.out).mpr hacceptable
  have hknown : ¬ scoreAs modes filter inp c.result c.out < SR_UNKNOWN_THRESHOLD :=
    fun h => haccept (Nat.lt_trans h (show SR_UNKNOWN_THRESHOLD.value < SR_ACCEPT_THRESHOLD.value by decide))
  obtain ⟨mm', hfields⟩ : ∃ mm', checksumFields (({ zeroMessage with
      score := scoreAs modes filter inp c.result c.out } : ModesMessage).corrected inp c) = some mm' :=
    hacceptable.checksumFields modes filter rfl
  have hdecode : decodeModesMessage modes (modesChecksumInit f) filter garbage zeroMessage inp =
      (0, mm') := by
    have hunset : zeroMessage.score = SR_NOT_SET := rfl
    simp only [decodeModesMessage]
    rw [if_pos hunset, hscore, if_neg hknown, if_neg haccept]
    rw [show correctMessage modes (modesChecksumInit f) inp zeroMessage.msg = c from rfl, hfields]
  simp only [remoteReceived, remoteMessage, hdecode]
  rw [if_neg (by decide), Option.map_some, checksumFields_eq hfields]

theorem remoteReceived_eq_none
    (h : Outcome f (dfCorrectableLong.get modes.fixDfBits) (dfCorrectableShort.get modes.fixDfBits)
      inp k out) (hunacceptable : ¬ AcceptableAs modes filter inp k out) :
    remoteReceived modes f filter garbage stats inp = none :=
  remoteReceived_rejected garbage stats
    fun hgood => hunacceptable (h.acceptableAs_iff.mpr ((acceptable_iff modes f filter inp).mp hgood).2)

/-- A message accepted as a long one is handed on with all its bytes as they came. -/
theorem remoteReceived_long (hzeros : ¬ AllZeros inp)
    (h : Outcome f (dfCorrectableLong.get modes.fixDfBits) (dfCorrectableShort.get modes.fixDfBits)
      inp k out)
    (hacceptable : AcceptableAs modes filter inp k out) (hlong : downlinkFormat out &&& 16 ≠ 0) :
    ∃ r, remoteReceived modes f filter garbage stats inp = some r ∧ r.msgbits = 112 ∧
      r.verbatim = inp.bytes := by
  obtain ⟨-, hbytes⟩ := h.unique (by omega) (correctMessage_outcome modes f inp Buffer.zero)
  have hdf := downlinkFormat_congr (n := 7) (by decide) (take_of_messageBytes hbytes)
  have hbits : modesMessageLenByType (downlinkFormat
      (correctMessage modes (modesChecksumInit f) inp Buffer.zero).out) = 112 := by
    rw [← hdf]
    exact if_pos hlong
  refine ⟨_, remoteReceived_accepted modes f filter garbage stats inp hzeros
    (h.acceptableAs_iff.mp hacceptable), hbits, ?_⟩
  change inp.bytes.take (modesMessageLenByType (downlinkFormat
    (correctMessage modes (modesChecksumInit f) inp Buffer.zero).out) / 8) = _
  rw [hbits]
  exact List.take_of_length_le (by simp)

theorem received_congr {a b : ModesMessage} (hscore : a.score = b.score) (htype : a.msgtype = b.msgtype)
    (hshort : a.msgtype < 16) (hbits : a.msgbits = 56) (hbits' : b.msgbits = 56) (hcrc : a.crc = b.crc)
    (hcorrected : a.correctedbits = b.correctedbits) (hIID : a.IID = b.IID)
    (hmsg : a.msg.bytes.take 7 = b.msg.bytes.take 7)
    (hverbatim : a.verbatim.bytes.take 7 = b.verbatim.bytes.take 7) : received a = received b := by
  have hfields := bulkFields_congr htype hshort hcrc hcorrected hIID hmsg
  simp only [received, filterAddress, hscore, htype, hbits, hbits', hcrc, hcorrected, hIID, hfields,
    Nat.reduceDiv, hmsg, hverbatim]

variable (modes f) in
theorem correctMessage_short_syndrome (inp : Buffer) :
    let c := correctMessage modes (modesChecksumInit f) inp Buffer.zero
    downlinkFormat c.out &&& 16 = 0 →
      checkedSyndrome c.short_syndrome c.out shortMsgBits = modesChecksum inp.bytes 56 := by
  intro c hdf
  obtain ⟨hsyn, hchecked, -⟩ := correctMessageWith_syndromes (dfCorrectableLong.get modes.fixDfBits)
    (dfCorrectableShort.get modes.fixDfBits) (modesChecksumInit f) inp Buffer.zero
  exact (correctMessage_outcome modes f inp Buffer.zero).checked_short hsyn hchecked hdf

theorem toNat_lt_of_short {df : BitVec 32} (hlt : df.toNat < 32) (hdf : df &&& 16 = 0) :
    df.toNat < 16 := by
  have hall : ∀ n : Fin 32, BitVec.ofNat 32 n &&& 16 = 0 → (n : Nat) < 16 := by decide
  apply hall ⟨df.toNat, hlt⟩
  rw [BitVec.ofNat_toNat, BitVec.setWidth_eq]
  exact hdf

/-- Of a message taken for a short one, everything is decided by seven bytes. -/
theorem remoteReceived_short {inp' out' : Buffer} (htake : inp.bytes.take 7 = inp'.bytes.take 7)
    (h : Outcome f (dfCorrectableLong.get modes.fixDfBits) (dfCorrectableShort.get modes.fixDfBits)
      inp k out)
    (h' : Outcome f (dfCorrectableLong.get modes.fixDfBits) (dfCorrectableShort.get modes.fixDfBits)
      inp' k out')
    (hout : out.bytes.take 7 = out'.bytes.take 7) (hshort : downlinkFormat out &&& 16 = 0) :
    remoteReceived modes f filter garbage stats inp = remoteReceived modes f filter garbage stats inp' := by
  have haccepted := remoteReceived_accepted modes f filter garbage stats inp
  have haccepted' := remoteReceived_accepted modes f filter garbage stats inp'
  have hiff := acceptable_iff modes f filter inp
  have hiff' := acceptable_iff modes f filter inp'
  have hcheck := correctMessage_short_syndrome modes f inp
  have hcheck' := correctMessage_short_syndrome modes f inp'
  obtain ⟨hk, hbytes⟩ := h.unique (by omega) (correctMessage_outcome modes f inp Buffer.zero)
  obtain ⟨hk', hbytes'⟩ := h'.unique (by omega) (correctMessage_outcome modes f inp' Buffer.zero)
  dsimp only at haccepted haccepted' hcheck hcheck'
  generalize correctMessage modes (modesChecksumInit f) inp Buffer.zero = c at *
  generalize correctMessage modes (modesChecksumInit f) inp' Buffer.zero = c' at *
  have hresult : c.result = c'.result := hk.symm.trans hk'
  have hsame : c.out.bytes.take 7 = c'.out.bytes.take 7 :=
    (take_of_messageBytes hbytes).symm.trans (hout.trans (take_of_messageBytes hbytes'))
  have hdf : downlinkFormat c.out = downlinkFormat c'.out := downlinkFormat_congr (by decide) hsame
  have hdf16 : downlinkFormat c.out &&& 16 = 0 := by
    rw [← downlinkFormat_congr (by decide) (take_of_messageBytes hbytes)]
    exact hshort
  have hdf16' : downlinkFormat c'.out &&& 16 = 0 := hdf ▸ hdf16
  have hsum : modesChecksum inp.bytes 56 = modesChecksum inp'.bytes 56 :=
    modesChecksum_congr (by decide) htake
  have hscore : scoreAs modes filter inp c.result c.out = scoreAs modes filter inp' c'.result c'.out := by
    refine scoreCorrected_congr modes filter hresult hdf (announcedAddress_congr hsame) (fun _ => ?_)
      (fun hlong => absurd hdf16 hlong)
    exact (checkedSyndrome_of_checked rfl _ _).trans (hsum.trans (checkedSyndrome_of_checked rfl _ _).symm)
  have hacceptable : AcceptableAs modes filter inp c.result c.out ↔
      AcceptableAs modes filter inp' c'.result c'.out := by
    rw [← scoreAs_accepted, ← scoreAs_accepted, hscore]
  have hzeros : AllZeros inp ↔ AllZeros inp' := by
    rw [AllZeros, AllZeros, show shortMsgBytes = 7 from rfl, htake]
  by_cases hgood : ¬ AllZeros inp ∧ AcceptableAs modes filter inp c.result c.out
  · rw [haccepted hgood.1 hgood.2, haccepted' (mt hzeros.mpr hgood.1) (hacceptable.mp hgood.2)]
    have hlt := toNat_lt_of_short (downlinkFormat_lt c.out) hdf16
    have hbits : modesMessageLenByType (downlinkFormat c.out) = 56 := if_neg (not_not.mpr hdf16)
    have hcrc : (if downlinkFormat c.out &&& 16 ≠ 0 then
          checkedSyndrome c.long_syndrome c.out longMsgBits
        else checkedSyndrome c.short_syndrome c.out shortMsgBits) = modesChecksum inp.bytes 56 :=
      (if_neg (not_not.mpr hdf16)).trans (hcheck hdf16)
    have hcrc' : (if downlinkFormat c'.out &&& 16 ≠ 0 then
          checkedSyndrome c'.long_syndrome c'.out longMsgBits
        else checkedSyndrome c'.short_syndrome c'.out shortMsgBits) = modesChecksum inp'.bytes 56 :=
      (if_neg (not_not.mpr hdf16')).trans (hcheck' hdf16')
    have hbits' : modesMessageLenByType (downlinkFormat c'.out) = 56 := if_neg (not_not.mpr hdf16')
    have hIID : ((if downlinkFormat c.out &&& 16 ≠ 0 then
          checkedSyndrome c.long_syndrome c.out longMsgBits
        else checkedSyndrome c.short_syndrome c.out shortMsgBits) &&& 0x7f) =
        ((if downlinkFormat c'.out &&& 16 ≠ 0 then
          checkedSyndrome c'.long_syndrome c'.out longMsgBits
        else checkedSyndrome c'.short_syndrome c'.out shortMsgBits) &&& 0x7f) := by
      rw [hcrc, hcrc', hsum]
    refine congrArg some (received_congr hscore ?_ ?_ hbits hbits' (hcrc.trans (hsum.trans hcrc'.symm))
      ?_ ?_ hsame htake)
    · exact congrArg (fun df : BitVec 32 => if 24 ≤ df.toNat then 24 else df.toNat) hdf
    · change (if 24 ≤ (downlinkFormat c.out).toNat then 24 else (downlinkFormat c.out).toNat) < 16
      rw [if_neg (by omega)]
      exact hlt
    · exact congrArg (fun result : Int => if result > 0 then result.toNat else 0) hresult
    · exact congrArg₂ (fun (df crc : BitVec 32) => if df.toNat = 11 then crc else 0) hdf hIID
  · have hbad' : ¬ Acceptable modes f filter inp' := by
      rw [hiff', ← hzeros, ← hacceptable]
      exact hgood
    rw [remoteReceived_rejected garbage stats (mt hiff.mp hgood),
      remoteReceived_rejected garbage stats hbad']

/-- The bytes as they came are handed on up to the length decoded. -/
theorem remoteReceived_verbatim {r : Received}
    (h : remoteReceived modes f filter garbage stats inp = some r) :
    r.verbatim = inp.bytes.take (r.msgbits / 8) := by
  by_cases hgood : Acceptable modes f filter inp
  · obtain ⟨hzeros, hacceptable⟩ := (acceptable_iff modes f filter inp).mp hgood
    rw [remoteReceived_accepted modes f filter garbage stats inp hzeros hacceptable] at h
    rw [← Option.some.inj h]
    rfl
  · rw [remoteReceived_rejected garbage stats hgood] at h
    exact absurd h (by simp)

theorem remoteReceived_msgbits {r : Received}
    (h : remoteReceived modes f filter garbage stats inp = some r) : r.msgbits = 56 ∨ r.msgbits = 112 := by
  by_cases hgood : Acceptable modes f filter inp
  · obtain ⟨hzeros, hacceptable⟩ := (acceptable_iff modes f filter inp).mp hgood
    rw [remoteReceived_accepted modes f filter garbage stats inp hzeros hacceptable] at h
    rw [← Option.some.inj h]
    change modesMessageLenByType _ = 56 ∨ modesMessageLenByType _ = 112
    unfold modesMessageLenByType
    split
    · exact .inr rfl
    · exact .inl rfl
  · rw [remoteReceived_rejected garbage stats hgood] at h
    exact absurd h (by simp)

end Decoding

/-! ### Outcomes, from the seven bytes -/

section Head
variable {modes : Modes} {f : Fin 3} {filter : IcaoFilter} {inp head out : Buffer} {k : Int}

/-- A short repair is preferred, whatever follows. -/
theorem ShortRepair.outcome (hs : ShortRepair modes f head)
    (htake : inp.bytes.take 7 = head.bytes.take 7)
    (h : Outcome f (dfCorrectableLong.get modes.fixDfBits) (dfCorrectableShort.get modes.fixDfBits)
      inp k out) :
    (ValidShort head ∧ k = 0 ∧ out.bytes.take 7 = head.bytes.take 7) ∨
      (¬ ValidShort head ∧ ∃ i, ShortFix f head i ∧ k = 1 ∧
        out.bytes.take 7 = (head.flips [i]).bytes.take 7) := by
  have hone {i : Nat} (hi : ShortFix f inp i) : ∀ j ∈ [i], j < 112 :=
    fun j hj => (hi.correctable.pattern.inside j hj).trans (by decide)
  cases h with
  | validLong hvalid =>
    rcases hs.congr htake with hshort | ⟨-, i, hi⟩
    · exact absurd hshort (not_validShort hvalid.1)
    · have hempty : ∀ j ∈ ([] : List Nat), j < 112 := by simp
      have hlong : ¬ isLongPIMessage (inp.flips []) :=
        not_both_formats (hone hi) hempty (by simp) (by simp) hi.format
      exact absurd hvalid.1 hlong
  | validShort o hvalid =>
    exact .inl ⟨validShort_congr htake.symm hvalid, rfl, (take_memcpy o inp 7 (by decide)).trans htake⟩
  | fixedLong l hnl hns hadmits hl hpreferred =>
    rcases hs.congr htake with hshort | ⟨hadmits', i, hi⟩
    · exact absurd hshort hns
    · exact absurd hl.format (not_both_formats (hone hi) hl.correctable.pattern.inside (by simp)
        (hpreferred i hadmits' hi) hi.format)
  | fixedShort i o hnl hns hadmits hi hfewer =>
    exact .inr ⟨fun hvalid => hns (validShort_congr htake hvalid), i, hi.congr htake.symm, rfl,
      (take_shortFix o inp i).trans (take_flips_congr htake [i])⟩
  | uncorrectable hnl hns hnolong hnoshort =>
    rcases hs.congr htake with hshort | ⟨hadmits, i, hi⟩
    · exact absurd hshort hns
    · exact absurd hi (hnoshort hadmits i)

/-- Without a short repair, the message is valid, or repaired as a long one, or left
as it is. -/
theorem outcome_cases (hs : ¬ ShortRepair modes f inp)
    (h : Outcome f (dfCorrectableLong.get modes.fixDfBits) (dfCorrectableShort.get modes.fixDfBits)
      inp k out) :
    (∃ l, (ValidLong inp ∧ l = [] ∨ Admits (dfCorrectableLong.get modes.fixDfBits) inp ∧ LongFix f inp l) ∧
        k = l.length ∧ out = inp.flips l) ∨
      (k = -1 ∧ out = inp ∧ ¬ ValidLong inp ∧
        (Admits (dfCorrectableLong.get modes.fixDfBits) inp → ∀ l, ¬ LongFix f inp l)) := by
  cases h with
  | validLong hvalid => exact .inl ⟨[], .inl ⟨hvalid, rfl⟩, rfl, rfl⟩
  | validShort o hvalid => exact absurd (.inl hvalid) hs
  | fixedLong l hnl hns hadmits hl hpreferred => exact .inl ⟨l, .inr ⟨hadmits, hl⟩, rfl, rfl⟩
  | fixedShort i o hnl hns hadmits hi hfewer => exact absurd (.inr ⟨hadmits, i, hi⟩) hs
  | uncorrectable hnl hns hnolong hnoshort => exact .inr ⟨rfl, rfl, hnl, hnolong⟩

theorem outcome_uncorrectable (hs : ¬ ShortRepair modes f inp) (hnl : ¬ ValidLong inp)
    (hnone : Admits (dfCorrectableLong.get modes.fixDfBits) inp → ∀ l, ¬ LongFix f inp l) :
    Outcome f (dfCorrectableLong.get modes.fixDfBits) (dfCorrectableShort.get modes.fixDfBits)
      inp (-1) inp :=
  .uncorrectable hnl (fun hvalid => hs (.inl hvalid)) hnone
    fun hadmits i hi => hs (.inr ⟨hadmits, i, hi⟩)

/-- The tail that makes the checksum fit brings a repair about. -/
theorem FormatRepair.outcome {l : List Nat} (hl : FormatRepair modes f inp l)
    (hs : ¬ ShortRepair modes f inp) (hsyn : modesChecksum inp.bytes 112 = patternSyndrome 0 l) :
    Outcome f (dfCorrectableLong.get modes.fixDfBits) (dfCorrectableShort.get modes.fixDfBits)
      inp l.length (inp.flips l) := by
  rcases hl.correctable with rfl | ⟨hcorrectable, hadmits⟩
  · exact .validLong ⟨hl.format, hsyn⟩
  · have hpattern := hcorrectable.pattern
    refine .fixedLong l (fun hvalid => ?_) (fun hvalid => hs (.inl hvalid)) hadmits
      ⟨hcorrectable, hsyn.symm, hl.format⟩ fun i hadmits' hi => absurd (.inr ⟨hadmits', i, hi⟩) hs
    refine patternSyndrome_ne_zero rfl hpattern.nonempty hpattern.nodup hpattern.inside ?_
      (hsyn.symm.trans hvalid.2)
    have : l.length ≤ f := hpattern.light
    omega

theorem FormatRepair.length_le {l : List Nat} (hl : FormatRepair modes f head l) : l.length ≤ 2 := by
  rcases hl.correctable with rfl | ⟨hcorrectable, -⟩
  · simp
  · have : l.length ≤ f := hcorrectable.pattern.light
    omega

/-- Any repair of the message at hand shows in the first seven bytes. -/
theorem formatRepair_of_repaired {l : List Nat}
    (h : ValidLong inp ∧ l = [] ∨ Admits (dfCorrectableLong.get modes.fixDfBits) inp ∧ LongFix f inp l) :
    (FormatRepair modes f inp l ∧ modesChecksum inp.bytes 112 = patternSyndrome 0 l) ∨
      ∃ l', FormatRepair modes f inp l' ∧ l'.length ≤ 1 := by
  rcases h with ⟨hvalid, rfl⟩ | ⟨hadmits, hl⟩
  · exact .inr ⟨[], ⟨by simp, .inl rfl, hvalid.1⟩, by simp⟩
  · exact (hl.formatRepair hadmits).imp (fun h => ⟨h, hl.syndrome.symm⟩) id

theorem acceptableAs_long (hlong : isLongPIMessage out) :
    AcceptableAs modes filter inp k out ↔ k = 0 ∨ k = 1 ∨ (k = 2 ∧ SquitterKnown filter out) := by
  have h17 : downlinkFormat out = 17 ∨ downlinkFormat out = 18 := by
    rwa [isLongPIMessage, Bool.or_eq_true, beq_iff_eq, beq_iff_eq] at hlong
  unfold AcceptableAs SquitterKnown
  rcases h17 with hdf | hdf <;> rw [hdf]
  · exact or_congr_right (or_congr_right (and_congr_right fun _ => by simp))
  · exact or_congr_right (or_congr_right (and_congr_right fun _ => by simp))

theorem acceptableAs_uncorrected :
    AcceptableAs modes filter inp (-1) inp ↔
      (ShortOverlaid inp ∧ icaoFilterTest filter (modesChecksum inp.bytes 56) = true) ∨
        (LongOverlaid modes inp ∧ icaoFilterTest filter (modesChecksum inp.bytes 112) = true) := by
  have hlt := downlinkFormat_lt inp
  unfold AcceptableAs ShortOverlaid LongOverlaid
  generalize (downlinkFormat inp).toNat = df at hlt
  interval_cases df <;> simp

theorem format_of_shortOverlaid (h : ShortOverlaid inp) : downlinkFormat inp &&& 16 = 0 := by
  have hall : ∀ n ∈ [0, 4, 5], BitVec.ofNat 32 n &&& 16 = 0 := by decide
  have := hall _ h
  rwa [BitVec.ofNat_toNat, BitVec.setWidth_eq] at this

theorem format_of_longOverlaid (h : LongOverlaid modes inp) : downlinkFormat inp &&& 16 ≠ 0 := by
  have hall : ∀ n : Fin 32, (n : Nat) ∈ [16, 20, 21] ∨ 24 ≤ (n : Nat) → BitVec.ofNat 32 n &&& 16 ≠ 0 := by
    decide
  have := hall ⟨_, downlinkFormat_lt inp⟩ (h.imp_right And.left)
  rwa [BitVec.ofNat_toNat, BitVec.setWidth_eq] at this

theorem patternSyndrome_mask {l : List Nat} (hl : ∀ i ∈ l, i < 112) :
    patternSyndrome 0 l &&& 0xffffff = patternSyndrome 0 l := by
  induction l with
  | nil => rfl
  | cons i l ih =>
    rw [patternSyndrome_cons, Nat.add_zero, and_xor, singleBitSyndrome_mask _ (hl i (by simp)),
      ih fun j hj => hl j (by simp [hj])]

end Head

/-! ### The condition is exact -/

section Exact
variable {modes : Modes} {f : Fin 3} {filter : IcaoFilter} {garbage : Buffer} {stats : Stats}
  {head : List Byte} (hlen : head.length = 7)
include hlen

variable (modes f filter garbage stats) in
/-- If any tail makes a long message, then the tail is not invisible. -/
theorem visible_of_long {r : Received} (hbits : r.msgbits = 112) :
    ∃ stack, remoteReceived modes f filter garbage stats (overlay head stack) ≠ some r := by
  by_contra hnone
  have hall (stack : Buffer) :
      remoteReceived modes f filter garbage stats (overlay head stack) = some r :=
    by_contra fun hne => hnone ⟨stack, hne⟩
  have hverbatim (stack' : Buffer) : r.verbatim = head ++ stack'.bytes.drop 7 := by
    rw [remoteReceived_verbatim garbage stats (hall stack'), hbits, bytes_overlay hlen]
    exact List.take_of_length_le (by simp [hlen])
  have hsame := (hverbatim Buffer.zero).symm.trans (hverbatim ⟨List.replicate 14 1, rfl⟩)
  exact absurd (List.append_cancel_left hsame) (by decide)

variable (hzeros : ¬ AllZeros (overlay head Buffer.zero))
  (hshort : ¬ ShortRepair modes f (overlay head Buffer.zero))
include hzeros hshort

/-- A repair whose result is accepted: some tail makes a long message. -/
theorem long_of_formatRepair {l : List Nat} (hl : FormatRepair modes f (overlay head Buffer.zero) l)
    (hknown : l.length ≤ 1 ∨ SquitterKnown filter ((overlay head Buffer.zero).flips l)) :
    ∃ stack r, remoteReceived modes f filter garbage stats (overlay head stack) = some r ∧
      r.msgbits = 112 := by
  have hinside : ∀ i ∈ l, i < 112 := fun i hi => (hl.inside i hi).trans (by decide)
  obtain ⟨stack, hsum⟩ := exists_tail hlen (patternSyndrome_mask hinside)
  have htake := take_overlay hlen stack Buffer.zero
  have hl' := hl.congr htake
  have houtcome := hl'.outcome (fun h => hshort (h.congr htake.symm)) hsum
  have hlight := hl.length_le
  have hacceptable : AcceptableAs modes filter (overlay head stack) l.length
      ((overlay head stack).flips l) := by
    rw [acceptableAs_long hl'.format]
    rcases hknown with hone | hknown
    · omega
    · have hflips := take_flips_congr htake l
      have hknown' : SquitterKnown filter ((overlay head stack).flips l) := by
        rw [SquitterKnown, downlinkFormat_congr (by decide) hflips, announcedAddress_congr hflips]
        exact hknown
      have : l.length = 0 ∨ l.length = 1 ∨ l.length = 2 := by omega
      rcases this with h | h | h <;> simp [h, hknown']
  obtain ⟨r, hr, hbits, -⟩ := remoteReceived_long garbage stats
    (by rwa [AllZeros, show shortMsgBytes = 7 from rfl, htake]) houtcome hacceptable
    (format_of_long hl'.format)
  exact ⟨stack, r, hr, hbits⟩

/-- An address overlaid on the checksum of a long format: some tail makes it a known one. -/
theorem long_of_overlaid (hformat : LongOverlaid modes (overlay head Buffer.zero))
    (hnone : ∀ l, FormatRepair modes f (overlay head Buffer.zero) l → ¬ l.length ≤ 1)
    {addr : BitVec 32} (hmask : addr &&& 0xffffff = addr) (hknown : icaoFilterTest filter addr = true)
    (hfree : ∀ l, FormatRepair modes f (overlay head Buffer.zero) l → patternSyndrome 0 l ≠ addr) :
    ∃ stack r, remoteReceived modes f filter garbage stats (overlay head stack) = some r ∧
      r.msgbits = 112 := by
  obtain ⟨stack, hsum⟩ := exists_tail hlen hmask
  have htake := take_overlay hlen stack Buffer.zero
  have hleft {l : List Nat} (h : ValidLong (overlay head stack) ∧ l = [] ∨
      Admits (dfCorrectableLong.get modes.fixDfBits) (overlay head stack) ∧
        LongFix f (overlay head stack) l) : False := by
    rcases formatRepair_of_repaired h with ⟨hl, hsyn⟩ | ⟨l', hl', hone⟩
    · exact hfree l (hl.congr htake.symm) (hsyn.symm.trans hsum)
    · exact hnone l' (hl'.congr htake.symm) hone
  have houtcome := outcome_uncorrectable (fun h => hshort (h.congr htake.symm))
    (fun hvalid => hleft (.inl ⟨hvalid, rfl⟩)) (fun hadmits l hl => hleft (.inr ⟨hadmits, hl⟩))
  have hformat' : LongOverlaid modes (overlay head stack) := by
    rw [LongOverlaid, downlinkFormat_congr (by decide) htake]
    exact hformat
  have hacceptable : AcceptableAs modes filter (overlay head stack) (-1) (overlay head stack) :=
    acceptableAs_uncorrected.mpr (.inr ⟨hformat', by rwa [hsum]⟩)
  obtain ⟨r, hr, hbits, -⟩ := remoteReceived_long garbage stats
    (by rwa [AllZeros, show shortMsgBytes = 7 from rfl, htake]) houtcome hacceptable
    (format_of_longOverlaid hformat')
  exact ⟨stack, r, hr, hbits⟩

variable (garbage stats) in
/-- A repair that is rejected, of a message that would be accepted as it is: with
another tail it is. -/
theorem visible_of_rejected {l : List Nat} (hl : FormatRepair modes f (overlay head Buffer.zero) l)
    (hnone : ∀ l, FormatRepair modes f (overlay head Buffer.zero) l → ¬ l.length ≤ 1)
    (hunknown : ¬ SquitterKnown filter ((overlay head Buffer.zero).flips l))
    (hformat : ShortOverlaid (overlay head Buffer.zero))
    (hknown : icaoFilterTest filter (modesChecksum (overlay head Buffer.zero).bytes 56) = true) :
    ∃ stack stack', remoteReceived modes f filter garbage stats (overlay head stack) ≠
      remoteReceived modes f filter garbage stats (overlay head stack') := by
  have hinside : ∀ i ∈ l, i < 112 := fun i hi => (hl.inside i hi).trans (by decide)
  have htwo : l.length = 2 := by
    have := hl.length_le
    have := hnone l hl
    omega
  have htake (stack : Buffer) := take_overlay hlen stack Buffer.zero
  have hshort' (stack : Buffer) : ¬ ShortRepair modes f (overlay head stack) :=
    fun h => hshort (h.congr (htake stack).symm)
  have hzeros' (stack : Buffer) : ¬ AllZeros (overlay head stack) := by
    rw [AllZeros, show shortMsgBytes = 7 from rfl, htake stack]
    exact hzeros
  -- one tail has the two bits corrected
  obtain ⟨stack, hsum⟩ := exists_tail hlen (patternSyndrome_mask hinside)
  have hl' := hl.congr (htake stack)
  have hrejected : remoteReceived modes f filter garbage stats (overlay head stack) = none := by
    refine remoteReceived_eq_none garbage stats (hl'.outcome (hshort' stack) hsum) fun hacceptable => ?_
    have hflips := take_flips_congr (htake stack) l
    rw [acceptableAs_long hl'.format, htwo, SquitterKnown, downlinkFormat_congr (by decide) hflips,
      announcedAddress_congr hflips] at hacceptable
    rcases hacceptable with h | h | ⟨-, h⟩
    · omega
    · omega
    · exact hunknown h
  -- with a third bit damaged there is nothing to correct
  have hpattern : IsPattern 0 112 f l := by
    rcases hl.correctable with rfl | ⟨hcorrectable, -⟩
    · exact absurd htwo (by simp)
    · exact hcorrectable.pattern
  have hinside' : ∀ i ∈ 60 :: l, i < 112 := by
    intro i hi
    rcases List.mem_cons.mp hi with rfl | hi
    · decide
    · exact hinside i hi
  have hnodup : (60 :: l).Nodup :=
    List.nodup_cons.mpr ⟨fun h => absurd (hl.inside 60 h) (by decide), hpattern.nodup⟩
  obtain ⟨stack', hsum'⟩ := exists_tail hlen (patternSyndrome_mask hinside')
  have hleft {l' : List Nat} (h : ValidLong (overlay head stack') ∧ l' = [] ∨
      Admits (dfCorrectableLong.get modes.fixDfBits) (overlay head stack') ∧
        LongFix f (overlay head stack') l') : False := by
    rcases formatRepair_of_repaired h with ⟨hfound, hsyn⟩ | ⟨l₁, hl₁, hone⟩
    · have hlight := hfound.length_le
      have hheavy := hnone l' (hfound.congr (htake stack').symm)
      have hinside₁ : ∀ i ∈ l', i < 112 := fun i hi => (hfound.inside i hi).trans (by decide)
      have hnodup₁ : l'.Nodup := by
        rcases hfound.correctable with rfl | ⟨hcorrectable, -⟩
        · exact List.nodup_nil
        · exact hcorrectable.pattern.nodup
      have hperm := perm_of_patternSyndrome_eq rfl hnodup hnodup₁ hinside' hinside₁
        (by rw [List.length_cons]; omega) (hsum'.symm.trans hsyn)
      have := hperm.length_eq
      rw [List.length_cons] at this
      omega
    · exact hnone l₁ (hl₁.congr (htake stack').symm) hone
  have houtcome := outcome_uncorrectable (hshort' stack')
    (fun hvalid => hleft (.inl ⟨hvalid, rfl⟩)) (fun hadmits l hl => hleft (.inr ⟨hadmits, hl⟩))
  have hacceptable : AcceptableAs modes filter (overlay head stack') (-1) (overlay head stack') := by
    refine acceptableAs_uncorrected.mpr (.inl ⟨?_, ?_⟩)
    · rw [ShortOverlaid, downlinkFormat_congr (by decide) (htake stack')]
      exact hformat
    · rw [modesChecksum_congr (b := (overlay head Buffer.zero).bytes) (by decide) (htake stack')]
      exact hknown
  refine ⟨stack, stack', ?_⟩
  rw [hrejected, remoteReceived_accepted modes f filter garbage stats _ (hzeros' stack')
    (houtcome.acceptableAs_iff.mp hacceptable)]
  exact (Option.some_ne_none _).symm

end Exact

/-- A message taken for a DF11 is received alike, whatever the tail. -/
theorem ShortRepair.invisible {modes : Modes} {f : Fin 3} {filter : IcaoFilter} {head : Buffer}
    (hs : ShortRepair modes f head) (garbage : Buffer) (stats : Stats) {inp inp' : Buffer}
    (htake : inp.bytes.take 7 = head.bytes.take 7) (htake' : inp'.bytes.take 7 = head.bytes.take 7) :
    remoteReceived modes f filter garbage stats inp = remoteReceived modes f filter garbage stats inp' := by
  have h := correctMessage_outcome modes f inp Buffer.zero
  have h' := correctMessage_outcome modes f inp' Buffer.zero
  rcases hs.outcome htake h with ⟨hvalid, hk, hout⟩ | ⟨hinvalid, i, hi, hk, hout⟩
  · rcases hs.outcome htake' h' with ⟨-, hk', hout'⟩ | ⟨hinvalid, -⟩
    · rw [hk] at h
      rw [hk'] at h'
      refine remoteReceived_short garbage stats (htake.trans htake'.symm) h h' (hout.trans hout'.symm) ?_
      rw [downlinkFormat_congr (by decide) hout]
      exact format_of_short hvalid.1
    · exact absurd hvalid hinvalid
  · rcases hs.outcome htake' h' with ⟨hvalid, -⟩ | ⟨-, i', hi', hk', hout'⟩
    · exact absurd hvalid hinvalid
    · obtain rfl := hi.unique hi'
      rw [hk] at h
      rw [hk'] at h'
      refine remoteReceived_short garbage stats (htake.trans htake'.symm) h h' (hout.trans hout'.symm) ?_
      rw [downlinkFormat_congr (by decide) hout]
      exact format_of_short hi.format

/-- **When the tail is invisible**: exactly if it does not matter. -/
theorem tail_invisible_iff (modes : Modes) (f : Fin 3) (filter : IcaoFilter) (garbage : Buffer)
    (stats : Stats) {head : List Byte} (hlen : head.length = 7) :
    (∀ stack stack', remoteReceived modes f filter garbage stats (overlay head stack) =
      remoteReceived modes f filter garbage stats (overlay head stack')) ↔
      ¬ TailMatters modes f filter (overlay head Buffer.zero) := by
  have htake (stack : Buffer) := take_overlay hlen stack Buffer.zero
  constructor
  · intro hsame hgiven
    obtain ⟨hzeros, hshort, hcases⟩ := hgiven
    have hlong : ¬ ∃ stack r, remoteReceived modes f filter garbage stats (overlay head stack) = some r ∧
        r.msgbits = 112 := by
      intro hgiven
      obtain ⟨stack, r, hr, hbits⟩ := hgiven
      obtain ⟨stack', hne⟩ := visible_of_long modes f filter garbage stats hlen hbits
      exact hne ((hsame stack' stack).trans hr)
    have haccepted {l : List Nat} (hl : FormatRepair modes f (overlay head Buffer.zero) l)
        (hknown : l.length ≤ 1 ∨ SquitterKnown filter ((overlay head Buffer.zero).flips l)) : False :=
      hlong (long_of_formatRepair hlen hzeros hshort hl hknown)
    have hnone : ∀ l, FormatRepair modes f (overlay head Buffer.zero) l → ¬ l.length ≤ 1 :=
      fun l hl hone => haccepted hl (.inl hone)
    rcases hcases with ⟨l, hl, hknown⟩ | ⟨l, hl, hformat, hknown⟩ | ⟨hformat, addr, hmask, hknown, hfree⟩
    · exact haccepted hl hknown
    · obtain ⟨stack, stack', hne⟩ := visible_of_rejected garbage stats hlen hzeros
        hshort hl hnone (fun h => haccepted hl (.inr h)) hformat hknown
      exact hne (hsame stack stack')
    · exact hlong (long_of_overlaid hlen hzeros hshort hformat hnone hmask hknown hfree)
  · intro hnot stack stack'
    by_cases hzeros : AllZeros (overlay head Buffer.zero)
    · have hrejected (stack : Buffer) :
          remoteReceived modes f filter garbage stats (overlay head stack) = none := by
        refine remoteReceived_rejected garbage stats fun hgood => hgood.1 ?_
        rw [AllZeros, show shortMsgBytes = 7 from rfl, htake stack]
        exact hzeros
      rw [hrejected, hrejected]
    by_cases hshort : ShortRepair modes f (overlay head Buffer.zero)
    · exact hshort.invisible garbage stats (htake stack) (htake stack')
    have hlong {l : List Nat} (hl : FormatRepair modes f (overlay head Buffer.zero) l) :
        ¬ (l.length ≤ 1 ∨ SquitterKnown filter ((overlay head Buffer.zero).flips l)) :=
      fun h => hnot ⟨hzeros, hshort, .inl ⟨l, hl, h⟩⟩
    -- nothing is corrected, or it is and then rejected
    have houtcome (stack : Buffer) :
        (∃ l, FormatRepair modes f (overlay head Buffer.zero) l) ∧
            remoteReceived modes f filter garbage stats (overlay head stack) = none ∨
          Outcome f (dfCorrectableLong.get modes.fixDfBits) (dfCorrectableShort.get modes.fixDfBits)
              (overlay head stack) (-1) (overlay head stack) ∧
            ∀ l, FormatRepair modes f (overlay head Buffer.zero) l →
              patternSyndrome 0 l ≠ modesChecksum (overlay head stack).bytes 112 := by
      have hshort' : ¬ ShortRepair modes f (overlay head stack) :=
        fun h => hshort (h.congr (htake stack).symm)
      have h := correctMessage_outcome modes f (overlay head stack) Buffer.zero
      rcases outcome_cases hshort' h with ⟨l, hrepaired, hk, hout⟩ | ⟨hk, hout, hnl, hnone⟩
      · rcases formatRepair_of_repaired hrepaired with ⟨hl, -⟩ | ⟨l', hl', hone⟩
        · refine .inl ⟨⟨l, hl.congr (htake stack).symm⟩, remoteReceived_eq_none garbage stats h ?_⟩
          rw [hk, hout, acceptableAs_long hl.format]
          have hrejected := not_or.mp (hlong (hl.congr (htake stack).symm))
          have hflips := take_flips_congr (htake stack) l
          rw [SquitterKnown, downlinkFormat_congr (by decide) hflips, announcedAddress_congr hflips]
          intro hgiven
          obtain h | h | ⟨-, h⟩ := hgiven
          · omega
          · omega
          · exact hrejected.2 h
        · exact absurd (.inl hone) (hlong (hl'.congr (htake stack).symm))
      · rw [hk, hout] at h
        refine .inr ⟨h, fun l hl hsyn => ?_⟩
        have hl' := hl.congr (htake stack)
        rcases hl.correctable with rfl | ⟨hcorrectable, -⟩
        · exact hnl ⟨hl'.format, hsyn.symm⟩
        · obtain ⟨-, hadmits⟩ := hl'.correctable.resolve_left hcorrectable.pattern.nonempty
          exact hnone hadmits l ⟨hcorrectable, hsyn, hl'.format⟩
    by_cases hknown : ShortOverlaid (overlay head Buffer.zero) ∧
        icaoFilterTest filter (modesChecksum (overlay head Buffer.zero).bytes 56) = true
    · have huncorrected (stack : Buffer) := (houtcome stack).resolve_left fun ⟨⟨l, hl⟩, _⟩ =>
        hnot ⟨hzeros, hshort, .inr (.inl ⟨l, hl, hknown⟩)⟩
      refine remoteReceived_short garbage stats (take_overlay hlen stack stack') (huncorrected stack).1
        (huncorrected stack').1 (take_overlay hlen stack stack') ?_
      rw [downlinkFormat_congr (by decide) (htake stack)]
      exact format_of_shortOverlaid hknown.1
    · have hrejected (stack : Buffer) :
          remoteReceived modes f filter garbage stats (overlay head stack) = none := by
        rcases houtcome stack with ⟨-, h⟩ | ⟨h, hfree⟩
        · exact h
        refine remoteReceived_eq_none garbage stats h fun hacceptable => ?_
        rw [acceptableAs_uncorrected, ShortOverlaid, LongOverlaid,
          downlinkFormat_congr (by decide) (htake stack),
          modesChecksum_congr (b := (overlay head Buffer.zero).bytes) (show 24 ≤ 56 by decide)
            (htake stack)] at hacceptable
        rcases hacceptable with h | ⟨hformat, haddr⟩
        · exact hknown h
        · exact hnot ⟨hzeros, hshort, .inr (.inr ⟨hformat, _, modesChecksum_mask _ _, haddr, hfree⟩)⟩
      rw [hrejected, hrejected]

end RbFeeder.ModeS
