import RbFeeder.ModeS.Residue
import RbFeeder.Net.Avr
import RbFeeder.Net.Delivery
import RbFeeder.Net.Output

/-! Messages from a Beast input on their way to the two Beast outputs.

`decodeBinMessage` keeps the bytes of a message as they came (`verbatim`) beside the
corrected ones (`msg`). `modesSendBeastVerbatimOutput` sends the former and
`modesSendBeastCookedOutput` the latter, both with the length of the corrected format.

`beast_forwarding`: where that is also the length of the frame that came in, what the
verbatim output completes reads as the same message, and what the cooked output completes
as the corrected one. -/
namespace RbFeeder.Net
open ModeS (Byte Buffer ModesMessage)

/-- `MAGIC_MLAT_TIMESTAMP`. -/
def magicMlatTimestamp : BitVec 64 := 0xFF004D4C4154#64

/-- What the Beast outputs read of a message, and `remote`. -/
structure OutputMessage where
  timestampMsg : BitVec 64
  signalLevel : SignalLevel
  remote : Bool
  mm : ModesMessage

/-- `source == SOURCE_MLAT`. -/
def OutputMessage.FromMlat (x : OutputMessage) : Prop :=
  x.remote = true ∧ x.timestampMsg = magicMlatTimestamp

instance (x : OutputMessage) : Decidable x.FromMlat := inferInstanceAs (Decidable (_ ∧ _))

/-- The level `(ch / 255)²`, idealised as exact: the output takes its root again. -/
def signalLevelOf (ch : Byte) : SignalLevel := ⟨ch ≠ 0, ch.toNat⟩

theorem sig_signalLevelOf (ch : Byte) : (signalLevelOf ch).sig = ch := by
  have hlow : ¬ ((ch ≠ 0) ∧ (ch.toNat : Int) < 1) := by
    intro h
    have hzero : ch.toNat = 0 := by have := h.2; omega
    exact h.1 (BitVec.eq_of_toNat_eq hzero)
  have hhigh : ¬ (ch.toNat : Int) > 255 := by
    have := ch.isLt
    omega
  simp only [SignalLevel.sig, signalLevelOf, decide_eq_true_eq]
  rw [if_neg hlow, if_neg hhigh, BitVec.ofInt_natCast, BitVec.ofNat_toNat, BitVec.setWidth_eq]

/-! ### Input -/

section Input
variable (modes : ModeS.Modes) (tables : ModeS.ErrorTables) (filter : ModeS.IcaoFilter)
  (garbage : Buffer) (stats : ModeS.Stats)

/-- The Mode S message that `decodeBinMessage(c, p)` passes on, with `stack` what its
local buffer holds before. -/
def binMessage (stack : Buffer) (p : List Byte) : Option OutputMessage :=
  match decodeBinMessage modes.mode_ac p with
  | .modeS timestampMsg signal msg =>
    (ModeS.remoteMessage modes tables filter garbage stats (ModeS.overlay msg stack)).2.map fun mm =>
      ⟨timestampMsg, signalLevelOf signal, true, mm⟩
  | _ => none

end Input

/-! ### Output -/

section Output
variable (env : Environment) (forward_mlat : Bool)

/-- `modesSendBeastVerbatimOutput(mm, a)`. -/
def modesSendBeastVerbatimOutput (x : OutputMessage) (net : Network) : Network :=
  if x.FromMlat ∧ ¬ forward_mlat then net
  else net.queue env .beastVerbatim
    (beastFrame x.timestampMsg x.signalLevel (x.mm.verbatim.bytes.take (x.mm.msgbits / 8)))

/-- `modesSendBeastCookedOutput(mm, a)`, with `reliable` of the aircraft if there is one. -/
def modesSendBeastCookedOutput (x : OutputMessage) (reliable : Option Bool) (net : Network) : Network :=
  if x.FromMlat ∧ ¬ forward_mlat then net
  else if x.mm.correctedbits ≥ 2 then net
  else if reliable = some false ∧ ¬ (ModeS.bulkFields x.mm).reliable then net
  else net.queue env .beastCooked
    (beastFrame x.timestampMsg x.signalLevel (x.mm.msg.bytes.take (x.mm.msgbits / 8)))

/-- One use of the buffer completes at most one frame. -/
theorem completed_queue (net : Network) (s : Service) (frame : Frame) (c : ClientId) :
    completed c s (net.queue env s frame).log = completed c s net.log ∨
      ∃ bytes, frame.bytes = some bytes ∧
        completed c s (net.queue env s frame).log = completed c s net.log ++ [bytes] := by
  unfold Network.queue
  cases hready : net.prepareWrite env s frame.reserve with
  | none => exact Or.inl rfl
  | some net' =>
    have hprepare := Network.completed_prepareWrite hready c s
    cases hbytes : frame.bytes with
    | none => exact Or.inl hprepare
    | some bytes =>
      refine Or.inr ⟨bytes, rfl, ?_⟩
      rw [← hprepare]
      exact net'.completed_completeWrite s bytes c

variable {env} in
/-- The frame that one use of the buffer completes is the one written. -/
theorem written_of_queue {net : Network} {s : Service} {frame : Frame} {c : ClientId} {out : List Byte}
    (h : completed c s (net.queue env s frame).log = completed c s net.log ++ [out]) :
    frame.bytes = some out := by
  obtain hnone | ⟨bytes, hbytes, hsome⟩ := completed_queue env net s frame c
  · rw [hnone] at h
    exact absurd (List.self_eq_append_right.mp h) (List.cons_ne_nil _ _)
  · rw [hsome] at h
    rw [hbytes, List.singleton_inj.mp (List.append_cancel_left h)]

end Output

/-! ### What a frame carries -/

/-- A frame from which a reader takes one message. -/
structure Carries (out : List Byte) (type : Byte) (timestamp : BitVec 64) (signal : Byte) (msg : List Byte) :
    Prop where
  scanned : scan .beast out = ([out.tail], [])
  type : out.tail.head? = some type
  fields : ∀ mode_ac, decodeBinMessage mode_ac out.tail = .modeS timestamp signal msg

theorem readTimestamp_lt (bytes : List Byte) (hlen : bytes.length ≤ 8) :
    (readTimestamp bytes).toNat < 2 ^ (8 * bytes.length) := by
  induction bytes using List.reverseRecOn with
  | nil => decide
  | append_singleton bytes ch ih =>
    rw [List.length_append, List.length_singleton] at hlen ⊢
    have hread : readTimestamp (bytes ++ [ch]) = readTimestamp bytes <<< 8 ||| ch.setWidth 64 :=
      List.foldl_concat ..
    have hhigh := ih (by omega)
    rw [hread, BitVec.toNat_or]
    refine Nat.or_lt_two_pow ?_ ?_
    · rw [BitVec.toNat_shiftLeft]
      refine Nat.lt_of_le_of_lt (Nat.mod_le _ _) ?_
      rw [Nat.shiftLeft_eq, Nat.mul_add, Nat.pow_add]
      exact Nat.mul_lt_mul_of_pos_right hhigh (by decide)
    · have hch : (ch.setWidth 64).toNat < 2 ^ 8 := by
        rw [BitVec.toNat_setWidth_of_le (by decide)]
        exact ch.isLt
      exact Nat.lt_of_lt_of_le hch (Nat.pow_le_pow_right (by decide) (by omega))

/-- The timestamp of a frame has 48 bits. -/
theorem readTimestamp_six {bytes : List Byte} (hlen : bytes.length = 6) :
    ((readTimestamp bytes).setWidth 48).setWidth 64 = readTimestamp bytes := by
  have hlt := readTimestamp_lt bytes (by omega)
  rw [hlen] at hlt
  refine BitVec.eq_of_toNat_eq ?_
  rw [BitVec.toNat_setWidth, BitVec.toNat_setWidth, Nat.mod_eq_of_lt hlt, Nat.mod_eq_of_lt]
  omega

/-- A Mode S message has the length of its type, and a timestamp of 48 bits. -/
theorem decodeBinMessage_modeS {mode_ac : Bool} {p : List Byte} {timestamp : BitVec 64} {signal : Byte}
    {msg : List Byte} (h : decodeBinMessage mode_ac p = .modeS timestamp signal msg) :
    (p.headD 0 = 0x32 ∧ msg.length = ModeS.shortMsgBytes ∨
        p.headD 0 = 0x33 ∧ msg.length = ModeS.longMsgBytes) ∧
      (timestamp.setWidth 48).setWidth 64 = timestamp := by
  have hfields : ∀ msgLen, timestamp = (readFields msgLen (p.drop 1)).1 →
      (timestamp.setWidth 48).setWidth 64 = timestamp := by
    intro msgLen htimestamp
    rw [htimestamp]
    exact readTimestamp_six (length_readBytes 6 _)
  simp only [decodeBinMessage] at h
  split_ifs at h with hac hshort hac' hlong hac''
  · cases h
    exact ⟨Or.inl ⟨hshort, length_readBytes ..⟩, hfields _ rfl⟩
  · cases h
    exact ⟨Or.inr ⟨hlong, length_readBytes ..⟩, hfields _ rfl⟩

/-- What `writeBeastMessage` writes for a Mode S message carries it. -/
theorem carries_writeBeastMessage {type : Byte} {timestamp : BitVec 64} {signal : Byte} {msg out : List Byte}
    (htype : type = 0x32 ∧ msg.length = ModeS.shortMsgBytes ∨ type = 0x33 ∧ msg.length = ModeS.longMsgBytes)
    (htimestamp : (timestamp.setWidth 48).setWidth 64 = timestamp)
    (h : writeBeastMessage timestamp (signalLevelOf signal) msg = some out) :
    Carries out type timestamp signal msg := by
  have hlen : msg.length = ModeS.shortMsgBytes ∨ msg.length = ModeS.longMsgBytes :=
    htype.imp And.right And.right
  let m : BeastMessage := ⟨timestamp.setWidth 48, signalLevelOf signal, msg, Or.inr hlen⟩
  have hframe : out = m.frame := by
    have hwrite := m.writeBeastMessage_eq
    rw [show m.timestamp.setWidth 64 = timestamp from htimestamp] at hwrite
    exact Option.some.inj (h.symm.trans hwrite)
  rw [hframe]
  refine ⟨?_, ?_, fun mode_ac => ?_⟩
  · have hscan := scan_frames [m]
    rw [List.flatMap_singleton] at hscan
    exact (scanBeast_eq beastLength m.frame).trans hscan
  · show some m.type = some type
    obtain ⟨rfl, hshort⟩ | ⟨rfl, hlong⟩ := htype
    · rw [BeastMessage.type, if_pos hshort]
    · have hshort : ¬ msg.length = ModeS.shortMsgBytes := by rw [hlong]; decide
      rw [BeastMessage.type, if_neg hshort, if_pos hlong]
  · have hread := m.decodeBinMessage_body mode_ac []
    have hmodes : m.msg.length ≠ modeacMsgBytes := by
      show msg.length ≠ modeacMsgBytes
      obtain hshort | hlong := hlen
      · rw [hshort]; decide
      · rw [hlong]; decide
    rw [List.append_nil, BeastMessage.received, if_pos hmodes] at hread
    refine hread.trans ?_
    rw [show m.timestamp.setWidth 64 = timestamp from htimestamp,
      show m.signal.sig = signal from sig_signalLevelOf signal]

/-! ### Forwarding -/

section Forward
variable {modes : ModeS.Modes} {tables : ModeS.ErrorTables} {filter : ModeS.IcaoFilter}
  {garbage stack : Buffer} {stats : ModeS.Stats} {p : List Byte} {timestamp : BitVec 64} {signal : Byte}
  {msg : List Byte} {x : OutputMessage}

theorem take_overlay_self {head : List Byte} (hlen : head.length ≤ 14) (stack : Buffer) :
    (ModeS.overlay head stack).bytes.take head.length = head := by
  show ((head ++ stack.bytes.drop head.length).take 14).take head.length = head
  rw [List.take_take, min_eq_left hlen, List.take_left]

theorem checksumFields_verbatim {mm mm' : ModesMessage} (h : ModeS.checksumFields mm = some mm') :
    mm'.verbatim = mm.verbatim := by
  unfold ModeS.checksumFields at h
  split at h
  case h_18 => contradiction
  all_goals
    obtain rfl := Option.some.inj h
    rfl

/-- A message that is passed on was not rejected. -/
theorem remoteMessage_some {inp : Buffer} {mm : ModesMessage}
    (h : (ModeS.remoteMessage modes tables filter garbage stats inp).2 = some mm) :
    ¬ (ModeS.decodeModesMessage modes tables filter garbage ModeS.zeroMessage inp).1 < 0 ∧
      (ModeS.decodeModesMessage modes tables filter garbage ModeS.zeroMessage inp).2 = mm := by
  simp only [ModeS.remoteMessage] at h
  split_ifs at h with hresult
  exact ⟨hresult, Option.some.inj h⟩

/-- A message that is not rejected is passed on. -/
theorem exists_binMessage (hread : decodeBinMessage modes.mode_ac p = .modeS timestamp signal msg)
    (haccept : ¬ (ModeS.decodeModesMessage modes tables filter garbage ModeS.zeroMessage
      (ModeS.overlay msg stack)).1 < 0) :
    ∃ x, binMessage modes tables filter garbage stats stack p = some x := by
  rw [binMessage, hread]
  simp only [ModeS.remoteMessage]
  rw [if_neg haccept]
  exact ⟨_, rfl⟩

/-- What is kept of an accepted message. -/
theorem binMessage_eq (hread : decodeBinMessage modes.mode_ac p = .modeS timestamp signal msg)
    (haccept : binMessage modes tables filter garbage stats stack p = some x) :
    let c := ModeS.correctMessage modes tables (ModeS.overlay msg stack) Buffer.zero
    x.timestampMsg = timestamp ∧ x.signalLevel = signalLevelOf signal ∧
      x.mm.verbatim = ModeS.overlay msg stack ∧ x.mm.msg = c.out ∧
      x.mm.msgbits = ModeS.modesMessageLenByType (ModeS.downlinkFormat c.out) := by
  intro c
  rw [binMessage, hread] at haccept
  obtain ⟨mm, hmm, rfl⟩ := Option.map_eq_some_iff.mp haccept
  obtain ⟨hresult, rfl⟩ := remoteMessage_some hmm
  obtain ⟨score, hfields⟩ := ModeS.decodeModesMessage_corrected hresult
  obtain ⟨hmsg, hbits, -, -⟩ := ModeS.checksumFields_eq_some hfields
  exact ⟨rfl, rfl, checksumFields_verbatim hfields, hmsg, hbits⟩

/-- **Main theorem.** If a frame of a Mode S message is as long as the corrected format, then
the frame that the verbatim output completes for it carries the message as it came, and the
frame that the cooked output completes carries the corrected message. -/
theorem beast_forwarding (hread : decodeBinMessage modes.mode_ac p = .modeS timestamp signal msg)
    (haccept : binMessage modes tables filter garbage stats stack p = some x)
    (hlen : 8 * msg.length = ModeS.modesMessageLenByType
      (ModeS.downlinkFormat (ModeS.correctMessage modes tables (ModeS.overlay msg stack) Buffer.zero).out))
    (env : Environment) (forward_mlat : Bool) (reliable : Option Bool) (net : Network) (c : ClientId)
    (out : List Byte) :
    (completed c .beastVerbatim (modesSendBeastVerbatimOutput env forward_mlat x net).log =
        completed c .beastVerbatim net.log ++ [out] →
      Carries out (p.headD 0) timestamp signal msg) ∧
    (completed c .beastCooked (modesSendBeastCookedOutput env forward_mlat x reliable net).log =
        completed c .beastCooked net.log ++ [out] →
      Carries out (p.headD 0) timestamp signal
        ((ModeS.correctMessage modes tables (ModeS.overlay msg stack) Buffer.zero).out.bytes.take msg.length)) := by
  obtain ⟨htype, htimestamp⟩ := decodeBinMessage_modeS hread
  obtain ⟨hstamp, hsignal, hverbatim, hmsg, hbits⟩ := binMessage_eq hread haccept
  have hbytes : x.mm.msgbits / 8 = msg.length := by
    rw [hbits, ← hlen, Nat.mul_div_cancel_left _ (by decide)]
  have hshort : msg.length ≤ 14 := by
    obtain ⟨-, h⟩ | ⟨-, h⟩ := htype <;> rw [h] <;> decide
  constructor
  · intro hemits
    unfold modesSendBeastVerbatimOutput at hemits
    split_ifs at hemits
    · exact absurd (List.self_eq_append_right.mp hemits) (List.cons_ne_nil _ _)
    have hwrite := written_of_queue hemits
    rw [hverbatim, hbytes, take_overlay_self hshort, hstamp, hsignal] at hwrite
    exact carries_writeBeastMessage htype htimestamp hwrite
  · intro hemits
    unfold modesSendBeastCookedOutput at hemits
    split_ifs at hemits
    · exact absurd (List.self_eq_append_right.mp hemits) (List.cons_ne_nil _ _)
    · exact absurd (List.self_eq_append_right.mp hemits) (List.cons_ne_nil _ _)
    · exact absurd (List.self_eq_append_right.mp hemits) (List.cons_ne_nil _ _)
    have hwrite := written_of_queue hemits
    rw [hmsg, hbytes, hstamp, hsignal] at hwrite
    refine carries_writeBeastMessage ?_ htimestamp hwrite
    rwa [List.length_take, Buffer.length_bytes, min_eq_left hshort]

end Forward

/-- A damaged extended squitter, with escape bytes in the timestamp and in the message. -/
def damagedCall : List Byte :=
  0x33 :: escapeBytes ([0, 0, 0, 0, 0x1a, 0, 0x1a] ++ ModeS.damagedSquitter.bytes)

def noStats : ModeS.Stats := ⟨0, 0, fun _ => 0, 0, 0, 0, fun _ => 0⟩

theorem decodeBinMessage_damagedCall : decodeBinMessage ModeS.feederModes.mode_ac damagedCall =
    .modeS 0x1a00 0x1a ModeS.damagedSquitter.bytes := by decide +kernel

theorem overlay_damagedSquitter : ModeS.overlay ModeS.damagedSquitter.bytes Buffer.zero = ModeS.damagedSquitter :=
  rfl

theorem length_of_messageBytes {a b : Buffer} (h : ModeS.messageBytes a = ModeS.messageBytes b) :
    ModeS.modesMessageLenByType (ModeS.downlinkFormat a) =
      ModeS.modesMessageLenByType (ModeS.downlinkFormat b) := by
  have hlen := congrArg List.length h
  rw [ModeS.messageBytes, ModeS.messageBytes, List.length_take, List.length_take, Buffer.length_bytes,
    Buffer.length_bytes] at hlen
  unfold ModeS.modesMessageLenByType at hlen ⊢
  split_ifs at hlen ⊢
  · rfl
  · exact absurd hlen (by decide)
  · exact absurd hlen (by decide)
  · rfl

/-- The corrected squitter is long. -/
theorem length_damagedSquitter :
    ModeS.modesMessageLenByType (ModeS.downlinkFormat (ModeS.correctMessage ModeS.feederModes
      (ModeS.modesChecksumInit 1) ModeS.damagedSquitter Buffer.zero).out) = 112 := by
  obtain ⟨hfix, hnl, hns, hadmits⟩ := ModeS.damagedSquitter_repair
  have hcorrect := ModeS.correctMessage_outcome ModeS.feederModes 1 ModeS.damagedSquitter Buffer.zero
  obtain ⟨-, hbytes⟩ := hcorrect.unique (by decide)
    (.fixedLong [40] hnl hns hadmits hfix fun _ _ _ => le_rfl)
  exact (length_of_messageBytes hbytes).trans (by decide +kernel)

/-- The squitter is corrected on its way, and forwarded both as it came and corrected. A client of the verbatim output gets
the frame that came in. -/
theorem beast_forwarding_damaged :
    ∃ x, binMessage ModeS.feederModes (ModeS.modesChecksumInit 1) ModeS.icaoFilterInit Buffer.zero noStats
        Buffer.zero damagedCall = some x ∧
      (∃ net, Network.init.createGenericClient System.roomyEnvironment .beastVerbatim 5 = .ok net ∧
        completed 0 .beastVerbatim (modesSendBeastVerbatimOutput System.roomyEnvironment false x net).log =
          completed 0 .beastVerbatim net.log ++ [escapeByte :: damagedCall]) ∧
      ∀ (env : Environment) (net : Network) (c : ClientId) (out : List Byte),
        (completed c .beastVerbatim (modesSendBeastVerbatimOutput env false x net).log =
            completed c .beastVerbatim net.log ++ [out] →
          Carries out 0x33 0x1a00 0x1a ModeS.damagedSquitter.bytes) ∧
        (completed c .beastCooked (modesSendBeastCookedOutput env false x none net).log =
            completed c .beastCooked net.log ++ [out] →
          Carries out 0x33 0x1a00 0x1a ((ModeS.correctMessage ModeS.feederModes (ModeS.modesChecksumInit 1)
            ModeS.damagedSquitter Buffer.zero).out.bytes.take 14)) := by
  have haccepted := ModeS.decodeModesMessage_accepts ModeS.feederModes 1 ModeS.icaoFilterInit Buffer.zero
    ModeS.damagedSquitter ModeS.zeroMessage (.inl rfl) ModeS.damagedSquitter_acceptable
  obtain ⟨x, hx⟩ : ∃ x, binMessage ModeS.feederModes (ModeS.modesChecksumInit 1) ModeS.icaoFilterInit
      Buffer.zero noStats Buffer.zero damagedCall = some x :=
    exists_binMessage decodeBinMessage_damagedCall (not_lt.mpr haccepted.ge)
  refine ⟨x, hx, ⟨_, rfl, ?_⟩, fun env net c out => ?_⟩
  · obtain ⟨hstamp, hsignal, hverbatim, -, hbits⟩ := binMessage_eq decodeBinMessage_damagedCall hx
    rw [overlay_damagedSquitter] at hverbatim
    rw [overlay_damagedSquitter, length_damagedSquitter] at hbits
    have hfresh : ¬ (x.FromMlat ∧ ¬ false = true) := fun h => absurd (hstamp.symm.trans h.1.2) (by decide)
    rw [modesSendBeastVerbatimOutput, if_neg hfresh, hstamp, hsignal, hverbatim, hbits]
    rfl
  have hlong : 8 * ModeS.damagedSquitter.bytes.length = ModeS.modesMessageLenByType (ModeS.downlinkFormat
      (ModeS.correctMessage ModeS.feederModes (ModeS.modesChecksumInit 1)
        (ModeS.overlay ModeS.damagedSquitter.bytes Buffer.zero) Buffer.zero).out) := by
    rw [overlay_damagedSquitter, length_damagedSquitter, Buffer.length_bytes]
  have hforward := beast_forwarding decodeBinMessage_damagedCall hx hlong env false none net c out
  have htype : damagedCall.headD 0 = 0x33 := rfl
  rw [overlay_damagedSquitter, Buffer.length_bytes, htype] at hforward
  exact hforward

end RbFeeder.Net
