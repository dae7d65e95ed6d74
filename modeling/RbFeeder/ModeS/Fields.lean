import RbFeeder.ModeS.ScoreProofs

/-! The fields of a decoded message, the second half of `decodeModesMessage`.

Once the message is accepted, its fields are cut out of the corrected bytes, each
for the downlink formats that have it. The fields of the short formats lie within
the first 56 bits (`bulkFields_congr`). -/
namespace RbFeeder.ModeS

/-- The fields of `struct modesMessage` that are named after those of the downlink
formats. What is computed from one of them alone (the altitude from `AC`, the
squawk from `ID`, the contents of `MB` and `ME`) is left out. -/
structure MessageFields where
  addr : BitVec 32
  reliable : Bool
  AA : BitVec 32
  AC : BitVec 32
  CA : BitVec 32
  CC : BitVec 32
  CF : BitVec 32
  DR : BitVec 32
  FS : BitVec 32
  ID : BitVec 32
  KE : BitVec 32
  MB : List Byte
  MD : List Byte
  ME : List Byte
  MV : List Byte
  ND : BitVec 32
  RI : BitVec 32
  SL : BitVec 32
  UM : BitVec 32
  VS : BitVec 32
deriving DecidableEq

/-- `MODES_NON_ICAO_ADDRESS`. -/
def modesNonIcaoAddress : BitVec 32 := 1#32 <<< 24

/-- Whether the IMF bit of an extended squitter is set; its place depends on the type of
the message. -/
def imfBit (me : List Byte) : Bool :=
  let mesub := (getbits me 6 8).toNat
  match (getbits me 1 5).toNat with
  | 19 => (1 ≤ mesub ∧ mesub ≤ 4) ∧ getbit me 9 ≠ 0
  | 5 | 6 | 7 | 8 => getbit me 21 ≠ 0
  | 0 | 9 | 10 | 11 | 12 | 13 | 14 | 15 | 16 | 17 | 18 | 20 | 21 | 22 => getbit me 8 ≠ 0
  | 28 => mesub = 1 ∧ getbit me 56 ≠ 0
  | 29 => getbit me 51 ≠ 0
  | 31 => getbit me 56 ≠ 0
  | _ => false

/-- Whether `decodeExtendedSquitter` marks the address of a DF18 as no ICAO address. -/
def marksNonIcao (CF : BitVec 32) (me : List Byte) : Bool :=
  match CF.toNat with
  | 0 => false
  | 1 | 5 => true
  | 2 | 6 => imfBit me
  | 3 => getbit me 1 ≠ 0
  | _ => true

/-- Whether an extended squitter is of a type that is not to be relied on, and is
decoded that far. -/
def dubious (msgtype : Nat) (CF : BitVec 32) (me : List Byte) : Bool :=
  (msgtype = 17 ∨ CF.toNat ∈ [0, 1, 2, 5, 6]) ∧ (getbits me 1 5).toNat ∈ [25, 26, 27]

/-- The part of `decodeModesMessage` after the checksum, on what it has set by then. -/
def bulkFields (mm : ModesMessage) : MessageFields :=
  let msg := mm.msg.bytes
  let only := fun (msgtypes : List Nat) (value : BitVec 32) =>
    if mm.msgtype ∈ msgtypes then value else 0
  let onlyBytes := fun (msgtypes : List Nat) (value : List Byte) =>
    if mm.msgtype ∈ msgtypes then value else []
  let CF := only [18] (getbits msg 6 8)
  let ME := onlyBytes [17, 18] ((msg.drop 4).take 7)
  let addr := if mm.msgtype ∈ [11, 17, 18] then getbits msg 9 32 else mm.crc
  { addr := if mm.msgtype = 18 ∧ marksNonIcao CF ME then addr ||| modesNonIcaoAddress else addr
    reliable := match mm.msgtype with
      | 11 => mm.IID = 0 ∧ mm.correctedbits = 0
      | 17 | 18 => mm.correctedbits = 0 ∧ ¬ dubious mm.msgtype CF ME
      | _ => false
    AA := only [11, 17, 18] (getbits msg 9 32)
    AC := only [0, 4, 16, 20] (getbits msg 20 32)
    CA := only [11, 17] (getbits msg 6 8)
    CC := only [0] (getbit msg 7)
    CF := CF
    DR := only [4, 5, 20, 21] (getbits msg 9 13)
    FS := only [4, 5, 20, 21] (getbits msg 6 8)
    ID := only [5, 21] (getbits msg 20 32)
    KE := only [24] (getbit msg 4)
    MB := onlyBytes [20, 21] ((msg.drop 4).take 7)
    MD := onlyBytes [24] ((msg.drop 1).take 10)
    ME := ME
    MV := onlyBytes [16] ((msg.drop 4).take 7)
    ND := only [24] (getbits msg 5 8)
    RI := only [0, 16] (getbits msg 14 17)
    SL := only [0, 16] (getbits msg 9 11)
    UM := only [4, 5, 20, 21] (getbits msg 14 19)
    VS := only [0, 16] (getbit msg 6) }

/-- The address that the end of `decodeModesMessage` passes to `icaoFilterAdd`. -/
def filterAddress (mm : ModesMessage) : Option (BitVec 32) :=
  let addr := (bulkFields mm).addr
  if mm.correctedbits = 0 ∧ (mm.msgtype = 17 ∨ mm.msgtype = 11 ∧ mm.IID = 0) then some addr
  else if mm.correctedbits = 0 ∧ mm.msgtype = 18 then some (addr ||| icaoFilterAdsbNt)
  else none

/-- What a receiver gets of a message: every field, and the bytes up to `msgbits`. -/
structure Received where
  score : ScoreRank
  msgtype : Nat
  msgbits : Nat
  crc : BitVec 32
  correctedbits : Nat
  IID : BitVec 32
  msg : List Byte
  verbatim : List Byte
  fields : MessageFields
  added : Option (BitVec 32)
deriving DecidableEq

def received (mm : ModesMessage) : Received where
  score := mm.score
  msgtype := mm.msgtype
  msgbits := mm.msgbits
  crc := mm.crc
  correctedbits := mm.correctedbits
  IID := mm.IID
  msg := mm.msg.bytes.take (mm.msgbits / 8)
  verbatim := mm.verbatim.bytes.take (mm.msgbits / 8)
  fields := bulkFields mm
  added := filterAddress mm

/-! ### What the fields depend on -/

theorem getbit_congr {a b : List Byte} {n bitnum : Nat} (h : a.take n = b.take n) (hn : 0 < n)
    (hbit : bitnum ≤ 8 * n) : getbit a bitnum = getbit b bitnum := by
  have hbyte : (bitnum - 1) >>> 3 < n := by
    rw [Nat.shiftRight_eq_div_pow]
    omega
  simp only [getbit]
  rw [byteAt_congr h hbyte]

theorem getbits_congr {a b : List Byte} {n firstbit lastbit : Nat} (h : a.take n = b.take n)
    (hn : 0 < n) (hbits : firstbit ≤ lastbit) (hlast : lastbit ≤ 8 * n) :
    getbits a firstbit lastbit = getbits b firstbit lastbit := by
  have hbyte : ∀ k ≤ (lastbit - 1) >>> 3 - (firstbit - 1) >>> 3,
      byteAt a ((firstbit - 1) >>> 3 + k) = byteAt b ((firstbit - 1) >>> 3 + k) := by
    intro k hk
    apply byteAt_congr h
    simp only [Nat.shiftRight_eq_div_pow] at hk ⊢
    omega
  simp only [getbits]
  generalize (lastbit - 1) >>> 3 - (firstbit - 1) >>> 3 = nby at hbyte ⊢
  split_ifs with h5 h4 h3 h2 h1
  · rw [hbyte 0 (by omega), hbyte 1 (by omega), hbyte 2 (by omega), hbyte 3 (by omega),
      hbyte 4 (by omega)]
  · rw [hbyte 0 (by omega), hbyte 1 (by omega), hbyte 2 (by omega), hbyte 3 (by omega)]
  · rw [hbyte 0 (by omega), hbyte 1 (by omega), hbyte 2 (by omega)]
  · rw [hbyte 0 (by omega), hbyte 1 (by omega)]
  · rw [hbyte 0 (by omega)]
  · rfl

/-- The fields of a short message are those of its seven bytes. -/
theorem bulkFields_congr {a b : ModesMessage} (htype : a.msgtype = b.msgtype) (hshort : a.msgtype < 16)
    (hcrc : a.crc = b.crc) (hcorrected : a.correctedbits = b.correctedbits) (hIID : a.IID = b.IID)
    (hmsg : a.msg.bytes.take 7 = b.msg.bytes.take 7) : bulkFields a = bulkFields b := by
  have hbits : ∀ firstbit lastbit, firstbit ≤ lastbit → lastbit ≤ 56 →
      getbits a.msg.bytes firstbit lastbit = getbits b.msg.bytes firstbit lastbit :=
    fun firstbit lastbit hle hlast => getbits_congr hmsg (by decide) hle hlast
  have hbit : ∀ bitnum ≤ 56, getbit a.msg.bytes bitnum = getbit b.msg.bytes bitnum :=
    fun bitnum hle => getbit_congr hmsg (by decide) hle
  have hnone : ∀ (msgtypes : List Nat) (x y : List Byte), (∀ t ∈ msgtypes, 16 ≤ t) →
      (if b.msgtype ∈ msgtypes then x else []) = if b.msgtype ∈ msgtypes then y else [] := by
    intro msgtypes x y hlong
    rw [if_neg fun hmem => absurd (hlong _ hmem) (by omega),
      if_neg fun hmem => absurd (hlong _ hmem) (by omega)]
  simp only [bulkFields, htype, hcrc, hcorrected, hIID]
  rw [hbits 9 32 (by decide) (by decide), hbits 20 32 (by decide) (by decide),
    hbits 6 8 (by decide) (by decide), hbits 9 13 (by decide) (by decide),
    hbits 5 8 (by decide) (by decide), hbits 14 17 (by decide) (by decide),
    hbits 9 11 (by decide) (by decide), hbits 14 19 (by decide) (by decide),
    hbit 7 (by decide), hbit 4 (by decide), hbit 6 (by decide),
    hnone [20, 21] _ ((b.msg.bytes.drop 4).take 7) (by decide),
    hnone [24] _ ((b.msg.bytes.drop 1).take 10) (by decide),
    hnone [17, 18] _ ((b.msg.bytes.drop 4).take 7) (by decide),
    hnone [16] _ ((b.msg.bytes.drop 4).take 7) (by decide)]

end RbFeeder.ModeS
