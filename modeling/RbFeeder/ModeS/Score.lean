import RbFeeder.ModeS.Correct
import RbFeeder.ModeS.IcaoFilter

/-! How plausible a message looks: `scoreModesMessage` of `mode_s.c`. -/
namespace RbFeeder.ModeS

/-- `score_rank`, from worst to best. -/
inductive ScoreRank
  | SR_NOT_SET
  | SR_ALL_ZEROS
  | SR_UNKNOWN_DF
  | SR_UNCORRECTABLE
  | SR_UNKNOWN_THRESHOLD
  | SR_UNRELIABLE_UNKNOWN
  | SR_DF11_IID_1ERROR_UNKNOWN
  | SR_DF11_ACQ_1ERROR_UNKNOWN
  | SR_DF11_IID_UNKNOWN
  | SR_DF18_2ERROR_UNKNOWN
  | SR_DF17_2ERROR_UNKNOWN
  | SR_ACCEPT_THRESHOLD
  | SR_UNRELIABLE_KNOWN
  | SR_DF18_2ERROR_KNOWN
  | SR_DF17_2ERROR_KNOWN
  | SR_DF18_1ERROR_UNKNOWN
  | SR_DF17_1ERROR_UNKNOWN
  | SR_DF11_ACQ_UNKNOWN
  | SR_DF11_IID_1ERROR_KNOWN
  | SR_DF11_ACQ_1ERROR_KNOWN
  | SR_DF11_IID_KNOWN
  | SR_DF18_1ERROR_KNOWN
  | SR_DF17_1ERROR_KNOWN
  | SR_DF11_ACQ_KNOWN
  | SR_DF18_UNKNOWN
  | SR_DF17_UNKNOWN
  | SR_DF18_KNOWN
  | SR_DF17_KNOWN
deriving DecidableEq

open ScoreRank

/-- The enumerator's value; scores are compared by it. -/
def ScoreRank.value (score : ScoreRank) : Nat := score.ctorIdx

instance : LT ScoreRank := ⟨fun a b => a.value < b.value⟩
instance (a b : ScoreRank) : Decidable (a < b) := inferInstanceAs (Decidable (a.value < b.value))

/-- `if (syndrome == UNCHECKED_SYNDROME) syndrome = modesChecksum(msg, bits)`. -/
def checkedSyndrome (syndrome : BitVec 32) (msg : Buffer) (bits : Nat) : BitVec 32 :=
  if syndrome = uncheckedSyndrome then modesChecksum msg.bytes bits else syndrome

/-- The address announced, `getbits(msg, 9, 32)`. -/
def announcedAddress (msg : Buffer) : BitVec 32 := getbits msg.bytes 9 32

/-- `recent ? known : unknown`. -/
def rank (recent : Bool) (known unknown : ScoreRank) : ScoreRank := if recent then known else unknown

/-- The `switch (corrections)` of the case for DF11. -/
def scoreDF11 (corrections : Int) (iid : BitVec 32) (recent : Bool) : ScoreRank :=
  match corrections with
  | 0 =>
    if iid = 0 then rank recent SR_DF11_ACQ_KNOWN SR_DF11_ACQ_UNKNOWN
    else rank recent SR_DF11_IID_KNOWN SR_DF11_IID_UNKNOWN
  | 1 =>
    if iid = 0 then rank recent SR_DF11_ACQ_1ERROR_KNOWN SR_DF11_ACQ_1ERROR_UNKNOWN
    else rank recent SR_DF11_IID_1ERROR_KNOWN SR_DF11_IID_1ERROR_UNKNOWN
  | _ => SR_UNCORRECTABLE

/-- The `switch (corrections)` of an extended squitter. -/
def scoreSquitter (known unknown : Fin 3 → ScoreRank) (corrections : Int) (recent : Bool) : ScoreRank :=
  match corrections with
  | 0 => rank recent (known 0) (unknown 0)
  | 1 => rank recent (known 1) (unknown 1)
  | 2 => rank recent (known 2) (unknown 2)
  | _ => SR_UNCORRECTABLE

def scoreDF17 : Int → Bool → ScoreRank :=
  scoreSquitter ![SR_DF17_KNOWN, SR_DF17_1ERROR_KNOWN, SR_DF17_2ERROR_KNOWN]
    ![SR_DF17_UNKNOWN, SR_DF17_1ERROR_UNKNOWN, SR_DF17_2ERROR_UNKNOWN]

def scoreDF18 : Int → Bool → ScoreRank :=
  scoreSquitter ![SR_DF18_KNOWN, SR_DF18_1ERROR_KNOWN, SR_DF18_2ERROR_KNOWN]
    ![SR_DF18_UNKNOWN, SR_DF18_1ERROR_UNKNOWN, SR_DF18_2ERROR_UNKNOWN]

/-- The `switch (df)` of `scoreModesMessage`, on what `correctMessage` returned. -/
def scoreCorrected (modes : Modes) (filter : IcaoFilter) (c : Corrected) : ScoreRank :=
  let corrected := c.out
  let addressParity := fun syndrome =>
    rank (icaoFilterTest filter syndrome) SR_UNRELIABLE_KNOWN SR_UNRELIABLE_UNKNOWN
  match (downlinkFormat corrected).toNat with
  | 0 | 4 | 5 => addressParity (checkedSyndrome c.short_syndrome corrected shortMsgBits)
  | 16 | 20 | 21 => addressParity (checkedSyndrome c.long_syndrome corrected longMsgBits)
  | 24 | 25 | 26 | 27 | 28 | 29 | 30 | 31 =>
    if modes.enable_df24 then
      addressParity (checkedSyndrome c.long_syndrome corrected longMsgBits)
    else SR_UNCORRECTABLE
  | 11 =>
    let iid := checkedSyndrome c.short_syndrome corrected shortMsgBits &&& 0x7F
    scoreDF11 c.result iid (icaoFilterTest filter (announcedAddress corrected))
  | 17 => scoreDF17 c.result (icaoFilterTest filter (announcedAddress corrected))
  | 18 =>
    -- only previous DF18 activity counts
    scoreDF18 c.result (icaoFilterTest filter (announcedAddress corrected ||| icaoFilterAdsbNt))
  | _ => SR_UNKNOWN_DF

/-- `scoreModesMessage(uncorrected)`; `garbage` is what the local buffer
`corrected` holds before. -/
def scoreModesMessage (modes : Modes) (tables : ErrorTables) (filter : IcaoFilter)
    (garbage uncorrected : Buffer) : ScoreRank :=
  if uncorrected.bytes.take shortMsgBytes = List.replicate shortMsgBytes 0 then SR_ALL_ZEROS
  else scoreCorrected modes filter (correctMessage modes tables uncorrected garbage)

end RbFeeder.ModeS
