import RbFeeder.ModeS.Diagnose

/-! Message correction: `correctMessage` of `mode_s.c`.

The function knows three fully checked downlink formats: DF17 and DF18, 112 bits
whose checksum is zero, and DF11, 56 bits whose checksum is zero but for the low
seven bits, which carry an interrogator code. It looks for a correction in both
lengths and prefers the one of fewer bits. Two bitsets of downlink formats keep
it from computing a checksum that could not lead to a correction. -/
namespace RbFeeder.ModeS

/-- For the numerals of `nfix_crc`. -/
instance instNeZeroThree : NeZero 3 := ⟨by decide⟩

/-- The fields of `Modes` that message correction and scoring read. `nfix_crc`
indexes arrays of `MODES_MAX_BITERRORS + 1` entries. -/
structure Modes where
  nfix_crc : Fin 3
  fix_df : Bool
  enable_df24 : Bool
  mode_ac : Bool
deriving DecidableEq

/-- `modesMessageLenByType(type)`. -/
def modesMessageLenByType (type : BitVec 32) : Nat :=
  if type &&& 0x10 ≠ 0 then longMsgBits else shortMsgBits

/-- The downlink format, `getbits(msg, 1, 5)`. -/
def downlinkFormat (msg : Buffer) : BitVec 32 := getbits msg.bytes 1 5

def isLongPIMessage (msg : Buffer) : Bool :=
  downlinkFormat msg == 17 || downlinkFormat msg == 18

def isShortPIMessage (msg : Buffer) : Bool := downlinkFormat msg == 11

/-- `UNCHECKED_SYNDROME`. -/
def uncheckedSyndrome : BitVec 32 := 0xFFFFFFFF

/-- `df_correctable_short`. -/
def dfCorrectableShort : Vector (BitVec 32) 3 := #v[0x00000800, 0x08008e08, 0x08008e08]
/-- `df_correctable_long`. -/
def dfCorrectableLong : Vector (BitVec 32) 3 := #v[0x00060000, 0x066f0006, 0x6fff066f]

/-- The return value of `correctMessage`, its output buffer and the two syndromes. -/
structure Corrected where
  result : Int
  out : Buffer
  short_syndrome : BitVec 32
  long_syndrome : BitVec 32
deriving DecidableEq

/-- `memcpy(out, in, n); modesChecksumFix(out, ei)`. -/
def copyAndFix (inp out : Buffer) (n : Nat) (ei : ErrorInfo) : Buffer :=
  modesChecksumFix (out.memcpy inp n) ei

def errorsOf (ei : Option ErrorInfo) : Int := (ei.map ErrorInfo.errors).getD 999

/-- The second half of `correctMessage`: from the two diagnoses to the result and
the output buffer. What a failed attempt leaves in the buffer stays there. -/
def tryCorrections (inp out : Buffer) (long_ei short_ei : Option ErrorInfo) : Int × Buffer :=
  let first := if errorsOf long_ei ≤ errorsOf short_ei
    then long_ei.map (copyAndFix inp out longMsgBytes) else none
  match first.filter isLongPIMessage with
  | some fixed => (errorsOf long_ei, fixed)
  | none =>
    let out := first.getD out
    let second := if errorsOf short_ei = 1
      then short_ei.map (copyAndFix inp out shortMsgBytes) else none
    match second.filter isShortPIMessage with
    | some fixed => (errorsOf short_ei, fixed)
    | none =>
      let out := second.getD out
      let third := if errorsOf long_ei > errorsOf short_ei
        then long_ei.map (copyAndFix inp out longMsgBytes) else none
      match third.filter isLongPIMessage with
      | some fixed => (errorsOf long_ei, fixed)
      | none => (-1, (third.getD out).memcpy inp longMsgBytes)

/-- `correctMessage(in, out, …)` with the two bitsets as parameters; the buffer
`out` comes with whatever it held. -/
def correctMessageWith (long_dfs short_dfs : BitVec 32) (tables : ErrorTables) (inp out : Buffer) :
    Corrected :=
  let df_bit := 1#32 <<< (downlinkFormat inp).toNat
  let long := long_dfs &&& df_bit ≠ 0
  let long_syndrome := if long then modesChecksum inp.bytes longMsgBits else uncheckedSyndrome
  if long ∧ isLongPIMessage inp ∧ long_syndrome = 0 then
    ⟨0, out.memcpy inp longMsgBytes, uncheckedSyndrome, long_syndrome⟩
  else
    let long_ei := if long then modesChecksumDiagnose tables long_syndrome longMsgBits else none
    let short := short_dfs &&& df_bit ≠ 0
    let short_syndrome := if short then modesChecksum inp.bytes shortMsgBits else uncheckedSyndrome
    if short ∧ isShortPIMessage inp ∧ short_syndrome &&& 0xFFFF80 = 0 then
      ⟨0, out.memcpy inp shortMsgBytes, short_syndrome, long_syndrome⟩
    else
      let short_ei := if short then modesChecksumDiagnose tables short_syndrome shortMsgBits else none
      let (result, out) := tryCorrections inp out long_ei short_ei
      ⟨result, out, short_syndrome, long_syndrome⟩

/-- `fix_df_bits`. -/
def Modes.fixDfBits (modes : Modes) : Fin 3 := if modes.fix_df then modes.nfix_crc else 0

def correctMessage (modes : Modes) (tables : ErrorTables) (inp out : Buffer) : Corrected :=
  correctMessageWith (dfCorrectableLong.get modes.fixDfBits) (dfCorrectableShort.get modes.fixDfBits)
    tables inp out

end RbFeeder.ModeS
