import RbFeeder.ModeS.CommB

/-! The bulk of a message: the second half of `decodeModesMessage`.

`bulkFields` has the fields as they are cut out of the message; `decodeBulk` has what
is made of them. The decoder works through the fields in alphabetical order, so
`UM` is still 0 when `decodeCommB` looks at it. -/
namespace RbFeeder.ModeS
open Tracker (AirGround)

/-- The air/ground state of `CA`, if it says one. -/
def airgroundOfCA (CA : BitVec 32) (d : Decoded) : Decoded :=
  match CA.toNat with
  | 0 | 6 | 7 => { d with airground := .uncertain }
  | 4 => { d with airground := .ground }
  | 5 => { d with airground := .airborne }
  | _ => d

/-- `case` of the `switch (mm->FS)`: the air/ground state, the alert and the ident. -/
def statusOfFS (FS : BitVec 32) (d : Decoded) : Decoded :=
  match FS.toNat with
  | 0 => { d with airground := .uncertain, alert := some false, spi := some false }
  | 1 => { d with airground := .ground, alert := some false, spi := some false }
  | 2 => { d with airground := .uncertain, alert := some true, spi := some false }
  | 3 => { d with airground := .ground, alert := some true, spi := some false }
  | 4 => { d with airground := .uncertain, alert := some true, spi := some true }
  | 5 => { d with airground := .uncertain, alert := some false, spi := some true }
  | _ => d

/-- `if (mm->AC) { … }`. -/
def setAltitude (AC : BitVec 32) (d : Decoded) : Decoded :=
  if AC ≠ 0 then
    match decodeAC13Field AC with
    | none => d
    | some altitude => { d with altitude_baro := some altitude }
  else d

/-- The `switch (mm->msgtype)` after the checksum. -/
def checksumDecoded (mm : ModesMessage) : Decoded :=
  match mm.msgtype with
  | 11 => { source := .modeSChecked, reliable := mm.IID = 0 ∧ mm.correctedbits = 0 }
  | 17 | 18 => { source := .adsb, reliable := mm.correctedbits = 0 }
  | _ => { source := .modeS, addr := mm.crc, reliable := false }

section Bulk
variable (math : MathLibrary) (mm : ModesMessage)

/-- What is decoded before `MB` and `ME`. -/
def decodeHead : Decoded :=
  let fields := bulkFields mm
  let d := checksumDecoded mm
  let d := if mm.msgtype ∈ [11, 17, 18] then { d with addr := fields.AA } else d
  let d := if mm.msgtype ∈ [0, 4, 16, 20] then setAltitude fields.AC d else d
  let d := if mm.msgtype ∈ [11, 17] then airgroundOfCA fields.CA d else d
  let d := if mm.msgtype ∈ [4, 5, 20, 21] then statusOfFS fields.FS d else d
  if mm.msgtype ∈ [5, 21] then setSquawk fields.ID d else d

/-- `DR` or `correctedbits` is not 0, as `decodeCommB` checks; `UM` is not set yet. -/
def commBBlocked : Bool := (bulkFields mm).DR ≠ 0 ∨ mm.correctedbits > 0

/-- `decodeModesMessage(mm, in)` after the checksum; `mlat` says that the message is
remote and has the timestamp of a synthetic one. -/
def decodeBulk (mlat : Bool) : Decoded :=
  let fields := bulkFields mm
  let d := decodeHead mm
  let d := if mm.msgtype ∈ [20, 21] then
      decodeCommB (comm_b_decoders fields.MB math mm.msgtype fields.AC) (commBBlocked mm) d
    else d
  let d := if mm.msgtype ∈ [17, 18] then decodeExtendedSquitter fields.ME math mm.msgtype fields.CF d else d
  let d := if mm.msgtype ∈ [0, 16] then
      { d with airground := if fields.VS ≠ 0 then .ground else .uncertain }
    else d
  if mlat then { d with source := .mlat } else d

end Bulk

end RbFeeder.ModeS
