import RbFeeder.ModeS.Bits
import RbFeeder.Track.Aircraft

/-! Identity, altitude and movement codes: the `decode…Field` functions of `mode_s.c`
and the Gillham code of `mode_ac.c`. The digits of an identity are octal
(`octal_decodeID13Field`). -/
namespace RbFeeder.ModeS
open Track (AltitudeUnit)

/-! ### Identity -/

/-- `if (field & mask) { code |= bit; }`. -/
def setIf (field mask bit code : BitVec 32) : BitVec 32 := if field &&& mask ≠ 0 then code ||| bit else code

/-- Where the bits of an identity field go. -/
def gillhamBits : List (BitVec 32 × BitVec 32) :=
  [ (0x1000, 0x0010), (0x0800, 0x1000), (0x0400, 0x0020), (0x0200, 0x2000), (0x0100, 0x0040),
    (0x0080, 0x4000), (0x0020, 0x0100), (0x0010, 0x0001), (0x0008, 0x0200), (0x0004, 0x0002),
    (0x0002, 0x0400), (0x0001, 0x0004) ]

/-- `decodeID13Field(ID13Field)`: four octal digits as a hex number. -/
def decodeID13Field (ID13Field : BitVec 32) : BitVec 32 :=
  gillhamBits.foldl (fun hexGillham bits => setIf ID13Field bits.1 bits.2 hexGillham) 0

/-- Every hex digit is at most 7. -/
def Octal (code : BitVec 32) : Prop := ∀ k < 8, (code >>> (4 * k) &&& 0xF).toNat ≤ 7

theorem octal_of_mask {code : BitVec 32} (h : code &&& 0x88888888 = 0) : Octal code := by
  intro k hk
  have hbit : (code >>> (4 * k)).getLsbD 3 = false := by
    have hall := congrArg (fun x => x.getLsbD (4 * k + 3)) h
    have hmask : ∀ j < 8, (0x88888888 : BitVec 32).getLsbD (4 * j + 3) = true := by decide
    rw [BitVec.getLsbD_and, hmask k hk, Bool.and_true] at hall
    rw [BitVec.getLsbD_ushiftRight]
    exact hall.trans BitVec.getLsbD_zero
  have hsplit : ∀ x : BitVec 4, x.getLsbD 3 = false → x.toNat ≤ 7 := by decide
  have hnarrow : (code >>> (4 * k) &&& 0xF).toNat = ((code >>> (4 * k)).setWidth 4).toNat := by
    rw [BitVec.toNat_and, BitVec.toNat_setWidth]
    exact Nat.and_two_pow_sub_one_eq_mod _ 4
  rw [hnarrow]
  refine hsplit _ ?_
  rw [BitVec.getLsbD_setWidth, hbit, Bool.and_false]

/-- No digit of an identity has its highest bit set. -/
theorem setIf_mask {code bit : BitVec 32} (field mask : BitVec 32) (hcode : code &&& 0x88888888 = 0)
    (hbit : bit &&& 0x88888888 = 0) : setIf field mask bit code &&& 0x88888888 = 0 := by
  unfold setIf
  split
  · rw [BitVec.and_or_distrib_right, hcode, hbit, BitVec.or_self]
  · exact hcode

theorem octal_decodeID13Field (ID13Field : BitVec 32) : Octal (decodeID13Field ID13Field) := by
  refine octal_of_mask ?_
  refine List.foldlRecOn gillhamBits _ (motive := fun code => code &&& 0x88888888 = 0)
    (BitVec.zero_and) ?_
  intro code hcode bits hbits
  refine setIf_mask ID13Field bits.1 hcode ?_
  have hall : gillhamBits.all (fun bits => bits.2 &&& 0x88888888 == 0) = true := by decide
  exact beq_iff_eq.mp (List.all_eq_true.mp hall bits hbits)

/-! ### Mode C -/

/-- `modeAToIndex(modeA)`. -/
def modeAToIndex (modeA : BitVec 32) : BitVec 32 :=
  (modeA &&& 0x0007) ||| ((modeA &&& 0x0070) >>> 1) ||| ((modeA &&& 0x0700) >>> 2) |||
    ((modeA &&& 0x7000) >>> 3)

/-- `indexToModeA(index)`. -/
def indexToModeA (index : BitVec 32) : BitVec 32 :=
  (index &&& 0o0007) ||| ((index &&& 0o0070) <<< 1) ||| ((index &&& 0o0700) <<< 2) |||
    ((index &&& 0o7000) <<< 3)

/-- `INVALID_ALTITUDE`. -/
def invalidAltitude : Int := -9999

/-- `if (ModeA & mask) { code ^= bits; }`. -/
def flipIf (ModeA mask bits code : BitVec 32) : BitVec 32 := if ModeA &&& mask ≠ 0 then code ^^^ bits else code

/-- `internalModeAToModeC(ModeA)`. -/
def internalModeAToModeC (ModeA : BitVec 32) : Int :=
  if ModeA &&& 0xFFFF8889 ≠ 0 ∨ ModeA &&& 0x000000F0 = 0 then invalidAltitude
  else
    let OneHundreds := flipIf ModeA 0x0040 0x001 (flipIf ModeA 0x0020 0x003 (flipIf ModeA 0x0010 0x007 0))
    let OneHundreds := if OneHundreds &&& 5 = 5 then OneHundreds ^^^ 2 else OneHundreds
    if OneHundreds > 5 then invalidAltitude
    else
      let FiveHundreds := flipIf ModeA 0x0004 0x07F (flipIf ModeA 0x0002 0x0FF 0)
      let FiveHundreds := flipIf ModeA 0x4000 0x00F
        (flipIf ModeA 0x2000 0x01F (flipIf ModeA 0x1000 0x03F FiveHundreds))
      let FiveHundreds := flipIf ModeA 0x0400 0x001
        (flipIf ModeA 0x0200 0x003 (flipIf ModeA 0x0100 0x007 FiveHundreds))
      let OneHundreds := if FiveHundreds &&& 1 ≠ 0 then 6 - OneHundreds else OneHundreds
      FiveHundreds.toNat * 5 + OneHundreds.toNat - 13

/-- `modeAToModeC(modeA)`, which looks the result up in the table that `modeACInit` fills. -/
def modeAToModeC (modeA : BitVec 32) : Int :=
  let i := modeAToIndex modeA
  if i ≥ 4096 then invalidAltitude else internalModeAToModeC (indexToModeA i)

/-! ### Altitude -/

/-- An altitude in feet, unless it is `INVALID_ALTITUDE`. -/
def validFeet (altitude : Int) : Option (Int × AltitudeUnit) :=
  if altitude = invalidAltitude then none else some (altitude, .feet)

/-- The altitude of a Gillham code, in feet. -/
def gillhamAltitude (ID13Field : BitVec 32) : Int :=
  let n := modeAToModeC (decodeID13Field ID13Field)
  if n < -12 then invalidAltitude else 100 * n

/-- `decodeAC13Field(AC13Field, unit)`; `none` is `INVALID_ALTITUDE`. -/
def decodeAC13Field (AC13Field : BitVec 32) : Option (Int × AltitudeUnit) :=
  if AC13Field &&& 0x0040 = 0 then
    if AC13Field &&& 0x0010 ≠ 0 then
      let n := ((AC13Field &&& 0x1F80) >>> 2) ||| ((AC13Field &&& 0x0020) >>> 1) ||| (AC13Field &&& 0x000F)
      validFeet (n.toNat * 25 - 1000)
    else validFeet (gillhamAltitude AC13Field)
  else none

/-- `decodeAC12Field(AC12Field, unit)`; `none` is `INVALID_ALTITUDE`. -/
def decodeAC12Field (AC12Field : BitVec 32) : Option (Int × AltitudeUnit) :=
  if AC12Field &&& 0x10 ≠ 0 then
    let n := ((AC12Field &&& 0x0FE0) >>> 1) ||| (AC12Field &&& 0x000F)
    validFeet (n.toNat * 25 - 1000)
  else
    -- a 13 bit code with M = 0
    validFeet (gillhamAltitude (((AC12Field &&& 0x0FC0) <<< 1) ||| (AC12Field &&& 0x003F)))

/-! ### Movement -/

/-- `decodeMovementFieldV2(movement)`. -/
def decodeMovementFieldV2 (movement : Nat) : ℚ :=
  if movement ≥ 125 then 0
  else if movement = 124 then 180
  else if movement ≥ 109 then 100 + (movement - 109 + 1 / 2) * 5
  else if movement ≥ 94 then 70 + (movement - 94 + 1 / 2) * 2
  else if movement ≥ 39 then 15 + (movement - 39 + 1 / 2) * 1
  else if movement ≥ 13 then 2 + (movement - 13 + 1 / 2) * (1 / 2)
  else if movement ≥ 9 then 1 + (movement - 9 + 1 / 2) * (1 / 4)
  else if movement ≥ 3 then 125 / 1000 + (movement - 3 + 1 / 2) * (875 / 1000) / 6
  else if movement ≥ 2 then 125 / 1000 / 2
  else 0

/-- `decodeMovementFieldV0(movement)`. -/
def decodeMovementFieldV0 (movement : Nat) : ℚ :=
  if movement ≥ 125 then 0
  else if movement = 124 then 180
  else if movement ≥ 109 then 100 + (movement - 109 + 1 / 2) * 5
  else if movement ≥ 94 then 70 + (movement - 94 + 1 / 2) * 2
  else if movement ≥ 39 then 15 + (movement - 39 + 1 / 2) * 1
  else if movement ≥ 13 then 2 + (movement - 13 + 1 / 2) * (1 / 2)
  else if movement ≥ 9 then 1 + (movement - 9 + 1 / 2) * (1 / 4)
  else if movement ≥ 2 then 125 / 1000 + (movement - 2 + 1 / 2) * (125 / 1000)
  else 0

/-! ### Callsigns -/

/-- `ais_charset[i]`, for six bits: from `@` and then from the blank on. -/
def ais_charset (i : BitVec 32) : Byte := if i < 32 then 0x40 + i.setWidth 8 else i.setWidth 8

/-- A letter, a digit or a blank. -/
def CallsignChar (c : Byte) : Prop := 0x41 ≤ c ∧ c ≤ 0x5A ∨ 0x30 ≤ c ∧ c ≤ 0x39 ∨ c = 0x20

instance (c : Byte) : Decidable (CallsignChar c) := inferInstanceAs (Decidable (_ ∨ _ ∨ _))

/-- The eight characters from bit 9 on. -/
def callsignAt (data : List Byte) : List Byte :=
  (List.range 8).map fun k => ais_charset (getbits data (9 + 6 * k) (14 + 6 * k))

end RbFeeder.ModeS
