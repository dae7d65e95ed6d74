import RbFeeder.Lib.FixedPoint

/-! ASTERIX category 21 packets: `airnav_asterix.c`.

A packet has a table of data items and the FSPEC, a bitmap of the items in use, both by
field reference number (FRN). The `cat021_set` functions look up the FRN of their item
in the specification table, mark it in the FSPEC and store its data; `Call` is a call of
one of them. Arrays are functions of the index, of which the first
`MAX_CAT21_FSPEC_BYTES` and `MAX_CAT21_ITEMS` are in memory. -/
namespace RbFeeder.Asterix
open FixedPoint

abbrev Byte := BitVec 8

def maxCat21Items : Nat := 100
def maxCat21FspecBytes : Nat := 10

/-- The items that are set: `I021/008` and so on. -/
inductive ItemId
  | i008
  | i010
  | i015
  | i016
  | i020
  | i070
  | i071
  | i072
  | i073
  | i074
  | i075
  | i076
  | i077
  | i080
  | i130
  | i131
  | i132
  | i140
  | i145
  | i146
  | i148
  | i150
  | i151
  | i152
  | i155
  | i157
  | i160
  | i161
  | i165
  | i170
  | i200
  | i210
  | i230
  | i400
deriving DecidableEq

/-- The length of an item, as the comment of its function states it. -/
def ItemId.length : ItemId → Nat
  | i008 | i015 | i016 | i020 | i132 | i200 | i210 | i400 => 1
  | i010 | i070 | i140 | i145 | i146 | i148 | i150 | i151 | i152 | i155 | i157 | i161 | i165 | i230 => 2
  | i071 | i072 | i073 | i075 | i077 | i080 => 3
  | i074 | i076 | i160 => 4
  | i130 | i170 => 6
  | i131 => 8

/-- An entry of the specification table `cat21items`; `none` is any other id. -/
structure SpecItem where
  id : Option ItemId
  size : Nat

/-- `struct fspecByteDef`. -/
structure FspecByte where
  fspec_byte : Byte
  inuse : Bool

/-- `struct asterixItemDef`, in a packet. -/
structure Item where
  in_use : Bool
  size : Nat
  data : List Byte
deriving DecidableEq

/-- `struct asterixPacketDef_cat21`. -/
structure Packet where
  fspec : Nat → FspecByte
  fields : Nat → Item

/-- `getItemIdx`. -/
def getItemIdx (toc : Nat → SpecItem) (id : ItemId) : Option Nat :=
  (List.range maxCat21Items).find? fun i => (toc i).id = some id

/-- `prepareAsterixPacket_cat21`. -/
def preparePacket : Packet where
  fspec _ := ⟨0, false⟩
  fields _ := ⟨false, 0, []⟩

/-- `asterix_set_bit`. -/
def setBit (number : Byte) (position : Nat) : Byte := number ||| ((1 : Byte) <<< position)

/-- `asterix_clear_bit`. -/
def clearBit (number : Byte) (position : Nat) : Byte := number &&& ~~~((1 : Byte) <<< position)

/-- `asterix_set_byte_inuse`. -/
def setByteInuse (packet : Packet) (byte : Nat) : Packet :=
  { packet with
    fspec := fun i =>
      if i < byte then ⟨setBit (packet.fspec i).fspec_byte 0, true⟩
      else if i = byte then ⟨(packet.fspec i).fspec_byte, true⟩
      else packet.fspec i }

/-- `map2bit`. -/
def map2bit : Nat → Nat
  | 1 => 7
  | 2 => 6
  | 3 => 5
  | 4 => 4
  | 5 => 3
  | 6 => 2
  | 7 => 1
  | _ => 0

/-- `set_frn_inuse`. -/
def setFrnInuse (packet : Packet) (frn : Nat) : Packet :=
  let b_number := frn / 7 + if frn % 7 > 0 then 1 else 0
  let marked := setBit (packet.fspec (b_number - 1)).fspec_byte (map2bit (frn - (b_number - 1) * 7))
  setByteInuse
    { packet with
      fspec := Function.update packet.fspec (b_number - 1) ⟨marked, (packet.fspec (b_number - 1)).inuse⟩ }
    (b_number - 1)

/-- What the `cat021_set` functions do when they do not fail. -/
def setItem (toc : Nat → SpecItem) (packet : Packet) (idx : Nat) (data : List Byte) : Packet :=
  let packet := setFrnInuse packet idx
  { packet with fields := Function.update packet.fields idx ⟨true, (toc idx).size, data⟩ }

/-! ### Data of items -/

/-- The bytes of a number, the most significant one first. -/
def bytes16 (n : BitVec 16) : List Byte := [(n >>> 8).setWidth 8, n.setWidth 8]

def bytes24 (n : BitVec 32) : List Byte := [(n >>> 16).setWidth 8, (n >>> 8).setWidth 8, n.setWidth 8]

def bytes32 (n : BitVec 32) : List Byte := (n >>> 24).setWidth 8 :: bytes24 n

/-- The conversion of a floating point number to an integer, of which a narrower type
keeps the low bits. -/
def toInt (width : Nat) (q : ℚ) : BitVec width := BitVec.ofInt width (truncate q)

/-- The first byte of an item, changed. -/
def mapFirst (f : Byte → Byte) : List Byte → List Byte
  | [] => []
  | byte :: rest => f byte :: rest

/-- One bit of a byte, set or cleared. -/
def writeBit (position : Nat) (on : Bool) (byte : Byte) : Byte :=
  if on then setBit byte position else clearBit byte position

/-- Bits that are set if the condition beside them holds. -/
def setBits (flags : List (Bool × Nat)) (byte : Byte) : Byte :=
  flags.foldl (fun byte flag => if flag.1 then setBit byte flag.2 else byte) byte

/-- The low bits of `number`, copied to those from `position` on. -/
def copyBits (width : Nat) (number : Byte) (position : Nat) : List (Bool × Nat) :=
  (List.range width).map fun i => (number.getLsbD i, position + i)

/-- The bits of a number, the most significant one first, eight to a byte. -/
def packBits : List Bool → List Byte
  | b7 :: b6 :: b5 :: b4 :: b3 :: b2 :: b1 :: b0 :: rest =>
    setBits [(b7, 7), (b6, 6), (b5, 5), (b4, 4), (b3, 3), (b2, 2), (b1, 1), (b0, 0)] 0 :: packBits rest
  | _ => []

/-- A time with a full-second indication. -/
def precisionTime (fsi : Byte) (time : BitVec 32) : List Byte :=
  mapFirst (fun byte => writeBit 7 (fsi.getLsbD 1) (writeBit 6 (fsi.getLsbD 0) byte))
    (bytes32 (toInt 32 (time.toNat / (9313 / 10000))))

/-- A speed or rate with a range exceeded indicator. -/
def exceedable (re : Bool) (value : BitVec 16) : List Byte := mapFirst (writeBit 7 re) (bytes16 value)

/-- An angle in units of `180 / 2 ^ bits` degrees. -/
def coordinate (bits : Nat) (degrees : ℚ) : BitVec 32 := toInt 32 (1 / 2 + degrees / (180 / 2 ^ bits))

/-! ### Calls -/

/-- A call of a `cat021_set` function. A `char`, a `short` and an `int` are numbers of
their width, a `float` or `double` is an exact rational. -/
inductive Call
  | setAircraftOperStatus (ra tc ts arv cdtia ntcas sa : Byte)
  | setDataSourceSACSIC (SAC SIC : BitVec 32)
  | setServiceId (SID : BitVec 32)
  | setServiveManagement (sid : Byte)
  | setEmitterCat (cat : Byte)
  | setMode3A (mode3a0 mode3a1 : Byte)
  | setTimeAplicabilityPosition (time : BitVec 32)
  | setTimeAplicabilityVelocity (time : BitVec 32)
  | setTimeMsgRcptPos (time : BitVec 32)
  | setTimeMsgRcptPosPrecision (fsi : Byte) (time : BitVec 32)
  | setTimeMsgRcptVel (time : BitVec 32)
  | setTimeMsgRcptVelPrecision (fsi : Byte) (time : BitVec 32)
  | setTimeASTERIXReport (time : BitVec 32)
  | setTargetAddress (address0 address1 address2 : Byte)
  | setPosWGS84 (lat lon : ℚ)
  | setPosWGS84Precision (lat lon : ℚ)
  | setMessageAmplitude (msg_amp : Byte)
  | setGeometricHeight (height : BitVec 16)
  | setFlightLevel (flevel : BitVec 32)
  | setSelectedAltitude (sas source : Byte) (level : BitVec 16)
  | setFinalStateSelectedAltitude (mv ah am : Byte) (altitude : BitVec 16)
  | setAirSpeed (type : BitVec 32) (speed : BitVec 16)
  | setTrueAirSpeed (re : BitVec 32) (speed : BitVec 16)
  | setMagneticHeading (heading : ℚ)
  | setBaroVertRate (re : BitVec 32) (rate : BitVec 16)
  | setGeoVertRate (re : BitVec 32) (rate : BitVec 16)
  | setAirborneVector (re : Byte) (gspeed track_angle : BitVec 16)
  | setTrackNumber (track : BitVec 16)
  | setTrackAngleRate (rate : ℚ)
  | setTargetId (tid : Fin 8 → Byte)
  | setTargetStatus (icf lnav me ps ss : Byte)
  | setMOPSVersion (vns vn ltt : Byte)
  | setRollAngle (angle : ℚ)
  | setReceiverID (rec_id : Byte)

namespace Call

/-- The item that a function sets. -/
def item : Call → ItemId
  | setAircraftOperStatus .. => .i008
  | setDataSourceSACSIC .. => .i010
  | setServiceId .. => .i015
  | setServiveManagement .. => .i016
  | setEmitterCat .. => .i020
  | setMode3A .. => .i070
  | setTimeAplicabilityPosition .. => .i071
  | setTimeAplicabilityVelocity .. => .i072
  | setTimeMsgRcptPos .. => .i073
  | setTimeMsgRcptPosPrecision .. => .i074
  | setTimeMsgRcptVel .. => .i075
  | setTimeMsgRcptVelPrecision .. => .i076
  | setTimeASTERIXReport .. => .i077
  | setTargetAddress .. => .i080
  | setPosWGS84 .. => .i130
  | setPosWGS84Precision .. => .i131
  | setMessageAmplitude .. => .i132
  | setGeometricHeight .. => .i140
  | setFlightLevel .. => .i145
  | setSelectedAltitude .. => .i146
  | setFinalStateSelectedAltitude .. => .i148
  | setAirSpeed .. => .i150
  | setTrueAirSpeed .. => .i151
  | setMagneticHeading .. => .i152
  | setBaroVertRate .. => .i155
  | setGeoVertRate .. => .i157
  | setAirborneVector .. => .i160
  | setTrackNumber .. => .i161
  | setTrackAngleRate .. => .i165
  | setTargetId .. => .i170
  | setTargetStatus .. => .i200
  | setMOPSVersion .. => .i210
  | setRollAngle .. => .i230
  | setReceiverID .. => .i400

/-- Three of the functions refuse arguments. -/
def accepted : Call → Bool
  | setDataSourceSACSIC SAC SIC => 0 < SAC ∧ 0 < SIC
  | setServiceId SID => 0 < SID
  | setFlightLevel flevel => 0 < flevel.toInt
  | _ => true

/-- The data of the item. -/
def data : Call → List Byte
  | setAircraftOperStatus ra tc ts arv cdtia ntcas sa =>
    [setBits ([(ra == 1, 7)] ++ copyBits 2 tc 5 ++
      [(ts == 1, 4), (arv == 1, 3), (cdtia == 1, 2), (ntcas == 1, 1), (sa == 1, 0)]) 0]
  | setDataSourceSACSIC SAC SIC => [SAC.setWidth 8, SIC.setWidth 8]
  | setServiceId SID => [SID.setWidth 8]
  | setServiveManagement sid => [sid]
  | setEmitterCat cat => [cat]
  | setMode3A mode3a0 mode3a1 => [mode3a0, mode3a1]
  | setTimeAplicabilityPosition time => bytes24 (time * 128)
  | setTimeAplicabilityVelocity time => bytes24 (time * 128)
  | setTimeMsgRcptPos time => bytes24 (time * 128)
  | setTimeMsgRcptPosPrecision fsi time => precisionTime fsi time
  | setTimeMsgRcptVel time => bytes24 (time * 128)
  | setTimeMsgRcptVelPrecision fsi time => precisionTime fsi time
  | setTimeASTERIXReport time => bytes24 (time * 128)
  | setTargetAddress address0 address1 address2 => [address0, address1, address2]
  | setPosWGS84 lat lon => bytes24 (coordinate 23 lat) ++ bytes24 (coordinate 23 lon)
  | setPosWGS84Precision lat lon => bytes32 (coordinate 30 lat) ++ bytes32 (coordinate 30 lon)
  | setMessageAmplitude msg_amp => [msg_amp]
  | setGeometricHeight height => bytes16 (toInt 16 (height.toInt / (625 / 100)))
  | setFlightLevel flevel => bytes16 (toInt 16 (flevel.toInt / (1 / 4)))
  | setSelectedAltitude sas source level =>
    mapFirst (setBits ([(sas == 1, 7)] ++ copyBits 2 source 5)) (bytes16 (toInt 16 (level.toInt / 25)))
  | setFinalStateSelectedAltitude mv ah am altitude =>
    mapFirst (setBits [(mv == 1, 7), (ah == 1, 6), (am == 1, 5)])
      (bytes16 (toInt 16 (altitude.toInt / 25)))
  | setAirSpeed type speed => exceedable (type = 1) speed
  | setTrueAirSpeed re speed => exceedable (re = 1) speed
  | setMagneticHeading heading => bytes16 (toInt 16 (heading * 65536 / 360))
  | setBaroVertRate re rate => exceedable (re = 1) rate
  | setGeoVertRate re rate => exceedable (re = 1) rate
  | setAirborneVector re gspeed track_angle =>
    exceedable (re = 1) (toInt 16 (gspeed.toInt / (22 / 100))) ++
      bytes16 (BitVec.ofInt 16 ((track_angle.toInt * 65536).tdiv 360))
  | setTrackNumber track => bytes16 track
  | setTrackAngleRate rate => bytes16 (toInt 16 (rate * 32))
  | setTargetId tid =>
    packBits ((List.finRange 8).flatMap fun i => [5, 4, 3, 2, 1, 0].map (tid i).getLsbD)
  | setTargetStatus icf lnav me ps ss =>
    [setBits ([(icf == 1, 7), (lnav == 1, 6), (me == 1, 5)] ++ copyBits 3 ps 2 ++ copyBits 2 ss 0) 0]
  | setMOPSVersion vns vn ltt => [setBits ([(vns == 1, 6)] ++ copyBits 3 vn 3 ++ copyBits 3 ltt 0) 0]
  | setRollAngle angle => bytes16 (toInt 16 (angle * 100))
  | setReceiverID rec_id => [rec_id]

/-- The FRN that a call sets, if it succeeds. -/
def frn (toc : Nat → SpecItem) (c : Call) : Option Nat := if c.accepted then getItemIdx toc c.item else none

/-- The return value and the packet after a call. -/
def run (toc : Nat → SpecItem) (packet : Packet) (c : Call) : Int × Packet :=
  match c.frn toc with
  | some idx => (1, setItem toc packet idx c.data)
  | none => (-1, packet)

/-- Each function writes as many bytes as its comment states. -/
theorem length_data (c : Call) : c.data.length = c.item.length := by
  cases c <;> rfl

end Call

/-- The packet after some calls, from `prepareAsterixPacket_cat21` on. -/
def build (toc : Nat → SpecItem) (calls : List Call) : Packet :=
  calls.foldl (fun packet c => (c.run toc packet).2) preparePacket

/-! ### Sending -/

/-- The FRNs of the items in use. -/
def Packet.inUse (packet : Packet) : List Nat :=
  (List.range maxCat21Items).filter fun i => (packet.fields i).in_use

/-- The FSPEC bytes in use. -/
def Packet.fspecBytes (packet : Packet) : List Byte :=
  ((List.range maxCat21FspecBytes).filter fun i => (packet.fspec i).inuse).map fun i =>
    (packet.fspec i).fspec_byte

/-- `datalen` of `asterix_SendCat21Packet`. -/
def Packet.datalen (packet : Packet) : Nat :=
  3 + ((packet.inUse.map fun i => (packet.fields i).size).sum + packet.fspecBytes.length)

/-- The datagram of `asterix_SendCat21Packet`. -/
def Packet.datagram (packet : Packet) : List Byte :=
  [21, 0, BitVec.ofNat 8 packet.datalen] ++ packet.fspecBytes ++
    packet.inUse.flatMap fun i => (List.range (packet.fields i).size).map fun x =>
      (packet.fields i).data.getD x 0

end RbFeeder.Asterix
