import RbFeeder.Airnav.Resync
import RbFeeder.Lib.Protobuf

/-! Sending to the server: `net_send_packet`, and the packets of flights.

A frame is the start marker, a length of two characters, the type and the serialized
message. The length counts the type and the message but has 16 bits only, and nothing
limits the message: `sendMultipleFlights` writes one message for all flights waiting.
`round_trips_iff` says which packets a receiver delimits as they were sent. -/
namespace RbFeeder.Airnav
open ModeS (Byte byteAt)

/-- `enum messageTypes`. -/
inductive MessageTypes
  | authFeeder
  | serverReplyStatus
  | pingpong
  | flightPacket
  | sysinfo
  | clientStats
  | skRequest
  | ctrCmd
deriving DecidableEq

/-- The first byte of the enumeration in memory. -/
def MessageTypes.code : MessageTypes → Byte
  | authFeeder => 1
  | serverReplyStatus => 2
  | pingpong => 3
  | flightPacket => 4
  | sysinfo => 5
  | clientStats => 6
  | skRequest => 7
  | ctrCmd => 8

/-- `struct prepared_packet`: `len` is an `unsigned`. -/
structure PreparedPacket where
  buf : List Byte
  type : MessageTypes
  length_lt : buf.length < 2 ^ 32

namespace PreparedPacket

def len (packet : PreparedPacket) : BitVec 32 := BitVec.ofNat 32 packet.buf.length

/-- `size`: the upper and the lower character of the length. -/
def sizeHigh (packet : PreparedPacket) : Byte := ((packet.len + 1) >>> 8).setWidth 8

def sizeLow (packet : PreparedPacket) : Byte := ((packet.len + 1) &&& 0x00ff).setWidth 8

/-- What `net_send_packet` writes when every `send` takes everything. -/
def netSendPacket (packet : PreparedPacket) : List Byte :=
  txstart ++ [packet.sizeHigh, packet.sizeLow] ++ [packet.type.code] ++ packet.buf

end PreparedPacket

theorem length_ping_lt (pingId : BitVec 32) : (Protobuf.int32 1 pingId).length < 2 ^ 32 :=
  lt_of_le_of_lt (Protobuf.length_int32_le (by decide) pingId) (by decide)

/-- `create_packet_Ping`. -/
def createPacketPing (pingId : BitVec 32) : PreparedPacket :=
  { buf := Protobuf.int32 1 pingId, type := .pingpong, length_lt := length_ping_lt pingId }

/-! ### The packet of flights -/

/-- The part of `struct p_data` that is sent. A value whose `_set` flag is not 1 is
`none`; a `double` is given by its bits. -/
structure PData where
  modesAddr : BitVec 32
  callsign : Option (List Byte) := none
  altitude : Option (BitVec 32) := none
  altitudeGeo : Option (BitVec 32) := none
  position : Option (BitVec 64 × BitVec 64) := none
  heading : Option (BitVec 16) := none
  gndSpeed : Option (BitVec 16) := none
  ias : Option (BitVec 16) := none
  vertRate : Option (BitVec 16) := none
  squawk : Option (BitVec 16) := none
  airborne : Option Byte := none
  isMlat : Bool := false
  is978 : Bool := false
  navAltitudeFms : Option (BitVec 32) := none
  navAltitudeMcp : Option (BitVec 32) := none
  navQnh : Option (BitVec 32) := none
  windDir : Option (BitVec 16) := none
  windSpeed : Option (BitVec 16) := none
  temperature : Option (BitVec 32) := none
  posNic : Option (BitVec 32) := none
  nicBaro : Option Byte := none
  nacP : Option (BitVec 32) := none
  nacV : Option (BitVec 32) := none
  sil : Option (BitVec 32) := none
  silType : Option (BitVec 32) := none

open Protobuf in
/-- The optional fields of `FlightData`, in the order of their numbers. -/
def optionalData (p : PData) : List Byte :=
  optional (delimited 3) p.callsign
    ++ optional (int32 4) p.altitude
    ++ optional (double 6) (p.position.map Prod.fst)
    ++ optional (double 7) (p.position.map Prod.snd)
    ++ optional (int32 8) (p.heading.map (·.signExtend 32))
    ++ optional (int32 9) (p.gndSpeed.map (·.signExtend 32))
    ++ optional (int32 10) (p.ias.map (·.signExtend 32))
    ++ optional (sint32 11) (p.vertRate.map (·.signExtend 32))
    ++ optional (int32 12) (p.squawk.map (·.signExtend 32))
    ++ optional (bool 13) (p.airborne.map (· ≠ 0))
    ++ optional (bool 14) (if p.isMlat then some true else none)
    ++ optional (bool 15) (if p.is978 then some true else none)
    ++ optional (int32 16) p.navAltitudeFms
    ++ optional (int32 17) p.navAltitudeMcp
    ++ optional (int32 18) p.navQnh
    ++ optional (int32 27) (p.windDir.map (·.signExtend 32))
    ++ optional (int32 28) (p.windSpeed.map (·.signExtend 32))
    ++ optional (sint32 29) p.temperature
    ++ optional (uint 35) (p.posNic.map BitVec.toNat)
    ++ optional (bool 36) (p.nicBaro.map (· ≠ 0))
    ++ optional (uint 37) (p.nacP.map BitVec.toNat)
    ++ optional (uint 38) (p.nacV.map BitVec.toNat)
    ++ optional (uint 39) (p.sil.map BitVec.toNat)
    ++ optional (int32 40) p.silType
    ++ optional (int32 41) p.altitudeGeo

/-- The `FlightData` message of one flight. -/
def flightData (p : PData) : List Byte := Protobuf.int32 1 p.modesAddr ++ optionalData p

/-- The `FlightPacket` message. -/
def flightPacket (flights : List PData) : List Byte :=
  flights.flatMap fun p => Protobuf.delimited 1 (flightData p)

/-- The packet `sendMultipleFlights` sends, for as many flights as there are. -/
def sendMultipleFlights (flights : List PData) (h : (flightPacket flights).length < 2 ^ 32) :
    PreparedPacket :=
  { buf := flightPacket flights, type := .flightPacket, length_lt := h }

/-- A flight takes four bytes at least. -/
theorem length_flightPacket_ge (flights : List PData) :
    4 * flights.length ≤ (flightPacket flights).length := by
  apply Protobuf.length_flatMap_ge
  intro p _
  have hdata : 2 ≤ (flightData p).length := by
    rw [flightData, List.length_append]
    exact Nat.le_add_right_of_le (Protobuf.two_le_length_uint 1 _)
  exact (Nat.add_le_add_left hdata 2).trans (Protobuf.length_delimited_ge 1 _)

/-! ### The round trip -/

namespace PreparedPacket
open Receiver

/-- The length field, as the receiver reads it. -/
def lengthField (packet : PreparedPacket) : BitVec 16 := wireSize packet.sizeHigh packet.sizeLow

/-- A receiver with `size` bytes of buffer finds one frame in what was sent: the type
and the message. Nothing is left over. -/
def RoundTrips (packet : PreparedPacket) (size : Nat) : Prop :=
  (empty.receiveAll size packet.netSendPacket).1 = empty ∧
    (empty.receiveAll size packet.netSendPacket).2.map (·.tmp.drop 4) =
      [packet.type.code :: packet.buf]

theorem toNat_len (packet : PreparedPacket) : packet.len.toNat = packet.buf.length :=
  Nat.mod_eq_of_lt packet.length_lt

theorem lengthField_eq (packet : PreparedPacket) :
    packet.lengthField = (packet.len + 1).setWidth 16 := by
  rw [lengthField, wireSize_eq_append]
  apply BitVec.eq_of_getLsbD_eq
  intro i hi
  simp only [sizeHigh, sizeLow, BitVec.getLsbD_setWidth, BitVec.getLsbD_ushiftRight,
    BitVec.getLsbD_and, BitVec.getLsbD_append]
  interval_cases i <;> simp

/-- Of the length 16 bits are sent. -/
theorem toNat_lengthField (packet : PreparedPacket) :
    packet.lengthField.toNat = (packet.buf.length + 1) % 2 ^ 16 := by
  rw [lengthField_eq, BitVec.toNat_setWidth, BitVec.toNat_add, toNat_len]
  exact Nat.mod_mod_of_dvd _ (by decide)

theorem lengthField_iff (packet : PreparedPacket) :
    packet.lengthField.toNat = packet.buf.length + 1 ↔ packet.buf.length + 1 < 2 ^ 16 := by
  rw [toNat_lengthField]
  exact Nat.mod_eq_iff_lt (by decide)

theorem netSendPacket_eq (packet : PreparedPacket) :
    packet.netSendPacket =
      txstart ++ ([packet.sizeHigh, packet.sizeLow] ++ (packet.type.code :: packet.buf)) := by
  simp only [netSendPacket, List.append_assoc, List.singleton_append]

theorem round_trips {packet : PreparedPacket} {size : Nat} (h2 : 2 ≤ packet.buf.length)
    (hsize : packet.buf.length + 5 ≤ size) (hfits : packet.buf.length + 1 < 2 ^ 16) :
    packet.RoundTrips size := by
  have hbody : (packet.type.code :: packet.buf).length = packet.buf.length + 1 := List.length_cons
  have hlen := (lengthField_iff packet).mpr hfits
  have hroom : (packet.type.code :: packet.buf).length + 4 ≤ size := by omega
  have hframe := receiveAll_frame (hbody.trans hlen.symm) (by omega) hroom
  unfold RoundTrips
  rw [netSendPacket_eq, receiveAll_txstart (by omega), hframe]
  exact ⟨rfl, rfl⟩

/-- With a wrapped length the first packet is cut short, or there is none to start with. -/
theorem not_round_trips {packet : PreparedPacket} {size : Nat}
    (hsize : packet.buf.length + 5 ≤ size) (hlong : 2 ^ 16 ≤ packet.buf.length + 1) :
    ¬ packet.RoundTrips size := by
  intro ⟨_, hcalls⟩
  have hbody : (packet.type.code :: packet.buf).length = packet.buf.length + 1 := List.length_cons
  generalize hb : packet.type.code :: packet.buf = body at hbody hcalls
  have hfield : packet.lengthField.toNat < 2 ^ 16 := packet.lengthField.isLt
  rw [netSendPacket_eq, hb, receiveAll_txstart (by omega)] at hcalls
  by_cases hvalid : 2 < packet.lengthField
  · -- the first packet ends where the length field says
    have hn : 2 < packet.lengthField.toNat := hvalid
    have htake : (body.take packet.lengthField.toNat).length = packet.lengthField.toNat := by
      rw [List.length_take, hbody]
      omega
    have hroom : (body.take packet.lengthField.toNat).length + 4 ≤ size := by omega
    have hfirst := receiveAll_frame htake (by omega) hroom
    rw [← List.take_append_drop packet.lengthField.toNat body, ← List.append_assoc,
      receiveAll_append, hfirst, List.take_append_drop] at hcalls
    have hcut : body.take packet.lengthField.toNat = body := (List.cons.inj hcalls).1
    rw [hcut] at htake
    omega
  · -- the marker is dropped, and less than a frame follows
    have hdropped := receive_short_length (show 4 ≤ size by omega) hvalid
    rw [receiveAll_append, hdropped] at hcalls
    obtain ⟨call, hcall, hdata⟩ : ∃ call ∈ (receiveAll size
        { empty with tempSize := packet.lengthField } body).2, call.tmp.drop 4 = body := by
      have hmem : body ∈ [body] := List.mem_singleton_self body
      rw [← hcalls] at hmem
      exact List.mem_map.mp hmem
    have hwithin := (receiveAll_within size _ body).calls call hcall
    have hlen : call.tmp.length - 4 = body.length := by rw [← hdata, List.length_drop]
    have hempty : ({ empty with tempSize := packet.lengthField } : Receiver).buf.length = 0 := rfl
    omega

theorem length_netSendPacket (packet : PreparedPacket) :
    packet.netSendPacket.length = packet.buf.length + 5 := by
  rw [netSendPacket_eq]
  simp only [txstart, List.length_append, List.length_cons, List.length_nil]
  omega

/-- **A packet is delimited as it was sent exactly if its length fits the length
field.** -/
theorem round_trips_iff (packet : PreparedPacket) (size : Nat) (h2 : 2 ≤ packet.buf.length)
    (hsize : packet.netSendPacket.length ≤ size) :
    (packet.RoundTrips size ↔ packet.buf.length + 1 < 2 ^ 16) ∧
      (packet.lengthField.toNat = packet.buf.length + 1 ↔ packet.buf.length + 1 < 2 ^ 16) := by
  rw [length_netSendPacket] at hsize
  refine ⟨⟨fun hround => ?_, round_trips h2 hsize⟩, lengthField_iff packet⟩
  by_contra hlong
  exact not_round_trips hsize (Nat.not_lt.mp hlong) hround

/-- A ping fits, whatever its number. -/
theorem ping_round_trips (pingId : BitVec 32) {size : Nat}
    (hsize : (createPacketPing pingId).netSendPacket.length ≤ size) : (createPacketPing pingId).RoundTrips size := by
  rw [length_netSendPacket] at hsize
  have hlong : (createPacketPing pingId).buf.length ≤ 11 := Protobuf.length_int32_le (by decide) pingId
  exact round_trips (Protobuf.two_le_length_uint 1 _) hsize (by omega)

end PreparedPacket

/-- From 16384 flights on the packet of flights is lost, whatever is known of them. -/
theorem sendMultipleFlights_lost (flights : List PData) (h : (flightPacket flights).length < 2 ^ 32)
    {size : Nat} (hsize : (sendMultipleFlights flights h).netSendPacket.length ≤ size)
    (hmany : 2 ^ 14 ≤ flights.length) : ¬ (sendMultipleFlights flights h).RoundTrips size := by
  rw [PreparedPacket.length_netSendPacket] at hsize
  refine PreparedPacket.not_round_trips hsize ?_
  have hflights := length_flightPacket_ge flights
  show 2 ^ 16 ≤ (flightPacket flights).length + 1
  omega

theorem length_flightPacket_replicate (n : Nat) (p : PData) :
    (flightPacket (List.replicate n p)).length = n * (Protobuf.delimited 1 (flightData p)).length := by
  induction n with
  | zero => simp [flightPacket]
  | succ n ih =>
    rw [flightPacket] at ih ⊢
    rw [List.replicate_succ, List.flatMap_cons, List.length_append, ih, Nat.succ_mul, Nat.add_comm]

/-- Of an aircraft of which only the address is known seven bytes are sent. -/
theorem length_address_only :
    (Protobuf.delimited 1 (flightData { modesAddr := 0x3c6444 })).length = 7 := by
  have hvalue : ((0x3c6444 : BitVec 32).signExtend 64).toNat = 3957828 := by decide
  have hvarint : (Protobuf.varint 3957828).length = 4 := by
    rw [Protobuf.length_varint_of_le (by decide), Protobuf.length_varint_of_le (by decide),
      Protobuf.length_varint_of_le (by decide), Protobuf.varint_of_lt (by decide)]
    rfl
  have hdata : (flightData { modesAddr := 0x3c6444 }).length = 5 := by
    rw [flightData, List.length_append, Protobuf.int32, Protobuf.uint, List.length_append, hvalue,
      hvarint, Protobuf.key, Protobuf.varint_of_lt (by decide)]
    rfl
  rw [Protobuf.delimited, List.length_append, List.length_append, hdata, Protobuf.key,
    Protobuf.varint_of_lt (by decide), Protobuf.varint_of_lt (by decide)]
  rfl

theorem not_round_trips_of_length {packet : PreparedPacket} {n : Nat} (hlen : packet.buf.length = n)
    (hlong : 2 ^ 16 ≤ n + 1) {size : Nat} (hsize : n + 5 ≤ size) :
    2 ≤ packet.buf.length ∧ ¬ packet.RoundTrips size ∧
      packet.lengthField.toNat ≠ packet.buf.length + 1 := by
  subst hlen
  refine ⟨by omega, PreparedPacket.not_round_trips hsize hlong, ?_⟩
  exact fun hfield => absurd ((PreparedPacket.lengthField_iff packet).mp hfield) (Nat.not_lt.mpr hlong)

/-- 9362 of them are as many as fit. -/
theorem flights_round_trip :
    ∃ h : (flightPacket (List.replicate 9362 { modesAddr := 0x3c6444 })).length < 2 ^ 32,
      (sendMultipleFlights _ h).RoundTrips 65539 ∧ (sendMultipleFlights _ h).lengthField.toNat = 65535 := by
  have hlen := length_flightPacket_replicate 9362 { modesAddr := 0x3c6444 }
  rw [length_address_only] at hlen
  have h : (flightPacket (List.replicate 9362 { modesAddr := 0x3c6444 })).length < 2 ^ 32 :=
    lt_of_eq_of_lt hlen (by decide)
  have hbuf : (sendMultipleFlights _ h).buf.length = 65534 := hlen
  have hsize : (sendMultipleFlights _ h).netSendPacket.length ≤ 65539 := by
    rw [PreparedPacket.length_netSendPacket, hbuf]
  obtain ⟨hround, hfield⟩ := PreparedPacket.round_trips_iff (sendMultipleFlights _ h) 65539 (by rw [hbuf]; decide) hsize
  rw [hbuf] at hround hfield
  exact ⟨h, hround.mpr (by decide), hfield.mpr (by decide)⟩

/-- Ten thousand of them are 70000 bytes. -/
theorem ten_thousand_flights_lost :
    ∃ h : (flightPacket (List.replicate 10000 { modesAddr := 0x3c6444 })).length < 2 ^ 32,
      2 ≤ (sendMultipleFlights _ h).buf.length ∧
      ¬ (sendMultipleFlights _ h).RoundTrips 100000 ∧
      (sendMultipleFlights _ h).lengthField.toNat ≠ (sendMultipleFlights _ h).buf.length + 1 := by
  have hlen := length_flightPacket_replicate 10000 { modesAddr := 0x3c6444 }
  rw [length_address_only] at hlen
  have h : (flightPacket (List.replicate 10000 { modesAddr := 0x3c6444 })).length < 2 ^ 32 :=
    lt_of_eq_of_lt hlen (by decide)
  exact ⟨h, not_round_trips_of_length hlen (by decide) (by decide)⟩

end RbFeeder.Airnav
