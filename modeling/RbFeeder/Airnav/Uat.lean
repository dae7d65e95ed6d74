import RbFeeder.Airnav.PacketData
import RbFeeder.Lib.FixedPoint
import RbFeeder.Net.Avr

/-! The UAT thread: `uat_airnav_ext978`, `uat_store978data` and `load_json`.

The thread reads from the TCP connection to dump978, which sends a JSON object on each
line, and takes what one `recv` returns for one report: the buffer is cleared before
each call, so that the bytes end with a NUL unless they fill it. A text that the JSON
decoder accepts is handed to the extraction of fields, whose packet goes to the head of
`flist` if it has something in it. `handed` keeps what was handed over, in order. -/
namespace RbFeeder.Airnav.Uat
open ModeS (Byte)
open Net (isspace hexDigitVal tolower)

/-! ### JSON -/

/-- A JSON value. Numbers with a fraction are idealised as exact. -/
inductive Json
  | string (text : List Byte)
  | real (value : ℚ)
  | integer (value : BitVec 64)
  | object (members : List (String × Json))
  | other

namespace Json

/-- `json_object_get(json, key)`. -/
def objectGet (key : String) : Json → Option Json
  | object members => members.lookup key
  | _ => none

/-- The value of a `JSON_STRING`. -/
def stringValue : Json → Option (List Byte)
  | string text => some text
  | _ => none

/-- The value of a `JSON_REAL`. -/
def realValue : Json → Option ℚ
  | real value => some value
  | _ => none

/-- The value of a `JSON_INTEGER` as an `int`. -/
def integerValue : Json → Option (BitVec 32)
  | integer value => some (value.setWidth 32)
  | _ => none

end Json

/-- Blanks around a JSON text. -/
def isBlank (c : Byte) : Bool := c = 0x20 ∨ c = 0x09 ∨ c = 0x0a ∨ c = 0x0d

/-- A text without the blanks around it. -/
def trim (text : List Byte) : List Byte := (text.dropWhile isBlank).rdropWhile isBlank

/-- A JSON decoder: the value of a text that has no blanks around it, if it is one
complete value. -/
structure Decoder where
  value : List Byte → Option Json
  value_nil : value [] = none

/-- `load_json(text)`. -/
def Decoder.loadJson (J : Decoder) (text : List Byte) : Option Json := J.value (trim text)

/-! ### Extraction -/

/-- The digits at the start of a text, as a number in base 16. -/
def hexNumber (text : List Byte) : Nat :=
  (text.takeWhile fun c => hexDigitVal c ≠ -1).foldl (fun n c => 16 * n + (hexDigitVal c).toNat) 0

/-- `strtol(text, NULL, 16)`. -/
def strtol16 (text : List Byte) : Int :=
  let text := text.dropWhile isspace
  let negative := text.head? = some 0x2d
  let text := if negative ∨ text.head? = some 0x2b then text.tail else text
  let text := if (text.take 2).map tolower = [0x30, 0x78] then text.drop 2 else text
  if negative then max (-hexNumber text) (-2 ^ 63) else min (hexNumber text) (2 ^ 63 - 1)

/-- A value that was found is written, and then there is something to send. -/
def put (k : Entry) (value : Option k.Value) (s : Packet × Bool) : Packet × Bool :=
  match value with
  | none => s
  | some value => (s.1.assign k value, true)

/-- `lat` and `lon` of `position`. -/
def position (root : Json) : Option (ℚ × ℚ) := do
  let item ← root.objectGet "position"
  let lat ← item.objectGet "lat" >>= Json.realValue
  let lon ← item.objectGet "lon" >>= Json.realValue
  return (lat, lon)

/-- A tenth of an integer field, as a `short`. -/
def tenth (root : Json) (key : String) : Option (BitVec 16) :=
  (root.objectGet key >>= Json.integerValue).map fun value => (value.sdiv 10).setWidth 16

/-- The fields of a report written into `acf`, and `send`. -/
def extract (root : Json) (acf : Packet) : Packet × Bool :=
  let address := root.objectGet "address" >>= Json.stringValue
  let trueTrack := root.objectGet "true_track" >>= Json.realValue
  let s := put .modesAddr (address.map fun text => BitVec.ofInt 32 (strtol16 text)) (acf, false)
  let s := put .position (position root) s
  let s := put .gndSpeed (tenth root "ground_speed") s
  let s := put .heading (trueTrack.map fun track => BitVec.ofInt 16 (FixedPoint.truncate (track / 10))) s
  let s := put .vertRate (tenth root "vertical_velocity_geometric") s
  put .vertRate (tenth root "vertical_velocity_barometric") s

/-! ### The thread -/

/-- `buffer_size`. -/
def bufferSize : Nat := 4096

/-- What one `recv` returns, what lies behind `buf` in memory, the memory that `malloc`
returns and the clock. -/
structure Recv where
  bytes : List Byte
  beyond : List Byte
  heap : Packet
  mstime : BitVec 64

/-- The string in `buf`. -/
def Recv.text (r : Recv) : List Byte :=
  (r.bytes ++ if r.bytes.length < bufferSize then [0] else r.beyond).takeWhile (· ≠ 0)

/-- The packet before the extraction. -/
def Recv.packet (r : Recv) : Packet :=
  { netPreparePacketV2 r.heap with timestp := r.mstime, cmd := 5, is978 := 1 }

/-- A report that was handed to the extraction, and the packet it started with. -/
structure Handed where
  text : List Byte
  root : Json
  acf : Packet

/-- The packet of a report, if there is something to send. -/
def Handed.linked (x : Handed) : Option Packet :=
  if (extract x.root x.acf).2 then some (extract x.root x.acf).1 else none

structure State where
  flist : List Packet
  handed : List Handed

/-- What is handed to the extraction after a `recv`. -/
def Decoder.handedBy (J : Decoder) (r : Recv) : Option Handed :=
  (J.loadJson r.text).map fun root => ⟨trim r.text, root, r.packet⟩

/-- `uat_store978data(buf)`. -/
def uatStore978data (J : Decoder) (s : State) (r : Recv) : State :=
  match J.handedBy r with
  | none => s
  | some x => ⟨x.linked.toList ++ s.flist, s.handed ++ [x]⟩

/-- The calls of `recv` that return something. -/
def extThread (J : Decoder) (rs : List Recv) : State := rs.foldl (uatStore978data J) ⟨[], []⟩

/-! ### What is handed over -/

variable (J : Decoder)

theorem foldl_store (rs : List Recv) (s : State) :
    (rs.foldl (uatStore978data J) s).handed = s.handed ++ rs.filterMap J.handedBy ∧
      (rs.foldl (uatStore978data J) s).flist =
        ((rs.filterMap J.handedBy).filterMap Handed.linked).reverse ++ s.flist := by
  induction rs generalizing s with
  | nil => exact ⟨(List.append_nil _).symm, rfl⟩
  | cons r rs ih =>
    obtain ⟨hhanded, hflist⟩ := ih (uatStore978data J s r)
    rw [List.foldl_cons, hhanded, hflist, uatStore978data]
    cases hr : J.handedBy r with
    | none =>
      rw [List.filterMap_cons_none hr]
      exact ⟨rfl, rfl⟩
    | some x =>
      rw [List.filterMap_cons_some hr]
      refine ⟨List.append_assoc _ _ _, ?_⟩
      show _ ++ (x.linked.toList ++ s.flist) = _
      cases hx : x.linked with
      | none => rw [List.filterMap_cons_none hx, Option.toList_none, List.nil_append]
      | some acf =>
        rw [List.filterMap_cons_some hx, List.reverse_cons, List.append_assoc, Option.toList_some]

theorem extThread_handed (rs : List Recv) : (extThread J rs).handed = rs.filterMap J.handedBy :=
  (foldl_store J rs _).1

/-- The packets on `flist` are those of the reports handed over, the last one first. -/
theorem extThread_flist (rs : List Recv) :
    (extThread J rs).flist = ((extThread J rs).handed.filterMap Handed.linked).reverse := by
  rw [extThread_handed]
  exact (foldl_store J rs _).2.trans (List.append_nil _)

end RbFeeder.Airnav.Uat
