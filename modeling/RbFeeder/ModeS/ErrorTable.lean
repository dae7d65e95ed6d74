import RbFeeder.ModeS.Checksum
import RbFeeder.Lib.Search

/-! The error-correction tables of `crc.c`.

`modesChecksumInit` enumerates every error pattern of up to `max_correct` bits
with its syndrome, sorts the entries by syndrome, drops syndromes that occur more
than once, and takes out those that an uncorrectable pattern of up to
`max_detect` bits shares. `modesChecksumDiagnose` looks a syndrome up by binary
search; `modesChecksumFix` flips the bits of the entry it finds.

Tables are lists: `table[n] = …; ++n` appends, and a compaction loop is a filter.
The loops over bit positions are recursions on the bit they start from. -/
namespace RbFeeder.ModeS

/-- `struct errorinfo`: a syndrome, how many bits to flip, and which (-1 for none). -/
structure ErrorInfo where
  syndrome : BitVec 32
  errors : Int
  bit : Vector Int 2
deriving DecidableEq

/-- `NO_ERRORS`, a static variable without initializer. -/
def noErrors : ErrorInfo := ⟨0, 0, #v[0, 0]⟩

/-- The `base_entry` of `prepareErrorTable`. -/
def baseEntry : ErrorInfo := ⟨0, 0, Vector.replicate 2 (-1)⟩

/-- `syndrome_compare`. -/
def syndromeCompare (x y : ErrorInfo) : Int := x.syndrome.toInt - y.syndrome.toInt

/-- `bsearch(&ei, table, …, syndrome_compare)` with `ei.syndrome = syndrome`. -/
def lookup (table : List ErrorInfo) (syndrome : BitVec 32) : Option Nat :=
  Search.bsearch (syndromeCompare {baseEntry with syndrome := syndrome}) table

/-- The entry written for bit `i` on top of `base`. -/
def ErrorInfo.withBit (base : ErrorInfo) (offset error_bit i : Nat) : ErrorInfo :=
  { syndrome := base.syndrome ^^^ singleBitSyndrome (i + offset)
    errors := error_bit + 1
    bit := base.bit.setIfInBounds error_bit i }

def prepareSubtable (offset startbit endbit : Nat) (base : ErrorInfo)
    (error_bit max_errors : Nat) : List ErrorInfo :=
  if error_bit ≥ max_errors then []
  else if startbit < endbit then
    let entry := base.withBit offset error_bit startbit
    entry :: prepareSubtable offset (startbit + 1) endbit entry (error_bit + 1) max_errors ++
      prepareSubtable offset (startbit + 1) endbit base error_bit max_errors
  else []
termination_by endbit - startbit

/-- `qsort(table, …, syndrome_compare)`. -/
def sortTable (table : List ErrorInfo) : List ErrorInfo :=
  table.mergeSort fun x y => syndromeCompare x y ≤ 0

/-- The loop that keeps the entries whose syndrome occurs once. The inner `while`
also reads the entry after the last; whatever it finds there, no entry is left. -/
def dropDuplicates : List ErrorInfo → List ErrorInfo
  | [] => []
  | [e] => [e]
  | e :: e' :: rest =>
    if e'.syndrome = e.syndrome then dropDuplicates (rest.dropWhile (·.syndrome == e.syndrome))
    else e :: dropDuplicates (e' :: rest)
termination_by table => table.length
decreasing_by
  · have := (List.dropWhile_suffix (·.syndrome == e.syndrome) (l := rest)).length_le
    simp only [List.length_cons]
    omega
  · simp

/-- Marks the entry with this syndrome, if there is one that is not marked yet. -/
def flagCollision (table : List ErrorInfo) (syndrome : BitVec 32) : List ErrorInfo × Nat :=
  match lookup table syndrome with
  | none => (table, 0)
  | some i =>
    match table[i]? with
    | none => (table, 0)
    | some collision =>
      if collision.errors ≠ -1 then (table.set i {collision with errors := -1}, 1) else (table, 0)

def flagCollisions (table : List ErrorInfo) (offset startbit endbit : Nat) (base : BitVec 32)
    (error_bit first_error last_error : Nat) : List ErrorInfo × Nat :=
  if error_bit > last_error then (table, 0)
  else if startbit < endbit then
    let syndrome := base ^^^ singleBitSyndrome (startbit + offset)
    let here := if error_bit ≥ first_error then flagCollision table syndrome else (table, 0)
    let deeper := flagCollisions here.1 offset (startbit + 1) endbit syndrome (error_bit + 1)
      first_error last_error
    let later := flagCollisions deeper.1 offset (startbit + 1) endbit base error_bit
      first_error last_error
    (later.1, here.2 + deeper.2 + later.2)
  else (table, 0)
termination_by endbit - startbit

/-- `prepareErrorTable`; `none` is the null table. -/
def prepareErrorTable (bits max_correct max_detect : Nat) : Option (List ErrorInfo) :=
  if max_correct = 0 then none
  else
    let table := prepareSubtable (112 - bits) 0 bits baseEntry 0 max_correct
    let table := dropDuplicates (sortTable table)
    if max_detect > max_correct then
      let flagged := flagCollisions table (112 - bits) 0 bits 0 1 (max_correct + 1) max_detect
      if flagged.2 > 0 then some (flagged.1.filter (·.errors ≠ -1)) else some flagged.1
    else some table

/-- `bitErrorTable_short` and `bitErrorTable_long`. -/
structure ErrorTables where
  short : Option (List ErrorInfo)
  long : Option (List ErrorInfo)

/-- `modesChecksumInit(fixBits)`. -/
def modesChecksumInit (fixBits : Nat) : ErrorTables :=
  match fixBits with
  | 0 => ⟨none, none⟩
  | 1 => ⟨prepareErrorTable shortMsgBits 1 1, prepareErrorTable longMsgBits 1 1⟩
  | _ => ⟨prepareErrorTable shortMsgBits 2 4, prepareErrorTable longMsgBits 2 4⟩

/-- `modesChecksumDiagnose(syndrome, bitlen)`. -/
def modesChecksumDiagnose (tables : ErrorTables) (syndrome : BitVec 32) (bitlen : Nat) :
    Option ErrorInfo :=
  if syndrome = 0 then some noErrors
  else
    match if bitlen = 56 then tables.short else tables.long with
    | none => none
    | some table => (lookup table syndrome).bind (table[·]?)

/-- `modesChecksumFix(msg, info)`. -/
def modesChecksumFix (msg : Buffer) (info : ErrorInfo) : Buffer :=
  (info.bit.toList.take info.errors.toNat).foldl (fun msg bit => msg.flip bit.toNat) msg

end RbFeeder.ModeS
