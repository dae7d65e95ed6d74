import Mathlib

/-! The protocol buffer wire format, as far as a writer needs it.

A message is written field by field: a key, which is the number of the field and a
wire type, and the value. Integers are varints, seven bits to a byte, the lowest
first; negative 32-bit integers are widened to 64 bits first; strings and messages
are preceded by their length. -/
namespace Protobuf

/-- A base-128 varint. -/
def varint (n : Nat) : List (BitVec 8) :=
  if n < 128 then [BitVec.ofNat 8 n] else BitVec.ofNat 8 (n % 128 + 128) :: varint (n / 128)
termination_by n
decreasing_by omega

/-- The wire types in use. -/
inductive WireType
  | varint
  | fixed64
  | delimited

def WireType.code : WireType → Nat
  | .varint => 0
  | .fixed64 => 1
  | .delimited => 2

/-- What precedes the value of field `number`. -/
def key (number : Nat) (type : WireType) : List (BitVec 8) := varint (8 * number + type.code)

/-! ### Fields -/

/-- Types `uint32`, `uint64` and, for 0 and 1, `bool`. -/
def uint (number : Nat) (value : Nat) : List (BitVec 8) := key number .varint ++ varint value

/-- Type `int32`, and enumerations. -/
def int32 (number : Nat) (value : BitVec 32) : List (BitVec 8) :=
  uint number (value.signExtend 64).toNat

/-- Type `sint32`: the sign goes to the lowest bit. -/
def sint32 (number : Nat) (value : BitVec 32) : List (BitVec 8) :=
  uint number ((value <<< 1) ^^^ value.sshiftRight 31).toNat

/-- Type `bool`. -/
def bool (number : Nat) (value : Bool) : List (BitVec 8) := uint number value.toNat

/-- Type `double`, given by its bits, lowest byte first. -/
def double (number : Nat) (bits : BitVec 64) : List (BitVec 8) :=
  key number .fixed64 ++ (List.range 8).map fun i => bits.extractLsb' (8 * i) 8

/-- Types `string` and `bytes`, and messages. -/
def delimited (number : Nat) (body : List (BitVec 8)) : List (BitVec 8) :=
  key number .delimited ++ varint body.length ++ body

/-- A field that may be absent. -/
def optional {α : Type*} (write : α → List (BitVec 8)) : Option α → List (BitVec 8)
  | none => []
  | some a => write a

/-! ### Lengths -/

theorem varint_of_lt {n : Nat} (h : n < 128) : varint n = [BitVec.ofNat 8 n] := by
  rw [varint, if_pos h]

theorem length_varint_of_le {n : Nat} (h : 128 ≤ n) :
    (varint n).length = (varint (n / 128)).length + 1 := by
  rw [varint, if_neg (Nat.not_lt.mpr h), List.length_cons]

theorem one_le_length_varint (n : Nat) : 1 ≤ (varint n).length := by
  rw [varint]
  split
  · exact Nat.le_refl 1
  · exact Nat.le_add_left 1 _

/-- Seven bits to a byte. -/
theorem length_varint_le (k : Nat) {n : Nat} (h : n < 2 ^ (7 * (k + 1))) :
    (varint n).length ≤ k + 1 := by
  induction k generalizing n with
  | zero =>
    rw [varint_of_lt h]
    exact Nat.le_refl 1
  | succ k ih =>
    by_cases hsmall : n < 128
    · rw [varint_of_lt hsmall]
      exact Nat.le_add_left 1 _
    · have hrest : n / 128 < 2 ^ (7 * (k + 1)) := by
        rw [Nat.div_lt_iff_lt_mul (by decide), ← Nat.pow_add 2 _ 7]
        exact h
      rw [length_varint_of_le (Nat.not_lt.mp hsmall)]
      exact Nat.succ_le_succ (ih hrest)

theorem one_le_length_key (number : Nat) (type : WireType) : 1 ≤ (key number type).length :=
  one_le_length_varint _

theorem two_le_length_uint (number value : Nat) : 2 ≤ (uint number value).length := by
  rw [uint, List.length_append]
  exact Nat.add_le_add (one_le_length_key number .varint) (one_le_length_varint value)

/-- An `int32` field with a number below 16 takes 11 bytes at most. -/
theorem length_int32_le {number : Nat} (h : number < 16) (value : BitVec 32) :
    (int32 number value).length ≤ 11 := by
  have hkey : (key number .varint).length ≤ 1 := length_varint_le 0 (by
    show 8 * number + 0 < 2 ^ 7
    omega)
  have hvalue : (varint (value.signExtend 64).toNat).length ≤ 10 :=
    length_varint_le 9 ((value.signExtend 64).isLt.trans (by decide))
  rw [int32, uint, List.length_append]
  omega

/-- A delimited field is two bytes longer than its body, or more. -/
theorem length_delimited_ge (number : Nat) (body : List (BitVec 8)) :
    2 + body.length ≤ (delimited number body).length := by
  rw [delimited, List.length_append, List.length_append]
  exact Nat.add_le_add_right
    (Nat.add_le_add (one_le_length_key number .delimited) (one_le_length_varint body.length)) _

/-- Repeating a field of at least `k` bytes takes at least `k` bytes each time. -/
theorem length_flatMap_ge {α : Type*} (write : α → List (BitVec 8)) {k : Nat} (l : List α)
    (h : ∀ a ∈ l, k ≤ (write a).length) : k * l.length ≤ (l.flatMap write).length := by
  induction l with
  | nil => exact Nat.zero_le _
  | cons a l ih =>
    have hfirst := h a (List.mem_cons_self ..)
    have hrest := ih fun b hb => h b (List.mem_cons_of_mem a hb)
    rw [List.flatMap_cons, List.length_append, List.length_cons, Nat.mul_succ]
    omega

end Protobuf
