import Mathlib.Data.List.Basic

/-! Base64: three bytes are four characters, six bits each, and one or two bytes that are
left over are padded.

`Codec` is what is asked of an implementation: what was encoded can be decoded, and the
encoded text is printable. `standard` is one. -/
namespace Base64

/-- `A` to `Z`, `a` to `z`, `0` to `9`, `+` and `/`. -/
def char (n : BitVec 6) : BitVec 8 :=
  if n < 26 then n.setWidth 8 + 0x41
  else if n < 52 then n.setWidth 8 + 0x47
  else if n < 62 then n.setWidth 8 - 4
  else if n = 62 then 0x2b else 0x2f

/-- The value of a character of the alphabet. -/
def value (c : BitVec 8) : BitVec 6 :=
  (if c ≥ 0x61 then c - 0x47 else if c ≥ 0x41 then c - 0x41 else if c ≥ 0x30 then c + 4
    else if c = 0x2b then 62 else 63).setWidth 6

/-- `=`. -/
def padding : BitVec 8 := 0x3d

theorem value_char : ∀ n, value (char n) = n := by
  decide

theorem char_ne_padding : ∀ n, char n ≠ padding := by
  decide

theorem char_printable : ∀ n, 0x2b ≤ char n ∧ char n ≤ 0x7a := by
  decide

/-! ### Groups -/

def encode : List (BitVec 8) → List (BitVec 8)
  | [] => []
  | [a] => [char (a.extractLsb' 2 6), char (a.extractLsb' 0 2 ++ 0#4), padding, padding]
  | [a, b] => [char (a.extractLsb' 2 6), char (a.extractLsb' 0 2 ++ b.extractLsb' 4 4),
      char (b.extractLsb' 0 4 ++ 0#2), padding]
  | a :: b :: c :: rest =>
    char (a.extractLsb' 2 6) :: char (a.extractLsb' 0 2 ++ b.extractLsb' 4 4) ::
      char (b.extractLsb' 0 4 ++ c.extractLsb' 6 2) :: char (c.extractLsb' 0 6) :: encode rest

def decode : List (BitVec 8) → List (BitVec 8)
  | c₀ :: c₁ :: c₂ :: c₃ :: rest =>
    let first := value c₀ ++ (value c₁).extractLsb' 4 2
    let second := (value c₁).extractLsb' 0 4 ++ (value c₂).extractLsb' 2 4
    let third := (value c₂).extractLsb' 0 2 ++ value c₃
    if c₂ = padding then [first]
    else if c₃ = padding then [first, second]
    else first :: second :: third :: decode rest
  | _ => []

theorem join_first (a : BitVec 8) (x : BitVec 4) :
    a.extractLsb' 2 6 ++ (a.extractLsb' 0 2 ++ x).extractLsb' 4 2 = a := by
  revert a x
  decide +kernel

theorem join_second (a : BitVec 2) (b : BitVec 8) (x : BitVec 2) :
    (a ++ b.extractLsb' 4 4).extractLsb' 0 4 ++ (b.extractLsb' 0 4 ++ x).extractLsb' 2 4 = b := by
  revert a b x
  decide +kernel

theorem join_third (b : BitVec 4) (c : BitVec 8) :
    (b ++ c.extractLsb' 6 2).extractLsb' 0 2 ++ c.extractLsb' 0 6 = c := by
  revert b c
  decide +kernel

theorem decode_encode (bytes : List (BitVec 8)) : decode (encode bytes) = bytes := by
  induction bytes using encode.induct with
  | case1 => rfl
  | case2 a =>
    simp only [encode, decode, if_true, value_char]
    rw [join_first]
  | case3 a b =>
    simp only [encode, decode, if_true, if_neg (char_ne_padding _), value_char]
    rw [join_first, join_second]
  | case4 a b c rest ih =>
    simp only [encode, decode, if_neg (char_ne_padding _), value_char, ih]
    rw [join_first, join_second, join_third]

theorem printable (bytes : List (BitVec 8)) : ∀ c ∈ encode bytes, 0x2b ≤ c ∧ c ≤ 0x7a := by
  have hpadding : (0x2b : BitVec 8) ≤ padding ∧ padding ≤ 0x7a := by decide
  induction bytes using encode.induct with
  | case1 => exact fun c hc => absurd hc List.not_mem_nil
  | case2 a =>
    simp only [encode, List.forall_mem_cons]
    exact ⟨char_printable _, char_printable _, hpadding, hpadding, fun c hc => absurd hc List.not_mem_nil⟩
  | case3 a b =>
    simp only [encode, List.forall_mem_cons]
    exact ⟨char_printable _, char_printable _, char_printable _, hpadding, fun c hc => absurd hc List.not_mem_nil⟩
  | case4 a b c rest ih =>
    simp only [encode, List.forall_mem_cons]
    exact ⟨char_printable _, char_printable _, char_printable _, char_printable _, ih⟩

/-- An implementation. -/
structure Codec where
  encode : List (BitVec 8) → List (BitVec 8)
  decode : List (BitVec 8) → List (BitVec 8)
  decode_encode : ∀ bytes, decode (encode bytes) = bytes
  /-- Letters, digits, `+`, `/` and `=`. -/
  printable : ∀ bytes, ∀ c ∈ encode bytes, 0x2b ≤ c ∧ c ≤ 0x7a

def standard : Codec where
  encode := encode
  decode := decode
  decode_encode := decode_encode
  printable := printable

end Base64
