import Mathlib.Data.Nat.Notation
import Mathlib.Tactic.Common

/-! Decimal numbers in characters of eight bits, as `printf` writes them and `scanf` reads them.

What is written of a number is read as that number, whatever is behind it that is no
digit (`scan_bytes`). -/
namespace Decimal

abbrev Char8 := BitVec 8

/-- `%u`. -/
def bytes (n : Nat) : List Char8 := (Nat.toDigits 10 n).map fun c => BitVec.ofNat 8 c.toNat

/-- `isdigit(c)`. -/
def isDigit (c : Char8) : Bool := 48 ≤ c.toNat ∧ c.toNat ≤ 57

/-- `isspace(c)`. -/
def isSpace (c : Char8) : Bool := c.toNat = 32 ∨ 9 ≤ c.toNat ∧ c.toNat ≤ 13

/-- The number that digits stand for. -/
def value (digits : List Char8) : Nat := digits.foldl (fun n c => 10 * n + (c.toNat - 48)) 0

/-- A sign, and what is behind it. -/
def sign : List Char8 → Int × List Char8
  | 0x2d :: s => (-1, s)
  | 0x2b :: s => (1, s)
  | s => (1, s)

/-- `%d`: the number, and what is behind it. A number that is too large is not cut off. -/
def scan (s : List Char8) : Option (Int × List Char8) :=
  let (factor, s) := sign (s.dropWhile isSpace)
  match s.takeWhile isDigit with
  | [] => none
  | digits => some (factor * value digits, s.dropWhile isDigit)

theorem toNat_digit {c : Char} (h : c.isDigit) :
    (BitVec.ofNat 8 c.toNat).toNat = c.toNat ∧ 48 ≤ c.toNat ∧ c.toNat ≤ 57 := by
  obtain ⟨hlow, hhigh⟩ := Char.isDigit_iff_toNat.mp h
  refine ⟨?_, hlow, hhigh⟩
  rw [BitVec.toNat_ofNat]
  exact Nat.mod_eq_of_lt (Nat.lt_of_le_of_lt hhigh (by decide))

theorem isDigit_bytes (n : Nat) : ∀ c ∈ bytes n, isDigit c = true := by
  intro c hc
  obtain ⟨d, hd, rfl⟩ := List.mem_map.mp hc
  obtain ⟨hsame, hlow, hhigh⟩ := toNat_digit (Nat.isDigit_of_mem_toDigits (by decide) (by decide) hd)
  rw [isDigit, hsame]
  exact decide_eq_true ⟨hlow, hhigh⟩

theorem bytes_ne_nil (n : Nat) : bytes n ≠ [] := fun h =>
  Nat.toDigits_ne_nil (List.map_eq_nil_iff.mp h)

theorem value_bytes (n : Nat) : value (bytes n) = n := by
  have hdigits : ∀ c ∈ Nat.toDigits 10 n, c.isDigit := fun c hc =>
    Nat.isDigit_of_mem_toDigits (by decide) (by decide) hc
  have hfold : ∀ (l : List Char), (∀ c ∈ l, c.isDigit) → ∀ init,
      (l.map fun c => BitVec.ofNat 8 c.toNat).foldl (fun n c => 10 * n + (c.toNat - 48)) init =
        Nat.ofDigitChars 10 l init := by
    intro l
    induction l with
    | nil => exact fun _ init => Nat.ofDigitChars_nil.symm
    | cons c l ih =>
      intro hl init
      rw [List.map_cons, List.foldl_cons, (toNat_digit (hl c List.mem_cons_self)).1,
        ih fun d hd => hl d (List.mem_cons_of_mem c hd), Nat.ofDigitChars_cons]
      rfl
  rw [value, bytes, hfold _ hdigits, Nat.ofDigitChars_toDigits (by decide) (by decide)]

/-- **What is written is read.** -/
theorem scan_bytes (n : Nat) {rest : List Char8} (hrest : ∀ c ∈ rest.head?, isDigit c = false) :
    scan (bytes n ++ rest) = some ((n : Int), rest) := by
  obtain ⟨c, digits, hcons⟩ := List.exists_cons_of_ne_nil (bytes_ne_nil n)
  have hdigit : isDigit c = true := isDigit_bytes n c (hcons ▸ List.mem_cons_self)
  obtain ⟨hlow, hhigh⟩ := of_decide_eq_true hdigit
  have hspace : isSpace c = false := decide_eq_false (by omega)
  have hsign : sign (bytes n ++ rest) = (1, bytes n ++ rest) := by
    rw [hcons, List.cons_append, sign]
    · intro s heq
      obtain ⟨rfl, -⟩ := List.cons.inj heq
      exact absurd hlow (by decide)
    · intro s heq
      obtain ⟨rfl, -⟩ := List.cons.inj heq
      exact absurd hlow (by decide)
  have hdrop : (bytes n ++ rest).dropWhile isSpace = bytes n ++ rest := by
    rw [hcons, List.cons_append, List.dropWhile_cons_of_neg (by rw [hspace]; exact Bool.false_ne_true)]
  have hrestTake : rest.takeWhile isDigit = [] ∧ rest.dropWhile isDigit = rest := by
    cases rest with
    | nil => exact ⟨rfl, rfl⟩
    | cons d rest =>
      have hno := hrest d rfl
      exact ⟨List.takeWhile_cons_of_neg (by rw [hno]; exact Bool.false_ne_true),
        List.dropWhile_cons_of_neg (by rw [hno]; exact Bool.false_ne_true)⟩
  have htake : (bytes n ++ rest).takeWhile isDigit = bytes n := by
    rw [List.takeWhile_append_of_pos (isDigit_bytes n), hrestTake.1, List.append_nil]
  have hbehind : (bytes n ++ rest).dropWhile isDigit = rest := by
    rw [List.dropWhile_append_of_pos (isDigit_bytes n), hrestTake.2]
  unfold scan
  rw [hdrop, hsign]
  dsimp only
  rw [htake, hbehind]
  split
  · next hnil => exact absurd hnil (bytes_ne_nil n)
  · rw [value_bytes, Int.one_mul]

end Decimal
