import Mathlib

/-! Long division of bit strings over the field of two elements.

A word of `w` bits is a polynomial of degree below `w` (`poly`), a string of
bits, first bit highest, one of any degree (`dividend`), and a word `g` stands for
the divisor `X ^ w + g` (`divisor`). Division bit by bit keeps a register of `w`
bits: shift the next bit in and, when a one is shifted out, subtract the divisor
(`step`). The register holds the remainder of the bits read
(`poly_remainder`).

Table-driven division (`feed`) takes `k` bits at a time and looks up what the `k`
bits shifted out leave behind. Its register is `w` places ahead: it holds the
remainder of what was read times `X ^ w` (`residue_feeds`). -/
namespace LongDivision
open Polynomial

variable {w k : Nat}

/-! ### Words and strings as polynomials -/

/-- Bit `i` of a word is the coefficient of `X ^ i`. -/
noncomputable def poly (x : BitVec w) : (ZMod 2)[X] :=
  ∑ i ∈ Finset.range w, if x.getLsbD i then X ^ i else 0

/-- A string of bits, the first one the highest. -/
noncomputable def dividend (bits : List Bool) : (ZMod 2)[X] :=
  bits.foldl (fun p b => X * p + if b then 1 else 0) 0

noncomputable def divisor (g : BitVec w) : (ZMod 2)[X] := X ^ w + poly g

theorem coeff_poly (x : BitVec w) (n : Nat) :
    (poly x).coeff n = if x.getLsbD n then 1 else 0 := by
  have hterm (i : Nat) : (if x.getLsbD i then (X : (ZMod 2)[X]) ^ i else 0).coeff n =
      if i = n then (if x.getLsbD n then 1 else 0) else 0 := by
    by_cases hin : i = n
    · subst hin
      cases x.getLsbD i <;> simp
    · rw [if_neg hin]
      cases x.getLsbD i
      · simp
      · simp [coeff_X_pow, Ne.symm hin]
  simp only [poly, finsetSum_coeff, hterm, Finset.sum_ite_eq', Finset.mem_range]
  by_cases hn : n < w
  · simp [hn]
  · simp [hn, BitVec.getLsbD_of_ge x n (by omega)]

/-- Two words are the same when their polynomials are. -/
theorem poly_injective : Function.Injective (poly (w := w)) := by
  intro x y h
  apply BitVec.eq_of_getLsbD_eq
  intro i hi
  have hcoeff := congrArg (·.coeff i) h
  simp only [coeff_poly] at hcoeff
  cases hx : x.getLsbD i <;> cases hy : y.getLsbD i <;> simp [hx, hy] at hcoeff ⊢

@[simp] theorem poly_zero : poly (0#w) = 0 := by
  ext n
  simp [coeff_poly]

/-- Exclusive or is addition. -/
theorem poly_xor (x y : BitVec w) : poly (x ^^^ y) = poly x + poly y := by
  ext n
  rw [coeff_add, coeff_poly, coeff_poly, coeff_poly, BitVec.getLsbD_xor]
  cases x.getLsbD n <;> cases y.getLsbD n <;> decide

theorem degree_poly_lt (x : BitVec w) : (poly x).degree < w := by
  rw [degree_lt_iff_coeff_zero]
  intro n hn
  rw [coeff_poly, BitVec.getLsbD_of_ge x n hn]
  rfl

theorem monic_divisor (g : BitVec w) : (divisor g).Monic :=
  monic_X_pow_add (degree_poly_lt g)

theorem degree_divisor (g : BitVec w) : (divisor g).degree = w := by
  rw [divisor, degree_add_eq_left_of_degree_lt, degree_X_pow]
  rw [degree_X_pow]
  exact degree_poly_lt g

/-- Leading zeros add nothing. -/
theorem poly_setWidth (x : BitVec k) (h : k ≤ w) : poly (x.setWidth w) = poly x := by
  ext n
  rw [coeff_poly, coeff_poly, BitVec.getLsbD_setWidth]
  by_cases hn : n < w
  · simp [hn]
  · simp [hn, BitVec.getLsbD_of_ge x n (by omega)]

/-- Shifting left multiplies by a power of `X`, but for the bits that fall off. -/
theorem poly_shiftLeft (x : BitVec w) (h : k ≤ w) :
    poly (x <<< k) + X ^ w * poly ((x >>> (w - k)).setWidth k) = X ^ k * poly x := by
  ext n
  rw [coeff_add, coeff_X_pow_mul', coeff_X_pow_mul', coeff_poly, coeff_poly, coeff_poly,
    BitVec.getLsbD_shiftLeft, BitVec.getLsbD_setWidth, BitVec.getLsbD_ushiftRight]
  by_cases hn : n < w
  · simp only [hn, decide_true, Bool.true_and, if_neg (Nat.not_le.mpr hn), add_zero]
    by_cases hk : k ≤ n
    · simp [hk, Nat.not_lt.mpr hk]
    · simp [hk, Nat.lt_of_not_le hk]
  · have hwn : w ≤ n := Nat.le_of_not_lt hn
    rw [if_pos hwn, if_pos (h.trans hwn), show w - k + (n - w) = n - k by omega]
    by_cases hnk : n - w < k
    · simp [hn, hnk]
    · simp [hn, hnk, BitVec.getLsbD_of_ge x (n - k) (by omega)]

/-- The higher word of two first. -/
theorem poly_append {v : Nat} (x : BitVec v) (y : BitVec w) :
    poly (x ++ y) = X ^ w * poly x + poly y := by
  ext n
  rw [coeff_add, coeff_X_pow_mul', coeff_poly, coeff_poly, coeff_poly, BitVec.getLsbD_append]
  by_cases hn : n < w
  · simp [hn, Nat.not_le.mpr hn]
  · simp [hn, Nat.le_of_not_lt hn]

theorem foldl_dividend (bits : List Bool) (p : (ZMod 2)[X]) :
    bits.foldl (fun p b => X * p + if b then 1 else 0) p = X ^ bits.length * p + dividend bits := by
  induction bits generalizing p with
  | nil => simp [dividend]
  | cons b bits ih =>
    rw [dividend, List.foldl_cons, List.foldl_cons, ih, ih (X * 0 + _), List.length_cons]
    ring

theorem dividend_append (a b : List Bool) :
    dividend (a ++ b) = X ^ b.length * dividend a + dividend b := by
  rw [dividend, List.foldl_append, foldl_dividend]
  rfl

/-- A word, bit by bit from the highest. -/
def bits (x : BitVec w) : List Bool := (List.range w).map x.getMsbD

@[simp] theorem length_bits (x : BitVec w) : (bits x).length = w := by simp [bits]

theorem bits_cons (b : Bool) (x : BitVec w) : bits (BitVec.cons b x) = b :: bits x := by
  rw [bits, List.range_succ_eq_map, List.map_cons, List.map_map]
  refine congrArg₂ List.cons ?_ (List.map_congr_left ?_)
  · simp only [BitVec.getMsbD, BitVec.getLsbD_cons]
    simp
  · intro i hi
    have hiw := List.mem_range.mp hi
    simp [BitVec.getMsbD, BitVec.getLsbD_cons, hiw, show w - (i + 1) = w - 1 - i by omega,
      show w - 1 - i ≠ w by omega]

theorem poly_cons (b : Bool) (x : BitVec w) :
    poly (BitVec.cons b x) = (if b then X ^ w else 0) + poly x := by
  ext n
  rw [coeff_add, coeff_poly, coeff_poly, BitVec.getLsbD_cons]
  by_cases hn : n = w
  · subst hn
    cases b <;> simp
  · cases b <;> simp [coeff_X_pow, hn]

theorem dividend_bits (x : BitVec w) : dividend (bits x) = poly x := by
  induction w with
  | zero => simp [bits, dividend, poly]
  | succ w ih =>
    rw [← BitVec.cons_msb_setWidth x, bits_cons, poly_cons, ← List.singleton_append, dividend_append,
      ih, length_bits]
    simp [dividend]

/-! ### Division, bit by bit -/

/-- The next bit is shifted in; when a one falls off, the divisor is subtracted. -/
def step (g r : BitVec w) (b : Bool) : BitVec w :=
  if r.msb then r.shiftConcat b ^^^ g else r.shiftConcat b

/-- The register after a string of bits. -/
def remainder (g : BitVec w) (bits : List Bool) : BitVec w := bits.foldl (step g) 0

/-- The class of a polynomial modulo the divisor. -/
noncomputable abbrev residue (g : BitVec w) : (ZMod 2)[X] →+* AdjoinRoot (divisor g) :=
  AdjoinRoot.mk (divisor g)

theorem residue_pow (g : BitVec w) : residue g (X ^ w) = residue g (poly g) := by
  rw [AdjoinRoot.mk_eq_mk, CharTwo.sub_eq_add]
  rfl

theorem residue_modByMonic (g : BitVec w) {p : (ZMod 2)[X]} {x : BitVec w}
    (h : residue g (poly x) = residue g p) : poly x = p %ₘ divisor g := by
  rw [← modByMonic_eq_of_dvd_sub (monic_divisor g) (AdjoinRoot.mk_eq_mk.mp h), eq_comm,
    modByMonic_eq_self_iff (monic_divisor g), degree_divisor]
  exact degree_poly_lt x

/-- A word is determined by its class. -/
theorem eq_of_residue (g : BitVec w) {x y : BitVec w} (h : residue g (poly x) = residue g (poly y)) :
    x = y := by
  apply poly_injective
  rw [residue_modByMonic g h, ← residue_modByMonic g rfl]

theorem coeff_ite_pow (b : Bool) (m n : Nat) :
    (if b then X ^ m else 0 : (ZMod 2)[X]).coeff n = if b ∧ n = m then 1 else 0 := by
  cases b <;> simp [coeff_X_pow]

/-- A shift multiplies by `X`, but for the bit that falls off. -/
theorem poly_shiftConcat (hw : 0 < w) (r : BitVec w) (b : Bool) :
    poly (r.shiftConcat b) + (if r.msb then X ^ w else 0) = X * poly r + if b then 1 else 0 := by
  have hone : (1 : (ZMod 2)[X]) = X ^ 0 := (pow_zero X).symm
  ext n
  rw [hone, coeff_add, coeff_add, coeff_ite_pow, coeff_ite_pow, coeff_poly, BitVec.getLsbD_shiftConcat,
    BitVec.msb_eq_getLsbD_last]
  cases n with
  | zero => simp [hw, Nat.ne_of_lt hw]
  | succ n =>
    rw [coeff_X_mul, coeff_poly, Nat.add_sub_cancel]
    by_cases hlast : n + 1 = w
    · subst hlast
      simp only [Nat.add_sub_cancel]
      simp
    · by_cases hn : n + 1 < w
      · simp only [hn, hlast, decide_true, Bool.true_and, Nat.succ_ne_zero, if_false, and_false]
      · simp [hn, hlast, BitVec.getLsbD_of_ge r n (by omega)]

/-- One step keeps the class: multiply by `X` and add the bit. -/
theorem residue_step (hw : 0 < w) (g r : BitVec w) (b : Bool) :
    residue g (poly (step g r b)) = residue g (X * poly r + if b then 1 else 0) := by
  rw [← poly_shiftConcat hw, map_add]
  unfold step
  cases r.msb with
  | false => simp
  | true => simp only [if_true, poly_xor, map_add, residue_pow]

theorem residue_foldl (hw : 0 < w) (g r : BitVec w) (bits : List Bool) :
    residue g (poly (bits.foldl (step g) r)) = residue g (X ^ bits.length * poly r + dividend bits) := by
  induction bits generalizing r with
  | nil => simp [dividend]
  | cons b bits ih =>
    rw [List.foldl_cons, ih, map_add, map_mul, residue_step hw, ← map_mul, ← map_add,
      ← List.singleton_append, dividend_append, List.length_append]
    congr 1
    simp only [dividend, List.foldl_cons, List.foldl_nil, List.length_singleton]
    ring

theorem residue_remainder (hw : 0 < w) (g : BitVec w) (bits : List Bool) :
    residue g (poly (remainder g bits)) = residue g (dividend bits) := by
  rw [remainder, residue_foldl hw, BitVec.ofNat_eq_ofNat, poly_zero, mul_zero, zero_add]

/-- **Main theorem.** The register holds the remainder of the bits read. -/
theorem poly_remainder (hw : 0 < w) (g : BitVec w) (bits : List Bool) :
    poly (remainder g bits) = dividend bits %ₘ divisor g :=
  residue_modByMonic g (residue_remainder hw g bits)

/-! ### Division by table -/

/-- What `k` bits leave behind when they are shifted out. -/
def table (g : BitVec w) (c : BitVec k) : BitVec w :=
  Nat.repeat (step g · false) k (c.setWidth w <<< (w - k))

/-- Takes the next `k` bits, `w` places ahead. -/
def feed (g r : BitVec w) (c : BitVec k) : BitVec w :=
  r <<< k ^^^ table g (c ^^^ (r >>> (w - k)).setWidth k)

theorem residue_repeat (hw : 0 < w) (g r : BitVec w) (n : Nat) :
    residue g (poly (Nat.repeat (step g · false) n r)) = residue g (X ^ n * poly r) := by
  induction n with
  | zero => simp [Nat.repeat]
  | succ n ih =>
    rw [Nat.repeat, residue_step hw, if_neg Bool.false_ne_true, add_zero, map_mul, ih, ← map_mul,
      pow_succ', mul_assoc]

theorem poly_top (h : k ≤ w) (c : BitVec k) :
    poly (c.setWidth w <<< (w - k)) = X ^ (w - k) * poly c := by
  ext n
  rw [coeff_X_pow_mul', coeff_poly, coeff_poly, BitVec.getLsbD_shiftLeft, BitVec.getLsbD_setWidth]
  by_cases hn : n < w
  · by_cases hk : w - k ≤ n
    · simp [hn, hk, Nat.not_lt.mpr hk, show n - (w - k) < w by omega]
    · simp [hk, Nat.lt_of_not_le hk]
  · simp [hn, BitVec.getLsbD_of_ge c (n - (w - k)) (by omega)]

theorem residue_table (hw : 0 < w) (h : k ≤ w) (g : BitVec w) (c : BitVec k) :
    residue g (poly (table g c)) = residue g (X ^ w * poly c) := by
  rw [table, residue_repeat hw, poly_top h, ← mul_assoc, ← pow_add, Nat.add_sub_cancel' h]

theorem residue_feed (hw : 0 < w) (h : k ≤ w) (g r : BitVec w) (c : BitVec k) :
    residue g (poly (feed g r c)) = residue g (X ^ k * poly r + X ^ w * poly c) := by
  rw [feed, poly_xor, map_add, residue_table hw h, ← map_add, ← poly_shiftLeft r h, poly_xor]
  congr 1
  ring

/-- The register is the remainder of what was read, `w` places up. -/
theorem residue_feeds (hw : 0 < w) (h : k ≤ w) (g : BitVec w) (cs : List (BitVec k)) :
    residue g (poly (cs.foldl (feed g) 0)) = residue g (X ^ w * dividend (cs.flatMap bits)) := by
  induction cs using List.reverseRecOn with
  | nil => simp [dividend]
  | append_singleton cs c ih =>
    rw [List.foldl_append, List.foldl_cons, List.foldl_nil, residue_feed hw h, map_add, map_mul, ih,
      List.flatMap_append, dividend_append, List.flatMap_singleton, length_bits, dividend_bits,
      ← map_mul, ← map_add]
    congr 1
    ring

end LongDivision
