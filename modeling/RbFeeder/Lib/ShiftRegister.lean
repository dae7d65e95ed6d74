import Mathlib.Data.Nat.Notation
import Mathlib.Tactic.Common

/-! Words that bits are shifted into, and bits that are wired from one word to another.

The bit shifted in last is the lowest one (`getLsbD_shiftIns`). A wiring is a list of pairs of
places; what it takes from a word at the first places it puts at the second
(`getLsbD_wire`). Wired there and back a word keeps the bits that the wiring knows
(`wire_swap`). -/
namespace ShiftRegister
variable {w : Nat}

/-! ### Shifting in -/

def shiftIn (x : BitVec w) (b : Bool) : BitVec w := x <<< 1 ||| if b then 1 else 0

/-- The bits `b 0`, .., `b (n - 1)`, one after the other. -/
def shiftIns (b : Nat → Bool) (n : Nat) : BitVec w := (List.range n).foldl (fun x i => shiftIn x (b i)) 0

theorem shiftIns_succ (b : Nat → Bool) (n : Nat) : (shiftIns b (n + 1) : BitVec w) = shiftIn (shiftIns b n) (b n) := by
  rw [shiftIns, List.range_succ, List.foldl_append, List.foldl_cons, List.foldl_nil]
  rfl

theorem getLsbD_shiftIn (x : BitVec w) (b : Bool) (i : Nat) :
    (shiftIn x b).getLsbD i = (decide (i < w) && if i = 0 then b else x.getLsbD (i - 1)) := by
  have hone : (if b then 1#w else 0#w).getLsbD i = (decide (i < w ∧ i = 0) && b) := by
    cases b
    · simp
    · rw [if_pos rfl, BitVec.getLsbD_one, Bool.and_true, ← Bool.decide_and]
      exact decide_eq_decide.mpr ⟨fun h => ⟨h.2 ▸ h.1, h.2⟩, fun h => ⟨h.2 ▸ h.1, h.2⟩⟩
  rw [shiftIn, BitVec.getLsbD_or, BitVec.getLsbD_shiftLeft]
  refine (congrArg _ hone).trans ?_
  cases i with
  | zero => simp
  | succ i => simp

/-- The last bit is the lowest one. -/
theorem getLsbD_shiftIns (b : Nat → Bool) {n : Nat} (hn : n ≤ w) (i : Nat) :
    (shiftIns b n : BitVec w).getLsbD i = (decide (i < n) && b (n - 1 - i)) := by
  induction n generalizing i with
  | zero => simp [shiftIns]
  | succ n ih =>
    rw [shiftIns_succ, getLsbD_shiftIn, ih (by omega)]
    cases i with
    | zero => simp [show 0 < w by omega]
    | succ i =>
      by_cases hi : i < n
      · simp [hi, show i + 1 < w by omega, show n - 1 - i = n - (i + 1) by omega]
      · simp [hi]

/-! ### Wiring -/

/-- For each pair: the bit at its first place goes to its second place. -/
def wire (pairs : List (Nat × Nat)) (x y : BitVec w) : BitVec w :=
  pairs.foldl (fun y p => if x.getLsbD p.1 then y ||| 1#w <<< p.2 else y) y

theorem getLsbD_wire (pairs : List (Nat × Nat)) (x y : BitVec w) {i : Nat} (hi : i < w) :
    (wire pairs x y).getLsbD i = (y.getLsbD i || pairs.any fun p => decide (p.2 = i) && x.getLsbD p.1) := by
  induction pairs generalizing y with
  | nil => simp [wire]
  | cons p pairs ih =>
    have hplace : (1#w <<< p.2).getLsbD i = decide (p.2 = i) := by
      rw [← BitVec.twoPow_eq, BitVec.getLsbD_twoPow]
      by_cases hp : p.2 = i
      · simp [hp, hi]
      · simp [hp]
    rw [wire, List.foldl_cons, ← wire, ih, List.any_cons]
    split
    · next hset => rw [BitVec.getLsbD_or, hplace, hset, Bool.and_true, Bool.or_assoc]
    · next hclear => rw [Bool.eq_false_iff.mpr hclear, Bool.and_false, Bool.false_or]

/-- A pair that shares its first place with no other is read back. -/
theorem getLsbD_wire_swap {pairs : List (Nat × Nat)} {x y : BitVec w} {p : Nat × Nat} (hp : p ∈ pairs) (hlt : p.1 < w)
    (honly : ∀ q ∈ pairs, q.1 = p.1 → q = p) (hfree : y.getLsbD p.1 = false) :
    (wire (pairs.map Prod.swap) x y).getLsbD p.1 = x.getLsbD p.2 := by
  rw [getLsbD_wire _ _ _ hlt, hfree, Bool.false_or, List.any_map]
  cases hbit : x.getLsbD p.2 with
  | true => exact List.any_eq_true.mpr ⟨p, hp, by simp [hbit]⟩
  | false =>
    refine List.any_eq_false.mpr fun q hq hset => ?_
    simp only [Function.comp_apply, Prod.fst_swap, Prod.snd_swap, Bool.and_eq_true, decide_eq_true_eq] at hset
    obtain rfl := honly q hq hset.1
    rw [hbit] at hset
    exact Bool.false_ne_true hset.2

/-- **Main theorem.** There and back. -/
theorem wire_swap {pairs : List (Nat × Nat)} {x y : BitVec w} (hlt : ∀ p ∈ pairs, p.1 < w)
    (honly : ∀ p ∈ pairs, ∀ q ∈ pairs, q.1 = p.1 → q = p) (hfree : ∀ p ∈ pairs, y.getLsbD p.1 = false)
    (hknown : ∀ i < w, x.getLsbD i = true → ∃ p ∈ pairs, p.2 = i) :
    wire pairs (wire (pairs.map Prod.swap) x y) 0 = x := by
  apply BitVec.eq_of_getLsbD_eq
  intro i hi
  rw [getLsbD_wire _ _ _ hi, show (0 : BitVec w).getLsbD i = false from BitVec.getLsbD_zero, Bool.false_or,
    Bool.eq_iff_iff, List.any_eq_true]
  constructor
  · intro h
    obtain ⟨p, hp, hset⟩ := h
    simp only [Bool.and_eq_true, decide_eq_true_eq] at hset
    obtain ⟨rfl, hset⟩ := hset
    rwa [getLsbD_wire_swap hp (hlt p hp) (honly p hp) (hfree p hp)] at hset
  · intro h
    obtain ⟨p, hp, rfl⟩ := hknown i hi h
    refine ⟨p, hp, ?_⟩
    rw [getLsbD_wire_swap hp (hlt p hp) (honly p hp) (hfree p hp), h, decide_eq_true rfl, Bool.and_self]

end ShiftRegister
