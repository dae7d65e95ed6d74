import Mathlib

/-! Unrolled loops.

An unrolled loop takes `n` elements in a turn, and then what is left one by one, maybe in
another state. What each turn and each step keeps of the state and the elements that were
taken holds at the end of all of them (`unrolled_rule`). -/
namespace Unrolled
variable {σ τ α : Type*}

/-- So many turns of `n` elements. -/
def turns (n : Nat) (turn : σ → List α → σ) : Nat → σ → List α → σ
  | 0, s, _ => s
  | count + 1, s, xs => turns n turn count (turn s (xs.take n)) (xs.drop n)

/-- The turns and the steps, and what happens to the state between them. -/
def unrolled (n : Nat) (turn : σ → List α → σ) (reduce : σ → τ) (one : τ → α → τ) (s : σ) (xs : List α) : τ :=
  (xs.drop (n * (xs.length / n))).foldl one (reduce (turns n turn (xs.length / n) s xs))

section Rules
variable {n : Nat} {turn : σ → List α → σ} {reduce : σ → τ} {one : τ → α → τ}
  {P : σ → List α → Prop} {Q : τ → List α → Prop}

theorem turns_rule (hturn : ∀ s taken part, P s taken → part.length = n → P (turn s part) (taken ++ part))
    {count : Nat} {s : σ} {taken xs : List α} (hcount : n * count ≤ xs.length) (hs : P s taken) :
    P (turns n turn count s xs) (taken ++ xs.take (n * count)) := by
  induction count generalizing s taken xs with
  | zero => simpa [turns] using hs
  | succ count ih =>
    rw [Nat.mul_succ] at hcount
    have hpart : (xs.take n).length = n := List.length_take_of_le (by omega)
    have hrest : n * count ≤ (xs.drop n).length := by
      rw [List.length_drop]
      omega
    have hfirst := ih hrest (hturn s taken (xs.take n) hs hpart)
    rw [List.append_assoc, ← List.take_add, Nat.add_comm] at hfirst
    rwa [turns, Nat.mul_succ]

theorem foldl_rule (hone : ∀ t taken x, Q t taken → Q (one t x) (taken ++ [x])) {t : τ} {taken xs : List α}
    (ht : Q t taken) : Q (xs.foldl one t) (taken ++ xs) := by
  induction xs generalizing t taken with
  | nil => rwa [List.append_nil]
  | cons x xs ih =>
    have hrest := ih (hone t taken x ht)
    rwa [List.append_assoc, List.singleton_append] at hrest

/-- The rule for a whole loop. -/
theorem foldl_all (hone : ∀ t taken x, Q t taken → Q (one t x) (taken ++ [x])) {t : τ} (ht : Q t []) (xs : List α) :
    Q (xs.foldl one t) xs :=
  foldl_rule hone ht

/-- The turns keep `P`, the steps keep `Q`, and `P` becomes `Q` between them. -/
theorem unrolled_rule (hturn : ∀ s taken part, P s taken → part.length = n → P (turn s part) (taken ++ part))
    (hreduce : ∀ s taken, P s taken → Q (reduce s) taken)
    (hone : ∀ t taken x, Q t taken → Q (one t x) (taken ++ [x])) {s : σ} (hs : P s []) (xs : List α) :
    Q (unrolled n turn reduce one s xs) xs := by
  have hturns := turns_rule hturn (Nat.mul_div_le xs.length n) hs
  have hall : Q (unrolled n turn reduce one s xs) _ := foldl_rule hone (hreduce _ _ hturns)
  rwa [List.nil_append, List.take_append_drop] at hall

end Rules

/-! ### Wrapping sums -/

theorem toNat_foldl_add {w : Nat} (f : α → BitVec w) (s : BitVec w) (xs : List α) :
    (xs.foldl (fun s x => s + f x) s).toNat = (s.toNat + (xs.map fun x => (f x).toNat).sum) % 2 ^ w := by
  induction xs generalizing s with
  | nil => rw [List.foldl_nil, List.map_nil, List.sum_nil, Nat.add_zero, Nat.mod_eq_of_lt s.isLt]
  | cons x xs ih =>
    rw [List.foldl_cons, ih, BitVec.toNat_add, Nat.mod_add_mod, List.map_cons, List.sum_cons, Nat.add_assoc]

/-- A sum of values below `bound` wraps only if they are too many. -/
theorem toNat_foldl_of_lt {w : Nat} {f : α → BitVec w} (bound : Nat) {xs : List α}
    (hbound : ∀ x ∈ xs, (f x).toNat ≤ bound) (hlen : xs.length * bound < 2 ^ w) :
    (xs.foldl (fun s x => s + f x) 0).toNat = (xs.map fun x => (f x).toNat).sum := by
  have hsum : (xs.map fun x => (f x).toNat).sum ≤ xs.length * bound := by
    have := List.sum_le_card_nsmul (xs.map fun x => (f x).toNat) bound fun y hy => by
      obtain ⟨x, hx, rfl⟩ := List.mem_map.mp hy
      exact hbound x hx
    rwa [List.length_map, smul_eq_mul] at this
  rw [toNat_foldl_add, BitVec.ofNat_eq_ofNat, BitVec.toNat_ofNat, Nat.zero_mod, Nat.zero_add, Nat.mod_eq_of_lt (by omega)]

end Unrolled
