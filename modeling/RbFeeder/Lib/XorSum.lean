import Mathlib

/-! Sums over exclusive or, and the distance of a binary code.

A family of bit vectors `s` indexed by positions is the syndrome table of a
linear code: `xorSum s S` is the syndrome of the error pattern `S`. Patterns add
by symmetric difference, so two patterns share a syndrome exactly when their
difference has syndrome zero (`xorSum_symmDiff`). A family is `Separated` to
distance `d` on a set of positions when no nonempty pattern of fewer than `d`
positions cancels; then light patterns are determined by their syndromes
(`Separated.eq_of_xorSum_eq`). `separated_of_parity` reduces that, for a family
of odd parity, to patterns of even size. -/
namespace XorSum
open scoped symmDiff

variable {ι : Type} {w : Nat}

/-- Exclusive or of the members of `s` at the positions in `S`. -/
def xorSum (s : ι → BitVec w) (S : Finset ι) : BitVec w := S.fold (· ^^^ ·) 0#w s

@[simp] theorem xorSum_empty (s : ι → BitVec w) : xorSum s ∅ = 0#w := rfl

@[simp] theorem xorSum_singleton (s : ι → BitVec w) (i : ι) : xorSum s {i} = s i := by
  simp [xorSum]

theorem xor_cancel_left (a b : BitVec w) : a ^^^ (a ^^^ b) = b := by
  rw [← BitVec.xor_assoc, BitVec.xor_self, BitVec.zero_xor]

theorem xor_eq_zero_iff (a b : BitVec w) : a ^^^ b = 0#w ↔ a = b := by
  constructor
  · intro h
    have := congrArg (a ^^^ ·) h
    simpa [xor_cancel_left, eq_comm] using this
  · intro hgiven
    obtain rfl := hgiven
    exact BitVec.xor_self

theorem xorSum_congr {s t : ι → BitVec w} {S : Finset ι} (h : ∀ i ∈ S, s i = t i) :
    xorSum s S = xorSum t S := Finset.fold_congr h

theorem xorSum_image {κ : Type} [DecidableEq κ] (t : κ → BitVec w) (f : ι → κ)
    (hf : Function.Injective f) (S : Finset ι) : xorSum t (S.image f) = xorSum (t ∘ f) S :=
  Finset.fold_image fun _ _ _ _ h => hf h

section Patterns
variable [DecidableEq ι] (s : ι → BitVec w)

theorem xorSum_insert {i : ι} {S : Finset ι} (h : i ∉ S) :
    xorSum s (insert i S) = s i ^^^ xorSum s S := Finset.fold_insert h

theorem xorSum_union {S T : Finset ι} (h : Disjoint S T) :
    xorSum s (S ∪ T) = xorSum s S ^^^ xorSum s T := by
  have hfold : xorSum s (S ∪ T) ^^^ xorSum s (S ∩ T) = xorSum s S ^^^ xorSum s T :=
    Finset.fold_union_inter
  rwa [Finset.disjoint_iff_inter_eq_empty.mp h, xorSum_empty, BitVec.xor_zero] at hfold

theorem xorSum_sdiff_inter (S T : Finset ι) :
    xorSum s (S \ T) ^^^ xorSum s (S ∩ T) = xorSum s S := by
  rw [← xorSum_union s (Finset.disjoint_sdiff_inter S T), Finset.sdiff_union_inter]

/-- Patterns add by symmetric difference. -/
theorem xorSum_symmDiff (S T : Finset ι) : xorSum s (S ∆ T) = xorSum s S ^^^ xorSum s T := by
  have hS := xorSum_sdiff_inter s S T
  have hT := xorSum_sdiff_inter s T S
  rw [Finset.inter_comm] at hT
  have hdisj : Disjoint (S \ T) (T \ S) := disjoint_sdiff_sdiff
  rw [symmDiff_def, Finset.sup_eq_union, xorSum_union s hdisj, ← hS, ← hT]
  generalize xorSum s (S \ T) = a, xorSum s (S ∩ T) = b, xorSum s (T \ S) = c
  rw [BitVec.xor_assoc a, BitVec.xor_comm c b, xor_cancel_left]

/-- An additive map commutes with the sum. -/
theorem map_xorSum {v : Nat} (φ : BitVec w → BitVec v) (h0 : φ 0#w = 0#v)
    (hφ : ∀ a b, φ (a ^^^ b) = φ a ^^^ φ b) (S : Finset ι) :
    φ (xorSum s S) = xorSum (φ ∘ s) S := by
  induction S using Finset.induction_on with
  | empty => exact h0
  | insert i S hi ih => rw [xorSum_insert s hi, hφ, ih, xorSum_insert _ hi]; rfl

/-- The sum over a list without repetitions, in list order. -/
theorem xorSum_toFinset (l : List ι) (h : l.Nodup) (a : BitVec w) :
    l.foldl (fun acc i => acc ^^^ s i) a = a ^^^ xorSum s l.toFinset := by
  induction l generalizing a with
  | nil => simp
  | cons i l ih =>
    obtain ⟨hi, hl⟩ := List.nodup_cons.mp h
    rw [List.foldl_cons, ih hl, List.toFinset_cons, xorSum_insert s (by simpa using hi),
      BitVec.xor_assoc]

/-! ### Distance -/

/-- No nonempty pattern of fewer than `d` positions of `U` cancels. -/
def Separated (U : Finset ι) (d : Nat) : Prop :=
  ∀ S ⊆ U, S.Nonempty → S.card < d → xorSum s S ≠ 0#w

variable {s}

theorem Separated.eq_of_xorSum_eq {U : Finset ι} {d : Nat} (h : Separated s U d) {S T : Finset ι}
    (hS : S ⊆ U) (hT : T ⊆ U) (hcard : S.card + T.card < d) (heq : xorSum s S = xorSum s T) :
    S = T := by
  by_contra hne
  refine h (S ∆ T) ?_ ?_ ?_ ?_
  · exact symmDiff_le (hS.trans (by simp)) (hT.trans (by simp))
  · rw [Finset.nonempty_iff_ne_empty]
    exact fun he => hne (Finset.symmDiff_eq_empty.mp he)
  · calc (S ∆ T).card ≤ (S ∪ T).card := Finset.card_le_card symmDiff_le_sup
      _ ≤ S.card + T.card := Finset.card_union_le S T
      _ < d := hcard
  · rw [xorSum_symmDiff, heq, BitVec.xor_self]

/-- The sum of all bits of a vector. -/
def parity (x : BitVec w) : Bool := (List.range w).foldr (fun i b => x.getLsbD i ^^ b) false

theorem parity_xor (x y : BitVec w) : parity (x ^^^ y) = (parity x ^^ parity y) := by
  unfold parity
  induction List.range w with
  | nil => rfl
  | cons i l ih =>
    rw [List.foldr_cons, List.foldr_cons, List.foldr_cons, ih, BitVec.getLsbD_xor,
      Bool.xor_assoc, Bool.xor_assoc, Bool.xor_left_comm (y.getLsbD i)]

theorem parity_zero : parity 0#w = false := by
  have := parity_xor 0#w 0#w
  rw [BitVec.xor_self] at this
  cases h : parity 0#w <;> simp_all

theorem parity_xorSum {S : Finset ι} (h : ∀ i ∈ S, parity (s i) = true) :
    parity (xorSum s S) = decide (S.card % 2 = 1) := by
  induction S using Finset.induction_on with
  | empty => simp [parity_zero]
  | insert i S hi ih =>
    rw [xorSum_insert s hi, parity_xor, h i (by simp), Finset.card_insert_of_notMem hi,
      ih fun j hj => h j (by simp [hj])]
    rcases Nat.mod_two_eq_zero_or_one S.card with hc | hc <;> simp [hc, Nat.add_mod]

/-- A family of odd parity is separated once no pattern of even size cancels. -/
theorem separated_of_parity {U : Finset ι} {d : Nat} (hodd : ∀ i ∈ U, parity (s i) = true)
    (heven : ∀ S ⊆ U, S.Nonempty → S.card < d → S.card % 2 = 0 → xorSum s S ≠ 0#w) :
    Separated s U d := by
  intro S hS hne hd hzero
  have hpar := parity_xorSum fun i hi => hodd i (hS hi)
  rw [hzero, parity_zero] at hpar
  exact heven S hS hne hd (by simpa using hpar) hzero

end Patterns

end XorSum
