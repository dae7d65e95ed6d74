import Mathlib

/-! The C library's `bsearch`, on a list.

`cmp` is the comparison of the key with a member, negative when the key comes
first. The search is sound on any list (`bsearch_sound`); on a list strictly
sorted for the comparison it finds the one member that compares equal
(`bsearch_eq_some`), so it fails only when there is none. -/
namespace Search

variable {α : Type}

/-- The loop of `bsearch`, on the window `[lo, hi)`. -/
def bsearchFrom (cmp : α → Int) (t : List α) (lo hi : Nat) : Option Nat :=
  if lo < hi then
    match t[(lo + hi) / 2]? with
    | none => none
    | some a =>
      if cmp a < 0 then bsearchFrom cmp t lo ((lo + hi) / 2)
      else if 0 < cmp a then bsearchFrom cmp t ((lo + hi) / 2 + 1) hi
      else some ((lo + hi) / 2)
  else none
termination_by hi - lo

def bsearch (cmp : α → Int) (t : List α) : Option Nat := bsearchFrom cmp t 0 t.length

/-- Strictly sorted for the comparison: the key minus the member decreases. -/
def Sorted (cmp : α → Int) (t : List α) : Prop := t.Pairwise fun a b => cmp b < cmp a

theorem bsearchFrom_sound (cmp : α → Int) (t : List α) (lo hi i : Nat)
    (h : bsearchFrom cmp t lo hi = some i) : ∃ a, t[i]? = some a ∧ cmp a = 0 := by
  fun_induction bsearchFrom cmp t lo hi with
  | case1 => simp at h
  | case2 lo hi hlt a ha hneg ih => exact ih h
  | case3 lo hi hlt a ha hneg hpos ih => exact ih h
  | case4 lo hi hlt a ha hneg hpos =>
    cases h
    exact ⟨a, ha, by omega⟩
  | case5 => simp at h

theorem bsearch_sound {cmp : α → Int} {t : List α} {i : Nat} (h : bsearch cmp t = some i) :
    ∃ a, t[i]? = some a ∧ cmp a = 0 := bsearchFrom_sound cmp t 0 t.length i h

theorem Sorted.lt {cmp : α → Int} {t : List α} (hs : Sorted cmp t) {i j : Nat} (hij : i < j)
    {a b : α} (ha : t[i]? = some a) (hb : t[j]? = some b) : cmp b < cmp a := by
  obtain ⟨hi, rfl⟩ := List.getElem?_eq_some_iff.mp ha
  obtain ⟨hj, rfl⟩ := List.getElem?_eq_some_iff.mp hb
  exact List.pairwise_iff_getElem.mp hs i j hi hj hij

theorem bsearchFrom_complete (cmp : α → Int) (t : List α) (hs : Sorted cmp t) (lo hi k : Nat)
    {a : α} (ha : t[k]? = some a) (hzero : cmp a = 0) (hlo : lo ≤ k) (hk : k < hi)
    (hhi : hi ≤ t.length) : bsearchFrom cmp t lo hi = some k := by
  fun_induction bsearchFrom cmp t lo hi with
  | case1 lo hi hlt hnone =>
    have := List.getElem?_eq_none_iff.mp hnone
    omega
  | case2 lo hi hlt b hb hneg ih =>
    -- The key comes before the midpoint, so the match lies below it.
    have : ¬ (lo + hi) / 2 < k := fun h => by have := hs.lt h hb ha; omega
    have : k ≠ (lo + hi) / 2 := by
      intro hgiven
      obtain rfl := hgiven
      rw [ha] at hb
      cases hb
      omega
    exact ih hlo (by omega) (by omega)
  | case3 lo hi hlt b hb hneg hpos ih =>
    have : ¬ k < (lo + hi) / 2 := fun h => by have := hs.lt h ha hb; omega
    have : k ≠ (lo + hi) / 2 := by
      intro hgiven
      obtain rfl := hgiven
      rw [ha] at hb
      cases hb
      omega
    exact ih (by omega) hk hhi
  | case4 lo hi hlt b hb hneg hpos =>
    have hlt : ¬ (lo + hi) / 2 < k := fun h => by have := hs.lt h hb ha; omega
    have hgt : ¬ k < (lo + hi) / 2 := fun h => by have := hs.lt h ha hb; omega
    exact congrArg some (by omega)
  | case5 lo hi hlt => omega

theorem bsearch_eq_some {cmp : α → Int} {t : List α} (hs : Sorted cmp t) {k : Nat} {a : α}
    (ha : t[k]? = some a) (hzero : cmp a = 0) : bsearch cmp t = some k := by
  obtain ⟨hk, -⟩ := List.getElem?_eq_some_iff.mp ha
  exact bsearchFrom_complete cmp t hs 0 t.length k ha hzero (Nat.zero_le _) hk (Nat.le_refl _)

/-- What the search returns, as a member: the one that compares equal, if any. -/
theorem bsearch_bind {cmp : α → Int} {t : List α} (hs : Sorted cmp t) (a : α) :
    (bsearch cmp t).bind (t[·]?) = some a ↔ a ∈ t ∧ cmp a = 0 := by
  constructor
  · intro h
    obtain ⟨i, hi, ha⟩ := Option.bind_eq_some_iff.mp h
    obtain ⟨b, hb, hzero⟩ := bsearch_sound hi
    rw [ha] at hb
    cases hb
    exact ⟨List.mem_of_getElem? ha, hzero⟩
  · intro hgiven
    obtain ⟨ha, hzero⟩ := hgiven
    obtain ⟨i, hi⟩ := List.mem_iff_getElem?.mp ha
    rw [bsearch_eq_some hs hi hzero]
    exact hi

end Search
