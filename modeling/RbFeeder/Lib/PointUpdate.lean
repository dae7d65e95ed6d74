import Mathlib

/-! Tables that are changed one entry at a time.

A sweep runs over a list of indices and changes, at each of them, only what belongs
to that index; if no index comes twice, what it leaves there is what the one change
makes of what was there (`foldl_pointwise`). Changing one entry of a table changes
the number of entries with a property by what happens to that entry
(`countP_update`). -/
namespace PointUpdate
variable {σ ι β : Type*} [DecidableEq ι]

/-- **A sweep, seen at one index.** -/
theorem foldl_pointwise (view : σ → ι → β) (f : ι → β → β) {step : σ → ι → σ} {I : σ → Prop}
    (hinv : ∀ s i, I s → I (step s i))
    (hself : ∀ s i, I s → view (step s i) i = f i (view s i))
    (hother : ∀ s i j, I s → j ≠ i → view (step s i) j = view s j)
    {l : List ι} (hnodup : l.Nodup) {s : σ} (hs : I s) (j : ι) :
    view (l.foldl step s) j = if j ∈ l then f j (view s j) else view s j := by
  induction l generalizing s with
  | nil => simp
  | cons i l ih =>
    obtain ⟨hnotin, hnodup⟩ := List.nodup_cons.mp hnodup
    rw [List.foldl_cons, ih hnodup (hinv s i hs)]
    by_cases hj : j = i
    · subst hj
      rw [if_neg hnotin, if_pos List.mem_cons_self, hself s j hs]
    · simp only [List.mem_cons, hj, false_or, hother s i j hs hj]

/-- Counting after a change at one index of the list. -/
theorem countP_update (p : β → Bool) (table : ι → β) {l : List ι} (hnodup : l.Nodup) {i : ι}
    (hi : i ∈ l) (b : β) :
    (l.countP fun j => p (Function.update table i b j)) + (p (table i)).toNat =
      (l.countP fun j => p (table j)) + (p b).toNat := by
  induction l with
  | nil => cases hi
  | cons j l ih =>
    obtain ⟨hnotin, hnodup⟩ := List.nodup_cons.mp hnodup
    rw [List.countP_cons, List.countP_cons]
    by_cases hj : j = i
    · subst hj
      have hsame : (l.countP fun k => p (Function.update table j b k)) =
          l.countP fun k => p (table k) := by
        refine List.countP_congr fun k hk => ?_
        rw [Function.update_of_ne (fun h : k = j => hnotin (h ▸ hk))]
      rw [hsame, Function.update_self]
      cases p b <;> cases p (table j) <;> simp
    · have hin : i ∈ l := (List.mem_cons.mp hi).resolve_left (Ne.symm hj)
      rw [Function.update_of_ne hj]
      have := ih hnodup hin
      omega

end PointUpdate
