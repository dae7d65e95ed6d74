import Mathlib.Data.List.Induction

/-! Slots for which there may be several claims.

A slot is free, or it holds the one value that was claimed for it, or a mark that says
that there was more than one claim. Each claim sees only what the slot holds. What it
holds in the end is what the claims for it come to (`foldl_claim`), if neither the mark
nor a claimed value looks like a free slot. -/
namespace Contested
variable {ι α : Type*} (free many : α)

/-- What the claims for one slot come to. -/
def outcome : List α → α
  | [] => free
  | [a] => a
  | _ :: _ :: _ => many

variable {free many}

theorem outcome_of_two {as : List α} (h : 2 ≤ as.length) : outcome free many as = many := by
  rcases as with _ | ⟨a, _ | ⟨b, as⟩⟩
  · simp at h
  · simp at h
  · rfl

theorem outcome_ne_free {as : List α} (hne : as ≠ []) (hfree : ∀ a ∈ as, a ≠ free) (hmany : many ≠ free) :
    outcome free many as ≠ free := by
  rcases as with _ | ⟨a, _ | ⟨b, as⟩⟩
  · exact absurd rfl hne
  · exact hfree a List.mem_cons_self
  · exact hmany

/-- Two claims are told from at most one, if the mark is no value. -/
theorem outcome_eq_many {as : List α} (hfree : many ≠ free) (hmany : ∀ a ∈ as, a ≠ many) :
    outcome free many as = many ↔ 2 ≤ as.length := by
  refine ⟨fun h => ?_, outcome_of_two⟩
  rcases as with _ | ⟨a, _ | ⟨b, as⟩⟩
  · exact absurd h.symm hfree
  · exact absurd h (hmany a List.mem_cons_self)
  · exact Nat.le_add_left 2 as.length

theorem outcome_concat [DecidableEq α] {as : List α} (hfree : ∀ a ∈ as, a ≠ free) (hmany : many ≠ free) (a : α) :
    outcome free many (as ++ [a]) = if outcome free many as ≠ free then many else a := by
  by_cases hne : as = []
  · subst hne
    exact (if_neg (not_not.mpr rfl)).symm
  · rw [if_pos (outcome_ne_free hne hfree hmany)]
    refine outcome_of_two ?_
    have hpos := List.length_pos_iff.mpr hne
    rw [List.length_append, List.length_singleton]
    omega

/-! ### Claims -/

section Claims
variable [DecidableEq ι]

/-- The values that are claimed for a slot, in order. -/
def claimsOf (i : ι) (claims : List (ι × α)) : List α := (claims.filter fun c => c.1 = i).map Prod.snd

theorem claimsOf_append (i : ι) (xs ys : List (ι × α)) :
    claimsOf i (xs ++ ys) = claimsOf i xs ++ claimsOf i ys := by
  simp only [claimsOf, List.filter_append, List.map_append]

theorem mem_of_claimsOf {i : ι} {claims : List (ι × α)} {a : α} (h : a ∈ claimsOf i claims) :
    ∃ c ∈ claims, c.2 = a := by
  obtain ⟨c, hc, rfl⟩ := List.mem_map.mp h
  exact ⟨c, (List.mem_filter.mp hc).1, rfl⟩

variable [DecidableEq α]

variable (free many) in
/-- The slots after a claim. -/
def claim (slots : ι → α) (c : ι × α) : ι → α :=
  Function.update slots c.1 (if slots c.1 ≠ free then many else c.2)

/-- What a slot holds after the claims. -/
theorem foldl_claim {claims : List (ι × α)} (hfree : ∀ c ∈ claims, c.2 ≠ free) (hmany : many ≠ free) (i : ι) :
    claims.foldl (claim free many) (fun _ => free) i = outcome free many (claimsOf i claims) := by
  induction claims using List.reverseRecOn with
  | nil => rfl
  | append_singleton claims c ih =>
    have hbefore : ∀ c ∈ claims, c.2 ≠ free := fun c hc => hfree c (List.mem_append_left _ hc)
    have ih := ih hbefore
    rw [List.foldl_append, List.foldl_cons, List.foldl_nil, claim]
    by_cases hi : c.1 = i
    · subst hi
      have hvalues : ∀ a ∈ claimsOf c.1 claims, a ≠ free := by
        intro a ha
        obtain ⟨c', hc', rfl⟩ := mem_of_claimsOf ha
        exact hbefore c' hc'
      have hsplit : claimsOf c.1 (claims ++ [c]) = claimsOf c.1 claims ++ [c.2] := by
        rw [claimsOf_append]
        simp [claimsOf]
      rw [Function.update_self, ih, hsplit, outcome_concat hvalues hmany]
    · have hsplit : claimsOf i (claims ++ [c]) = claimsOf i claims := by
        rw [claimsOf_append]
        simp [claimsOf, hi]
      rw [Function.update_of_ne (Ne.symm hi), ih, hsplit]

end Claims

end Contested
