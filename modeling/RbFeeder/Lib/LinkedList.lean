import Mathlib

/-! Singly linked lists.

`next` gives each node's link. `IsList next head xs` says that the list which starts
at `head` consists of the nodes `xs`, in this order, and ends there. Writing a node's
link leaves every list alone that the node is not in (`IsList.update`), and the ways in
which lists are changed (a node pushed, the first one popped, one appended, one taken
out) have the effect they should. -/
namespace LinkedList
variable {κ : Type*}

/-- The nodes from `head` on. -/
def IsList (next : κ → Option κ) : Option κ → List κ → Prop
  | head, [] => head = none
  | head, x :: xs => head = some x ∧ IsList next (next x) xs

section
variable {next : κ → Option κ} {head : Option κ} {xs ys : List κ} {x y : κ}

@[simp] theorem isList_nil : IsList next head [] ↔ head = none := Iff.rfl

theorem IsList.head_eq (h : IsList next head xs) : head = xs.head? := by
  cases xs with
  | nil => exact h
  | cons x xs => exact h.1

/-- Where a list starts decides what is in it. -/
theorem IsList.unique (h : IsList next head xs) (h' : IsList next head ys) : xs = ys := by
  induction xs generalizing head ys with
  | nil =>
    cases ys with
    | nil => rfl
    | cons y ys => exact absurd (h.symm.trans h'.1) (by simp)
  | cons x xs ih =>
    cases ys with
    | nil => exact absurd (h.1.symm.trans h') (by simp)
    | cons y ys =>
      obtain rfl := Option.some.inj (h.1.symm.trans h'.1)
      rw [ih h.2 h'.2]

theorem IsList.of_some (h : IsList next (some x) xs) : ∃ ys, xs = x :: ys ∧ IsList next (next x) ys := by
  cases xs with
  | nil => exact absurd h (by simp)
  | cons y ys =>
    obtain ⟨hy, hys⟩ := h
    obtain rfl := Option.some.inj hy
    exact ⟨ys, rfl, hys⟩

theorem IsList.next_eq (h : IsList next head (xs ++ x :: ys)) : next x = ys.head? := by
  induction xs generalizing head with
  | nil => exact h.2.head_eq
  | cons a xs ih => exact ih h.2

variable [DecidableEq κ] {z : Option κ}

/-- A list does not see the links of other nodes. -/
theorem IsList.update (h : IsList next head xs) (hy : y ∉ xs) :
    IsList (Function.update next y z) head xs := by
  induction xs generalizing head with
  | nil => exact h
  | cons x xs ih =>
    have hne : x ≠ y := fun heq => hy (heq ▸ List.mem_cons_self)
    refine ⟨h.1, ?_⟩
    rw [Function.update_of_ne hne]
    exact ih h.2 fun hmem => hy (List.mem_cons_of_mem x hmem)

/-- A node put in front. -/
theorem IsList.push (h : IsList next head xs) (hy : y ∉ xs) :
    IsList (Function.update next y head) (some y) (y :: xs) := by
  refine ⟨rfl, ?_⟩
  rw [Function.update_self]
  exact h.update hy

/-- A node put behind the last one. -/
theorem IsList.concat (h : IsList next head (xs ++ [x])) (hnodup : (xs ++ [x]).Nodup)
    (hy : y ∉ xs ++ [x]) (hend : next y = none) :
    IsList (Function.update next x (some y)) head (xs ++ [x] ++ [y]) := by
  induction xs generalizing head with
  | nil =>
    have hne : y ≠ x := fun heq => hy (by simp [heq])
    refine ⟨h.1, ?_⟩
    rw [Function.update_self]
    refine ⟨rfl, ?_⟩
    rw [Function.update_of_ne hne]
    exact hend
  | cons a xs ih =>
    have hne : a ≠ x := fun heq =>
      (List.nodup_cons.mp hnodup).1 (List.mem_append_right xs (by simp [heq]))
    refine ⟨h.1, ?_⟩
    rw [Function.update_of_ne hne]
    exact ih h.2 (List.nodup_cons.mp hnodup).2 fun hmem => hy (List.mem_cons_of_mem a hmem)

/-- The node behind `x` taken out. -/
theorem IsList.unlink {ys : List κ} (h : IsList next head (xs ++ x :: y :: ys))
    (hnodup : (xs ++ x :: y :: ys).Nodup) :
    IsList (Function.update next x (next y)) head (xs ++ x :: ys) := by
  induction xs generalizing head with
  | nil =>
    obtain ⟨hhead, -, hrest⟩ := h
    have hx : x ∉ ys := fun hmem => (List.nodup_cons.mp hnodup).1 (List.mem_cons_of_mem y hmem)
    refine ⟨hhead, ?_⟩
    rw [Function.update_self]
    exact hrest.update hx
  | cons a xs ih =>
    have hne : a ≠ x := fun heq => (List.nodup_cons.mp hnodup).1 (by simp [heq])
    refine ⟨h.1, ?_⟩
    rw [Function.update_of_ne hne]
    exact ih h.2 (List.nodup_cons.mp hnodup).2

end

end LinkedList
