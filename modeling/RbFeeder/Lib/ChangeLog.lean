import Mathlib

/-! Writing on change.

A value is written if it is not the last one of its key, which is then kept. What is written
for a key are the values of that key without repetitions (`valuesOf_written`), and the last
one written is the last one (`last_offerAll`), whatever was offered for the other keys. -/
namespace ChangeLog
variable {κ α : Type*} [DecidableEq κ] [DecidableEq α]

/-- What is kept, and what was written. -/
structure Log (κ α : Type*) where
  last : κ → α
  written : List (κ × α)

def Log.offer (s : Log κ α) (o : κ × α) : Log κ α :=
  if o.2 ≠ s.last o.1 then ⟨Function.update s.last o.1 o.2, s.written ++ [o]⟩ else s

def Log.offerAll (s : Log κ α) (offers : List (κ × α)) : Log κ α := offers.foldl Log.offer s

/-- The values of a key. -/
def valuesOf (k : κ) (offers : List (κ × α)) : List α := offers.filterMap fun o => if o.1 = k then some o.2 else none

/-- The values that differ from the one in front of them. -/
def changes (last : α) (xs : List α) : List α := (xs.destutter' (· ≠ ·) last).tail

theorem changes_cons (last x : α) (xs : List α) :
    changes last (x :: xs) = if x ≠ last then x :: changes x xs else changes last xs := by
  have hhead : xs.destutter' (· ≠ ·) x = x :: changes x xs := by
    rw [changes]
    induction xs generalizing x with
    | nil => rfl
    | cons y xs ih =>
      by_cases hne : x ≠ y
      · rw [List.destutter'_cons_pos _ hne, List.tail_cons]
      · rw [List.destutter'_cons_neg _ hne]
        exact ih x
  by_cases hne : x ≠ last
  · rw [if_pos hne, changes, List.destutter'_cons_pos _ hne.symm, List.tail_cons, hhead]
  · rw [if_neg hne, changes, List.destutter'_cons_neg _ fun h => hne h.symm, changes]

omit [DecidableEq α] in
theorem valuesOf_append (k : κ) (a b : List (κ × α)) : valuesOf k (a ++ b) = valuesOf k a ++ valuesOf k b :=
  List.filterMap_append

section Offer
variable (s : Log κ α) {k : κ} (o : κ × α)

/-- An offer for another key. -/
theorem offer_other (hne : o.1 ≠ k) :
    (s.offer o).last k = s.last k ∧ valuesOf k (s.offer o).written = valuesOf k s.written := by
  rw [Log.offer]
  split
  · refine ⟨Function.update_of_ne hne.symm .., ?_⟩
    rw [valuesOf_append]
    have hnone : valuesOf k [o] = [] := by simp [valuesOf, hne]
    rw [hnone, List.append_nil]
  · exact ⟨rfl, rfl⟩

/-- An offer for the key. -/
theorem offer_self (heq : o.1 = k) :
    (s.offer o).last k = o.2 ∧
      valuesOf k (s.offer o).written = valuesOf k s.written ++ if o.2 ≠ s.last k then [o.2] else [] := by
  subst heq
  rw [Log.offer]
  by_cases hne : o.2 ≠ s.last o.1
  · rw [if_pos hne, if_pos hne]
    refine ⟨Function.update_self .., ?_⟩
    rw [valuesOf_append]
    simp [valuesOf]
  · rw [if_neg hne, if_neg hne, List.append_nil]
    exact ⟨(not_ne_iff.mp hne).symm, rfl⟩

end Offer

/-- **The writes for a key.** -/
theorem valuesOf_written (s : Log κ α) (k : κ) (offers : List (κ × α)) :
    valuesOf k (s.offerAll offers).written = valuesOf k s.written ++ changes (s.last k) (valuesOf k offers) := by
  induction offers generalizing s with
  | nil => exact (List.append_nil _).symm
  | cons o offers ih =>
    refine (ih (s.offer o)).trans ?_
    by_cases heq : o.1 = k
    · obtain ⟨hlast, hwritten⟩ := offer_self s o heq
      have hvalues : valuesOf k (o :: offers) = o.2 :: valuesOf k offers := by simp [valuesOf, heq]
      rw [hlast, hwritten, hvalues, changes_cons, List.append_assoc]
      by_cases hne : o.2 ≠ s.last k
      · rw [if_pos hne, if_pos hne, List.singleton_append]
      · rw [if_neg hne, if_neg hne, List.nil_append, not_ne_iff.mp hne]
    · obtain ⟨hlast, hwritten⟩ := offer_other s o heq
      have hvalues : valuesOf k (o :: offers) = valuesOf k offers := by simp [valuesOf, heq]
      rw [hlast, hwritten, hvalues]

/-- The last value that is written is the last one, and none is written only while all are the first one. -/
theorem getLastD_changes (last : α) (xs : List α) : (changes last xs).getLastD last = xs.getLastD last := by
  induction xs generalizing last with
  | nil => rfl
  | cons x xs ih =>
    rw [changes_cons, List.getLastD_cons]
    by_cases hne : x ≠ last
    · rw [if_pos hne, List.getLastD_cons, ih]
    · rw [if_neg hne, not_ne_iff.mp hne, ih]

end ChangeLog
