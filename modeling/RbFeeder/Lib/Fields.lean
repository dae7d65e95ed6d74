import Mathlib

/-! Records as functions of the field.

A record of many fields of different types is a function from their names, and a
sequence of updates of single fields is a fold. `foldl_modify` says what the fold
leaves in one field: only the updates of this field count. -/
namespace RbFeeder.Fields

variable {F : Type} [DecidableEq F] {T A : F → Type}

/-- One field changed. -/
def modify (record : (f : F) → T f) (f : F) (change : T f → T f) : (f : F) → T f :=
  Function.update record f (change (record f))

theorem modify_same (record : (f : F) → T f) (f : F) (change : T f → T f) :
    modify record f change f = change (record f) := Function.update_self ..

theorem modify_of_ne (record : (f : F) → T f) {f g : F} (change : T f → T f) (h : g ≠ f) :
    modify record f change g = record g := Function.update_of_ne h ..

theorem modify_self (record : (f : F) → T f) (f : F) : modify record f (fun value => value) = record :=
  Function.update_eq_self f record

/-- The entries for field `f` among the entries for all fields. -/
def entriesOf (f : F) : List (Σ g, A g) → List (A f)
  | [] => []
  | ⟨g, entry⟩ :: rest => if h : g = f then (h ▸ entry) :: entriesOf f rest else entriesOf f rest

/-- A field after a sequence of changes. -/
theorem foldl_modify (change : (f : F) → A f → T f → T f) (entries : List (Σ g, A g))
    (record : (f : F) → T f) (f : F) :
    entries.foldl (fun record entry => modify record entry.1 (change entry.1 entry.2)) record f =
      (entriesOf f entries).foldl (fun value entry => change f entry value) (record f) := by
  induction entries generalizing record with
  | nil => rfl
  | cons entry rest ih =>
    obtain ⟨g, entry⟩ := entry
    rw [List.foldl_cons, ih, entriesOf]
    by_cases h : g = f
    · subst h
      rw [dif_pos rfl, List.foldl_cons, modify_same]
    · rw [dif_neg h, modify_of_ne _ _ (Ne.symm h)]

end RbFeeder.Fields
