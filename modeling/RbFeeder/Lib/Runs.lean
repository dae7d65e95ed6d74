import Mathlib

/-! Runs of a step function that can fail.

A run takes its steps one after the other and ends with the first failure
(`Runs.run`). `Along` says of a run that every step it gets to is taken in a state
that meets a condition. If an invariant is preserved and makes the condition the
exact one for a step to succeed, then a run succeeds exactly if the condition is
met all along it (`run_ok_iff`). -/
namespace Runs
variable {σ α ε : Type*}

theorem map_ok {β : Type*} {x : Except ε α} {f : α → β} {b : β} :
    x.map f = .ok b ↔ ∃ a, x = .ok a ∧ f a = b := by
  cases x <;> simp [Except.map]

theorem exists_map_ok {β : Type*} {x : Except ε α} {f : α → β} :
    (∃ b, x.map f = .ok b) ↔ ∃ a, x = .ok a := by
  cases x <;> simp [Except.map]

/-- The first failure ends the run. -/
def run (step : σ → α → Except ε σ) (s : σ) : List α → Except ε σ
  | [] => .ok s
  | a :: as =>
    match step s a with
    | .ok s => run step s as
    | .error e => .error e

/-- Every step the run gets to meets `P`, in the state it is taken in. -/
def Along (step : σ → α → Except ε σ) (P : σ → α → Prop) (s : σ) : List α → Prop
  | [] => True
  | a :: as => P s a ∧ ∀ s', step s a = .ok s' → Along step P s' as

section
variable {step : σ → α → Except ε σ}

theorem run_cons_ok {s s' : σ} {a : α} {as : List α} :
    run step s (a :: as) = .ok s' ↔ ∃ s₁, step s a = .ok s₁ ∧ run step s₁ as = .ok s' := by
  cases h : step s a <;> simp [run, h]

theorem run_append (s : σ) (as bs : List α) :
    run step s (as ++ bs) = (run step s as).bind fun s => run step s bs := by
  induction as generalizing s with
  | nil => rfl
  | cons a as ih =>
    rw [List.cons_append]
    cases h : step s a with
    | error e => simp only [run, h]; rfl
    | ok s₁ => simp only [run, h, ih]

/-- What one step preserves, a run preserves. -/
theorem run_invariant {I : σ → Prop} (hstep : ∀ s a s', I s → step s a = .ok s' → I s')
    {s s' : σ} {as : List α} (hs : I s) (h : run step s as = .ok s') : I s' := by
  induction as generalizing s with
  | nil => cases h; exact hs
  | cons a as ih =>
    obtain ⟨s₁, h₁, h⟩ := run_cons_ok.mp h
    exact ih (hstep s a s₁ hs h₁) h

/-- What the failure of one step is, the failure of a run is. -/
theorem run_error {I : σ → Prop} {F : ε → Prop} (hstep : ∀ s a s', I s → step s a = .ok s' → I s')
    (hfail : ∀ s a e, I s → step s a = .error e → F e) {s : σ} {as : List α} {e : ε} (hs : I s)
    (h : run step s as = .error e) : F e := by
  induction as generalizing s with
  | nil => exact absurd h (by simp [run])
  | cons a as ih =>
    cases hfirst : step s a with
    | error e' =>
      simp only [run, hfirst, Except.error.injEq] at h
      exact h ▸ hfail s a e' hs hfirst
    | ok s₁ =>
      simp only [run, hfirst] at h
      exact ih (hstep s a s₁ hs hfirst) h

/-- If no step fails where the invariant holds, no run does. -/
theorem run_total {I : σ → Prop} (hstep : ∀ s a, I s → ∃ s', step s a = .ok s' ∧ I s') {s : σ} (hs : I s)
    (as : List α) : ∃ s', run step s as = .ok s' ∧ I s' := by
  induction as generalizing s with
  | nil => exact ⟨s, rfl, hs⟩
  | cons a as ih =>
    obtain ⟨s₁, h₁, hs₁⟩ := hstep s a hs
    obtain ⟨s', h, hs'⟩ := ih hs₁
    exact ⟨s', run_cons_ok.mpr ⟨s₁, h₁, h⟩, hs'⟩

/-- **When a run succeeds.** -/
theorem run_ok_iff {I : σ → Prop} {P : σ → α → Prop}
    (hstep : ∀ s a s', I s → step s a = .ok s' → I s')
    (hok : ∀ s a, I s → ((∃ s', step s a = .ok s') ↔ P s a)) {s : σ} (as : List α) (hs : I s) :
    (∃ s', run step s as = .ok s') ↔ Along step P s as := by
  induction as generalizing s with
  | nil => exact ⟨fun _ => trivial, fun _ => ⟨s, rfl⟩⟩
  | cons a as ih =>
    constructor
    · intro hgiven
      obtain ⟨s', h⟩ := hgiven
      obtain ⟨s₁, h₁, h⟩ := run_cons_ok.mp h
      refine ⟨(hok s a hs).mp ⟨s₁, h₁⟩, fun s₂ h₂ => ?_⟩
      obtain rfl : s₁ = s₂ := Except.ok.inj (h₁.symm.trans h₂)
      exact (ih (hstep s a s₁ hs h₁)).mp ⟨s', h⟩
    · intro hgiven
      obtain ⟨hP, hrest⟩ := hgiven
      obtain ⟨s₁, h₁⟩ := (hok s a hs).mpr hP
      obtain ⟨s', h⟩ := (ih (hstep s a s₁ hs h₁)).mpr (hrest s₁ h₁)
      exact ⟨s', run_cons_ok.mpr ⟨s₁, h₁, h⟩⟩

end

end Runs
