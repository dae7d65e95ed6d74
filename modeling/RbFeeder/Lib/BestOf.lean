import Mathlib

/-! The best element of a list, in one pass.

A pass keeps the largest value above a floor, the element it belongs to, and whether it
was met again since. What comes of it does not depend on the order of the list
(`select_spec`, `OnlyBest.perm`, `SharedBest.perm`). -/
namespace RbFeeder.BestOf

variable {α β : Type} [LinearOrder β] (score : α → β)

structure Best (α β : Type) where
  value : β
  item : Option α
  tied : Bool

def consider (best : Best α β) (x : α) : Best α β :=
  if best.value < score x then ⟨score x, some x, false⟩
  else if score x = best.value then { best with tied := true }
  else best

def select (floor : β) (xs : List α) : Best α β := xs.foldl (consider score) ⟨floor, none, false⟩

/-! ### What is best -/

/-- No element is above the floor. -/
def NoneAbove (floor : β) (xs : List α) : Prop := ∀ x ∈ xs, score x ≤ floor

/-- The largest value is above the floor, and is that of several elements. -/
structure SharedBest (floor : β) (xs : List α) (value : β) : Prop where
  above : floor < value
  le : ∀ x ∈ xs, score x ≤ value
  several : 2 ≤ xs.countP fun x => score x = value

/-- One element has the largest value, which is above the floor. -/
structure OnlyBest (floor : β) (xs : List α) (x : α) : Prop where
  above : floor < score x
  mem : x ∈ xs
  le : ∀ y ∈ xs, score y ≤ score x
  once : xs.countP (fun y => score y = score x) = 1

variable {score} {floor : β} {xs ys : List α}

theorem NoneAbove.perm (h : NoneAbove score floor xs) (hperm : xs.Perm ys) : NoneAbove score floor ys :=
  fun x hx => h x (hperm.mem_iff.mpr hx)

theorem SharedBest.perm {value : β} (h : SharedBest score floor xs value) (hperm : xs.Perm ys) :
    SharedBest score floor ys value where
  above := h.above
  le x hx := h.le x (hperm.mem_iff.mpr hx)
  several := hperm.countP_eq _ ▸ h.several

theorem OnlyBest.perm {x : α} (h : OnlyBest score floor xs x) (hperm : xs.Perm ys) :
    OnlyBest score floor ys x where
  above := h.above
  mem := hperm.mem_iff.mp h.mem
  le y hy := h.le y (hperm.mem_iff.mpr hy)
  once := hperm.countP_eq _ ▸ h.once

/-- There is no other one. -/
theorem OnlyBest.unique {x y : α} (hx : OnlyBest score floor xs x) (hy : OnlyBest score floor xs y) :
    x = y := by
  have hscore : score y = score x := le_antisymm (hx.le y hy.mem) (hy.le x hx.mem)
  have hfilter := hx.once
  rw [List.countP_eq_length_filter, List.length_eq_one_iff] at hfilter
  obtain ⟨z, hz⟩ := hfilter
  have hmem : ∀ w ∈ xs, score w = score x → w = z := by
    intro w hw hbest
    have hin : w ∈ xs.filter fun y => score y = score x := List.mem_filter.mpr ⟨hw, decide_eq_true hbest⟩
    rw [hz] at hin
    exact List.mem_singleton.mp hin
  rw [hmem x hx.mem rfl, hmem y hy.mem hscore]

theorem NoneAbove.not_only (h : NoneAbove score floor xs) {x : α} : ¬ OnlyBest score floor xs x :=
  fun hx => absurd (h x hx.mem) (not_le.mpr hx.above)

theorem NoneAbove.not_shared (h : NoneAbove score floor xs) {value : β} :
    ¬ SharedBest score floor xs value := by
  intro hshared
  have hpos : 0 < xs.countP fun x => score x = value := Nat.lt_of_lt_of_le (by decide) hshared.several
  obtain ⟨x, hx, hvalue⟩ := List.countP_pos_iff.mp hpos
  have heq : score x = value := of_decide_eq_true hvalue
  exact absurd (heq ▸ h x hx) (not_le.mpr hshared.above)

theorem SharedBest.not_only {value : β} (h : SharedBest score floor xs value) {x : α} :
    ¬ OnlyBest score floor xs x := by
  intro hx
  have hpos : 0 < xs.countP fun x => score x = value := Nat.lt_of_lt_of_le (by decide) h.several
  obtain ⟨y, hy, hvalue⟩ := List.countP_pos_iff.mp hpos
  have heq : score y = value := of_decide_eq_true hvalue
  have hsame : value = score x := le_antisymm (heq ▸ hx.le y hy) (h.le x hx.mem)
  have honce := hx.once
  have hseveral := h.several
  rw [hsame] at hseveral
  omega

/-! ### The pass -/

variable (score) in
/-- What the pass knows after some elements. -/
structure Passed (floor : β) (xs : List α) (best : Best α β) : Prop where
  le : ∀ x ∈ xs, score x ≤ best.value
  nothing : best.item = none → best.value = floor
  above : ∀ x ∈ best.item, floor < best.value ∧ x ∈ xs ∧ score x = best.value
  tied : best.item ≠ none → (best.tied = true ↔ 2 ≤ xs.countP fun y => score y = best.value)

theorem countP_append_singleton (p : α → Bool) (xs : List α) (x : α) :
    (xs ++ [x]).countP p = xs.countP p + if p x then 1 else 0 := by
  rw [List.countP_append, List.countP_singleton]

theorem Passed.floor_le {best : Best α β} (h : Passed score floor xs best) :
    floor ≤ best.value := by
  cases hitem : best.item with
  | none => exact (h.nothing hitem).ge
  | some y => exact (h.above y hitem).1.le

theorem Passed.consider {best : Best α β} (h : Passed score floor xs best) (x : α) :
    Passed score floor (xs ++ [x]) (consider score best x) := by
  have hfloor := h.floor_le
  unfold BestOf.consider
  split
  · next hmore =>
    have hless : ∀ y ∈ xs, score y < score x := fun y hy => (h.le y hy).trans_lt hmore
    refine ⟨fun y hy => ?_, (fun hnone => by cases hnone), fun y hy => ?_, fun _ => ?_⟩
    · obtain hold | hnew := List.mem_append.mp hy
      · exact (hless y hold).le
      · exact (List.mem_singleton.mp hnew ▸ le_refl _)
    · obtain rfl := Option.some.inj hy
      exact ⟨hfloor.trans_lt hmore, List.mem_append_right _ (List.mem_singleton_self x), rfl⟩
    · have hzero : xs.countP (fun y => score y = score x) = 0 :=
        List.countP_eq_zero.mpr fun y hy heq => absurd (of_decide_eq_true heq) (hless y hy).ne
      rw [countP_append_singleton, hzero]
      simp
  · next hnotMore =>
    have hle : score x ≤ best.value := not_lt.mp hnotMore
    have hbound : ∀ y ∈ xs ++ [x], score y ≤ best.value := by
      intro y hy
      obtain hold | hnew := List.mem_append.mp hy
      · exact h.le y hold
      · exact (List.mem_singleton.mp hnew ▸ hle)
    have habove : ∀ y ∈ best.item, floor < best.value ∧ y ∈ xs ++ [x] ∧ score y = best.value := by
      intro y hy
      obtain ⟨hlt, hmem, hvalue⟩ := h.above y hy
      exact ⟨hlt, List.mem_append_left _ hmem, hvalue⟩
    split
    · next heq =>
      refine ⟨hbound, h.nothing, habove, fun hsome => ?_⟩
      obtain ⟨y, hy⟩ := Option.ne_none_iff_exists'.mp hsome
      obtain ⟨-, hmem, hvalue⟩ := h.above y hy
      have hpos : 0 < xs.countP fun y => score y = best.value :=
        List.countP_pos_iff.mpr ⟨y, hmem, decide_eq_true hvalue⟩
      rw [countP_append_singleton, decide_eq_true heq]
      simp only [if_true, true_iff]
      omega
    · next hne =>
      refine ⟨hbound, h.nothing, habove, fun hsome => ?_⟩
      rw [countP_append_singleton, decide_eq_false hne]
      exact h.tied hsome

theorem passed_select (xs : List α) : Passed score floor xs (select score floor xs) := by
  induction xs using List.reverseRecOn with
  | nil => exact ⟨(fun x hx => by cases hx), fun _ => rfl, (fun x hx => by cases hx), fun h => absurd rfl h⟩
  | append_singleton xs x ih =>
    rw [select, List.foldl_append]
    exact ih.consider x

variable (score) in
/-- **What a pass finds.** -/
theorem select_spec (floor : β) (xs : List α) :
    (select score floor xs).item = none ∧ NoneAbove score floor xs ∨
      (∃ x, (select score floor xs).item = some x ∧ (select score floor xs).tied = true ∧
        SharedBest score floor xs (score x)) ∨
      ∃ x, (select score floor xs).item = some x ∧ (select score floor xs).tied = false ∧
        OnlyBest score floor xs x := by
  have hpassed : Passed score floor xs (select score floor xs) := passed_select xs
  generalize select score floor xs = best at hpassed ⊢
  cases hitem : best.item with
  | none =>
    have hvalue := hpassed.nothing hitem
    exact Or.inl ⟨rfl, fun x hx => hvalue ▸ hpassed.le x hx⟩
  | some x =>
    obtain ⟨hlt, hmem, hvalue⟩ := hpassed.above x hitem
    have htied := hpassed.tied (by rw [hitem]; exact Option.some_ne_none x)
    rw [← hvalue] at hlt htied
    have hle : ∀ y ∈ xs, score y ≤ score x := fun y hy => hvalue ▸ hpassed.le y hy
    cases hflag : best.tied with
    | true => exact Or.inr (Or.inl ⟨x, rfl, rfl, hlt, hle, htied.mp hflag⟩)
    | false =>
      refine Or.inr (Or.inr ⟨x, rfl, rfl, hlt, hmem, hle, ?_⟩)
      have hfew : ¬ 2 ≤ xs.countP fun y => score y = score x := by
        intro hseveral
        rw [htied.mpr hseveral] at hflag
        cases hflag
      have hpos : 0 < xs.countP fun y => score y = score x :=
        List.countP_pos_iff.mpr ⟨x, hmem, decide_eq_true rfl⟩
      omega

end RbFeeder.BestOf
