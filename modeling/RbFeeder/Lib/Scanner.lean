import Mathlib.Data.List.Basic
import Mathlib.Order.Nat

/-! Scanning a stream for items.

A scanner goes on by one position, or it finds an item and goes on behind the start of
it; what it finds may depend on a state, which the items change. A scan ends at the first
position that is not in front of its border. Up to one border and on to the next is up to
the second (`Scans.append`), so that scans up to any two borders find the same items in
front of both (`Scans.agree`). -/

/-- What is found at a position, where the scan goes on, and the state afterwards. -/
structure Scanner (σ ρ : Type*) where
  find : σ → Nat → Option ρ
  next : Nat → ρ → Nat
  after : σ → ρ → σ
  lt_next : ∀ p item, p < next p item

namespace Scanner
variable {σ ρ : Type*} (m : Scanner σ ρ)

/-- From a position and a state: the items that are found, with their positions, and where it ends. -/
inductive Scans (border : Nat) : Nat → σ → List (Nat × ρ) → Nat → σ → Prop
  | stop {p s} : border ≤ p → Scans border p s [] p s
  | skip {p s items q t} : p < border → m.find s p = none → Scans border (p + 1) s items q t →
      Scans border p s items q t
  | item {p s item items q t} : p < border → m.find s p = some item →
      Scans border (m.next p item) (m.after s item) items q t → Scans border p s ((p, item) :: items) q t

namespace Scans
variable {m} {border border' p q q' : Nat} {s t t' : σ} {xs ys : List (Nat × ρ)}

theorem append (h : m.Scans border p s xs q t) (hle : border ≤ border') (hrest : m.Scans border' q t ys q' t') :
    m.Scans border' p s (xs ++ ys) q' t' := by
  induction h with
  | stop _ => exact hrest
  | skip hlt hfind _ ih => exact .skip (Nat.lt_of_lt_of_le hlt hle) hfind (ih hrest)
  | item hlt hfind _ ih => exact .item (Nat.lt_of_lt_of_le hlt hle) hfind (ih hrest)

theorem unique (h : m.Scans border p s xs q t) (h' : m.Scans border p s ys q' t') :
    xs = ys ∧ q = q' ∧ t = t' := by
  induction h generalizing ys with
  | stop hle =>
    cases h' with
    | stop _ => exact ⟨rfl, rfl, rfl⟩
    | skip hlt _ _ => exact absurd hlt (Nat.not_lt.mpr hle)
    | item hlt _ _ => exact absurd hlt (Nat.not_lt.mpr hle)
  | skip hlt hfind _ ih =>
    cases h' with
    | stop hle => exact absurd hlt (Nat.not_lt.mpr hle)
    | skip _ _ hrest => exact ih hrest
    | item _ hfound _ =>
      rw [hfind] at hfound
      cases hfound
  | item hlt hfind _ ih =>
    cases h' with
    | stop hle => exact absurd hlt (Nat.not_lt.mpr hle)
    | skip _ hnone _ =>
      rw [hfind] at hnone
      cases hnone
    | item _ hfound hrest =>
      rw [hfind] at hfound
      obtain rfl := Option.some.inj hfound
      obtain ⟨rfl, rfl, rfl⟩ := ih hrest
      exact ⟨rfl, rfl, rfl⟩

/-- The items lie between the start and the border, and the scan ends behind the border. -/
theorem between (h : m.Scans border p s xs q t) : border ≤ q ∧ ∀ x ∈ xs, p ≤ x.1 ∧ x.1 < border := by
  induction h with
  | stop hle => exact ⟨hle, fun _ hx => absurd hx List.not_mem_nil⟩
  | skip _ _ _ ih =>
    refine ⟨ih.1, fun x hx => ?_⟩
    obtain ⟨hstart, hend⟩ := ih.2 x hx
    exact ⟨Nat.le_of_succ_le hstart, hend⟩
  | @item p s item _ _ _ hlt _ _ ih =>
    refine ⟨ih.1, fun x hx => ?_⟩
    obtain rfl | hrest := List.mem_cons.mp hx
    · exact ⟨Nat.le_refl p, hlt⟩
    · obtain ⟨hstart, hend⟩ := ih.2 x hrest
      exact ⟨Nat.le_trans (Nat.le_of_lt (m.lt_next p item)) hstart, hend⟩

/-- Each item lies behind where the scan goes on from the ones before. -/
theorem spaced (h : m.Scans border p s xs q t) : xs.Pairwise fun x y => m.next x.1 x.2 ≤ y.1 := by
  induction h with
  | stop _ => exact .nil
  | skip _ _ _ ih => exact ih
  | item _ _ hrest ih => exact .cons (fun y hy => (hrest.between.2 y hy).1) ih

/-- What is found is found by looking. -/
theorem found (h : m.Scans border p s xs q t) : ∀ x ∈ xs, ∃ s', m.find s' x.1 = some x.2 := by
  induction h with
  | stop _ => exact fun x hx => absurd hx List.not_mem_nil
  | skip _ _ _ ih => exact ih
  | @item p s item _ _ _ _ hfind _ ih =>
    intro x hx
    obtain rfl | hrest := List.mem_cons.mp hx
    · exact ⟨s, hfind⟩
    · exact ih x hrest

/-- A position in front of the border is covered by an item from in front of it, or it is looked at. -/
theorem reaches {k : Nat} (h : m.Scans border p s xs q t) (hstart : p ≤ k) (hend : k < border) :
    (∃ x ∈ xs, (∃ s', m.find s' x.1 = some x.2) ∧ x.1 < k ∧ k < m.next x.1 x.2) ∨
      ∃ s', m.find s' k = none ∨ ∃ item, m.find s' k = some item ∧ (k, item) ∈ xs := by
  induction h with
  | stop hle => exact absurd (Nat.le_trans hle hstart) (Nat.not_le.mpr hend)
  | @skip p s _ _ _ _ hfind _ ih =>
    obtain rfl | hlt := Nat.eq_or_lt_of_le hstart
    · exact .inr ⟨s, .inl hfind⟩
    · exact ih hlt
  | @item p s item items _ _ _ hfind _ ih =>
    obtain rfl | hlt := Nat.eq_or_lt_of_le hstart
    · exact .inr ⟨s, .inr ⟨item, hfind, List.mem_cons_self⟩⟩
    · by_cases hnext : k < m.next p item
      · exact .inl ⟨(p, item), List.mem_cons_self, ⟨s, hfind⟩, hlt, hnext⟩
      · obtain ⟨x, hx, hcovered⟩ | ⟨s', hfound⟩ := ih (Nat.not_lt.mp hnext)
        · exact .inl ⟨x, List.mem_cons_of_mem _ hx, hcovered⟩
        · refine .inr ⟨s', hfound.imp_right fun hitem => ?_⟩
          obtain ⟨found, hsome, hmem⟩ := hitem
          exact ⟨found, hsome, List.mem_cons_of_mem _ hmem⟩

/-- Positions at which nothing is found make no difference. -/
theorem quiet (hle : p ≤ q) (hborder : q ≤ border) (hnone : ∀ k, p ≤ k → k < q → m.find s k = none)
    (h : m.Scans border q s xs q' t) : m.Scans border p s xs q' t := by
  induction hle using Nat.decreasingInduction with
  | self => exact h
  | of_succ k hk ih =>
    exact .skip (Nat.lt_of_lt_of_le hk hborder) (hnone k (Nat.le_refl k) hk)
      (ih fun i hi hlt => hnone i (Nat.le_of_succ_le hi) hlt)

end Scans

/-- Every scan ends. -/
theorem scans (border p : Nat) (s : σ) : ∃ xs q t, m.Scans border p s xs q t := by
  by_cases hlt : p < border
  · cases hfind : m.find s p with
    | none =>
      obtain ⟨xs, q, t, hrest⟩ := scans border (p + 1) s
      exact ⟨xs, q, t, .skip hlt hfind hrest⟩
    | some item =>
      have := m.lt_next p item
      obtain ⟨xs, q, t, hrest⟩ := scans border (m.next p item) (m.after s item)
      exact ⟨(p, item) :: xs, q, t, .item hlt hfind hrest⟩
  · exact ⟨[], p, s, .stop (Nat.not_lt.mp hlt)⟩
termination_by border - p

namespace Scans
variable {m} {border border' p q q' : Nat} {s t t' : σ} {xs ys : List (Nat × ρ)}

/-- What is found in front of a border, by a scan that goes on behind it. -/
theorem filter_lt (hle : border ≤ border') (h : m.Scans border p s xs q t) (h' : m.Scans border' p s ys q' t') :
    ys.filter (fun x => x.1 < border) = xs := by
  obtain ⟨more, r, u, hmore⟩ := m.scans border' q t
  obtain ⟨rfl, -, -⟩ := h'.unique (h.append hle hmore)
  have hfront : xs.filter (fun x => x.1 < border) = xs :=
    List.filter_eq_self.mpr fun x hx => decide_eq_true (h.between.2 x hx).2
  have hbehind : more.filter (fun x => x.1 < border) = [] :=
    List.filter_eq_nil_iff.mpr fun x hx hlt =>
      absurd (of_decide_eq_true hlt) (Nat.not_lt.mpr (Nat.le_trans h.between.1 (hmore.between.2 x hx).1))
  rw [List.filter_append, hfront, hbehind, List.append_nil]

/-- In front of both borders two scans find the same. -/
theorem agree (h : m.Scans border p s xs q t) (h' : m.Scans border' p s ys q' t') :
    xs.filter (fun x => x.1 < min border border') = ys.filter (fun x => x.1 < min border border') := by
  obtain ⟨zs, r, u, hmin⟩ := m.scans (min border border') p s
  rw [hmin.filter_lt (Nat.min_le_left _ _) h, hmin.filter_lt (Nat.min_le_right _ _) h']

end Scans

end Scanner
