import Mathlib

/-! Feeding a stream to a consumer that works in periods.

A period is `size` items long. The items of a period may arrive in any number of pieces
(`piece`), and something is done when the last of them is in (`finish`). If a piece can
itself be cut, the whole stream can (`feed_append`); from the start of a period, the items
fill whole periods and a rest (`feed_start`). -/
namespace RbFeeder.Periods

/-- A place inside a period: how many items of it are still to come, at least one. -/
@[ext]
structure Place (size : ℕ) where
  remaining : ℕ
  pos : 0 < remaining
  le : remaining ≤ size
deriving DecidableEq

variable {size : ℕ}

def Place.start (hsize : 0 < size) : Place size := ⟨size, hsize, Nat.le_refl size⟩

theorem Place.advance_le (p : Place size) (n : ℕ) : p.remaining - n ≤ size :=
  (Nat.sub_le _ _).trans p.le

/-- Further on, by less than what remains. -/
def Place.advance (p : Place size) (n : ℕ) (h : n < p.remaining) : Place size :=
  ⟨p.remaining - n, Nat.sub_pos_of_lt h, p.advance_le n⟩

@[simp] theorem Place.start_remaining (hsize : 0 < size) : (Place.start hsize).remaining = size := rfl

@[simp] theorem Place.advance_remaining (p : Place size) (n : ℕ) (h : n < p.remaining) :
    (p.advance n h).remaining = p.remaining - n := rfl

section Feed
variable {σ α : Type} (hsize : 0 < size) (piece : σ → List α → σ) (finish : σ → σ)

/-- Complete periods as long as the items reach, then take in the rest. -/
def feed (s : σ) (p : Place size) (xs : List α) : σ × Place size :=
  if h : xs.length < p.remaining then (piece s xs, p.advance xs.length h)
  else feed (finish (piece s (xs.take p.remaining))) (.start hsize) (xs.drop p.remaining)
termination_by xs.length
decreasing_by
  have := p.pos
  simp only [List.length_drop]
  omega

variable {hsize piece finish}

theorem feed_of_lt {s : σ} {p : Place size} {xs : List α} (h : xs.length < p.remaining) :
    feed hsize piece finish s p xs = (piece s xs, p.advance xs.length h) := by
  rw [feed, dif_pos h]

theorem feed_of_le {s : σ} {p : Place size} {xs : List α} (h : p.remaining ≤ xs.length) :
    feed hsize piece finish s p xs =
      feed hsize piece finish (finish (piece s (xs.take p.remaining))) (.start hsize) (xs.drop p.remaining) := by
  rw [feed, dif_neg (Nat.not_lt.mpr h)]

/-- What pieces and ends of periods preserve, a stream preserves. -/
theorem feed_invariant {I : σ → Place size → Prop}
    (hpiece : ∀ s p xs, I s p → ∀ h : xs.length < p.remaining, I (piece s xs) (p.advance xs.length h))
    (hfinish : ∀ s p xs, I s p → xs.length = p.remaining → I (finish (piece s xs)) (.start hsize))
    {s : σ} {p : Place size} (hs : I s p) (xs : List α) :
    I (feed hsize piece finish s p xs).1 (feed hsize piece finish s p xs).2 := by
  induction s, p, xs using feed.induct hsize piece finish with
  | case1 s p xs h =>
    rw [feed_of_lt h]
    exact hpiece s p xs hs h
  | case2 s p xs h ih =>
    rw [feed_of_le (Nat.not_lt.mp h)]
    exact ih (hfinish s p _ hs (List.length_take_of_le (Nat.not_lt.mp h)))

/-- **A stream can be cut anywhere**, if the pieces can. -/
theorem feed_append (hcut : ∀ s xs ys, piece s (xs ++ ys) = piece (piece s xs) ys) (s : σ) (p : Place size)
    (xs ys : List α) :
    feed hsize piece finish s p (xs ++ ys) =
      feed hsize piece finish (feed hsize piece finish s p xs).1 (feed hsize piece finish s p xs).2 ys := by
  induction s, p, xs using feed.induct hsize piece finish with
  | case1 s p xs h =>
    rw [feed_of_lt h]
    by_cases hall : ys.length < p.remaining - xs.length
    · have hfits : (xs ++ ys).length < p.remaining := by rw [List.length_append]; omega
      rw [feed_of_lt hfits, feed_of_lt (p := p.advance _ h) hall, hcut]
      refine Prod.ext rfl (Place.ext ?_)
      show p.remaining - (xs ++ ys).length = p.remaining - xs.length - ys.length
      rw [List.length_append, Nat.sub_sub]
    · have hover : p.remaining ≤ (xs ++ ys).length := by rw [List.length_append]; omega
      rw [feed_of_le hover, feed_of_le (p := p.advance _ h) (Nat.not_lt.mp hall),
        List.take_append, List.drop_append, List.take_of_length_le h.le, List.drop_of_length_le h.le, hcut,
        List.nil_append, Place.advance_remaining]
  | case2 s p xs h ih =>
    have hle := Nat.not_lt.mp h
    have hover : p.remaining ≤ (xs ++ ys).length := by rw [List.length_append]; omega
    rw [feed_of_le hle, feed_of_le hover, List.take_append_of_le_length hle, List.drop_append_of_le_length hle, ih]

/-! ### Whole periods -/

/-- Take in `n` whole periods. -/
def whole (size : ℕ) (piece : σ → List α → σ) (finish : σ → σ) : ℕ → σ → List α → σ
  | 0, s, _ => s
  | n + 1, s, xs => whole size piece finish n (finish (piece s (xs.take size))) (xs.drop size)

theorem sub_whole_lt (hsize : 0 < size) (n : ℕ) : n - n / size * size < size := by
  have := Nat.mod_lt n hsize
  have := Nat.div_add_mod' n size
  omega

theorem rest_lt (hsize : 0 < size) (xs : List α) : (xs.drop (xs.length / size * size)).length < size := by
  rw [List.length_drop]
  exact sub_whole_lt hsize _

theorem feed_whole (n : ℕ) (s : σ) (xs : List α) (hn : xs.length / size = n)
    (hrest : (xs.drop (n * size)).length < size) :
    feed hsize piece finish s (.start hsize) xs =
      (piece (whole size piece finish n s xs) (xs.drop (n * size)), (Place.start hsize).advance _ hrest) := by
  induction n generalizing s xs with
  | zero =>
    have hlt : xs.length < size := (Nat.div_eq_zero_iff_lt hsize).mp hn
    rw [feed_of_lt (p := .start hsize) hlt, whole]
    simp only [Nat.zero_mul, List.drop_zero]
  | succ n ih =>
    have hle : size ≤ xs.length := by
      by_contra hlt
      rw [Nat.div_eq_of_lt (by omega)] at hn
      omega
    have hdiv : (xs.drop size).length / size = n := by
      have := Nat.div_eq_sub_div hsize hle
      rw [List.length_drop]
      omega
    have hdrop : (xs.drop size).drop (n * size) = xs.drop ((n + 1) * size) := by
      rw [List.drop_drop, Nat.succ_mul, Nat.add_comm]
    rw [feed_of_le (p := .start hsize) hle, Place.start_remaining, ih _ _ hdiv (hdrop ▸ hrest), whole]
    simp only [hdrop]

/-- From the start of a period: the whole periods, and the rest. -/
theorem feed_start (s : σ) (xs : List α) :
    feed hsize piece finish s (.start hsize) xs =
      (piece (whole size piece finish (xs.length / size) s xs) (xs.drop (xs.length / size * size)),
        (Place.start hsize).advance _ (rest_lt hsize xs)) :=
  feed_whole _ s xs rfl (rest_lt hsize xs)

/-- The place moves on by the number of items, whole periods apart. -/
theorem feed_place (s : σ) (p : Place size) (xs : List α) :
    (size : ℤ) ∣ (feed hsize piece finish s p xs).2.remaining - (p.remaining - xs.length : ℤ) := by
  induction s, p, xs using feed.induct hsize piece finish with
  | case1 s p xs h =>
    rw [feed_of_lt h, Place.advance_remaining, Nat.cast_sub h.le, sub_self]
    exact dvd_zero _
  | case2 s p xs h ih =>
    have hle := Nat.not_lt.mp h
    rw [feed_of_le hle]
    rw [List.length_drop, Nat.cast_sub hle, Place.start_remaining] at ih
    have hsplit : ∀ r : ℤ, r - (p.remaining - xs.length : ℤ) = (r - (size - (xs.length - p.remaining))) + size :=
      fun r => by ring
    rw [hsplit]
    exact dvd_add ih (dvd_refl _)

variable (hsize) in
/-- Two consumers that a relation keeps together, on items that are related one by one. -/
theorem feed_simulation {τ β : Type} {piece' : τ → List β → τ} {finish' : τ → τ} {R : σ → τ → Prop} {Q : α → β → Prop}
    (hpiece : ∀ s t xs ys, R s t → List.Forall₂ Q xs ys → R (piece s xs) (piece' t ys))
    (hfinish : ∀ s t, R s t → R (finish s) (finish' t)) {s : σ} {t : τ} {p : Place size} (h : R s t)
    {xs : List α} {ys : List β} (hitems : List.Forall₂ Q xs ys) :
    R (feed hsize piece finish s p xs).1 (feed hsize piece' finish' t p ys).1 ∧
      (feed hsize piece finish s p xs).2 = (feed hsize piece' finish' t p ys).2 := by
  have hlen := hitems.length_eq
  induction s, p, xs using feed.induct hsize piece finish generalizing t ys with
  | case1 s p xs hlt =>
    rw [feed_of_lt hlt, feed_of_lt (hlen ▸ hlt)]
    exact ⟨hpiece s t xs ys h hitems, Place.ext (by simp only [Place.advance_remaining, hlen])⟩
  | case2 s p xs hlt ih =>
    have hle := Nat.not_lt.mp hlt
    have hle' : p.remaining ≤ ys.length := hlen ▸ hle
    rw [feed_of_le hle, feed_of_le hle']
    have hrest := List.forall₂_drop p.remaining hitems
    exact ih (hfinish _ _ (hpiece _ _ _ _ h (List.forall₂_take p.remaining hitems))) hrest hrest.length_eq

end Feed

end RbFeeder.Periods
