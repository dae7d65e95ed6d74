import Mathlib

/-! Coordinates on a grid of zones.

A coordinate `x` counts zones, each with `N` grid points; the nearest grid point is
`point N x`, and what is sent of it is its place within the zone, `word N x`. The zone
is lost. It can be found again from a second grid over the same circle with one zone
less (`index_mod_high`, `index_mod_low`), or from a coordinate that is known to be
nearby (`nearest_eq`). The last section brings an angle into a given turn. -/
namespace Grid
variable {K : Type*} [Field K] [LinearOrder K] [IsStrictOrderedRing K] [FloorRing K]

/-- The nearest grid point. -/
def point (N : ℕ) (x : K) : ℤ := round (N * x)

/-- Its place within the zone. -/
def word (N : ℕ) (x : K) : ℤ := point N x % N

section
variable {N : ℕ}

theorem floor_fract_eq (N : ℕ) (x : K) :
    ⌊(N : K) * Int.fract x + 1 / 2⌋ = point N x - N * ⌊x⌋ := by
  have hx : (N : K) * Int.fract x + 1 / 2 = (N * x + 1 / 2) - ((N * ⌊x⌋ : ℤ) : K) := by
    rw [Int.fract]
    push_cast
    ring
  rw [hx, Int.floor_sub_intCast, point, round_eq]

/-- The word may as well be taken of the fraction of a zone. -/
theorem word_eq (N : ℕ) (x : K) : ⌊(N : K) * Int.fract x + 1 / 2⌋ % (N : ℤ) = word N x := by
  rw [floor_fract_eq, word, Int.sub_mul_emod_self_left]

omit [IsStrictOrderedRing K] in
theorem word_nonneg (hN : 0 < N) (x : K) : 0 ≤ word N x :=
  Int.emod_nonneg _ (by exact_mod_cast hN.ne')

omit [IsStrictOrderedRing K] in
theorem word_lt (hN : 0 < N) (x : K) : word N x < N :=
  Int.emod_lt_of_pos _ (by exact_mod_cast hN)

/-- A grid point is its zone and its word. -/
theorem zone_add_word (hN : 0 < N) (x : K) :
    ((point N x / N : ℤ) : K) + (word N x : K) / N = (point N x : K) / N := by
  have hN' : (N : K) ≠ 0 := by exact_mod_cast hN.ne'
  have hsplit : (N : K) * ((point N x / N : ℤ) : K) + (word N x : K) = (point N x : K) := by
    have := Int.mul_ediv_add_emod (point N x) N
    rw [word]
    exact_mod_cast this
  field_simp
  linarith

theorem abs_point_sub_le (N : ℕ) (x : K) : |(point N x : K) - N * x| ≤ 1 / 2 := by
  rw [abs_sub_comm]
  exact abs_sub_round _

/-- A grid point is at most half a step away. -/
theorem abs_point_div_sub_le (hN : 0 < N) (x : K) : |(point N x : K) / N - x| ≤ 1 / (2 * N) := by
  have hN' : (0 : K) < N := by exact_mod_cast hN
  have hx : (point N x : K) / N - x = (point N x - N * x) / N := by
    field_simp
  rw [hx, abs_div, abs_of_pos hN', div_le_div_iff₀ hN' (by positivity)]
  calc |(point N x : K) - N * x| * (2 * N) ≤ 1 / 2 * (2 * N) :=
        mul_le_mul_of_nonneg_right (abs_point_sub_le N x) (by positivity)
    _ = 1 * N := by ring

/-- A grid that has a point at `b` has no nearest point beyond it. -/
theorem point_le {x : K} {b : ℤ} (h : N * x ≤ b) : point N x ≤ b := by
  rw [point, round_eq, Int.floor_le_iff]
  linarith

theorem le_point {x : K} {b : ℤ} (h : (b : K) ≤ N * x) : b ≤ point N x := by
  rw [point, round_eq, Int.le_floor]
  linarith

/-! ### Two grids -/

/-- What the words of the grids with `a` and `b` zones differ by. -/
def index (N : ℕ) (a b : ℤ) (u : K) : ℤ :=
  ⌊((b * word N (a * u) - a * word N (b * u) : ℤ) : K) / N + 1 / 2⌋

/-- What `b` and `a` times the grid points differ by is the error of two roundings. -/
theorem abs_points_le {a b : ℤ} (ha : 0 ≤ a) (hb : 0 ≤ b) (u : K) :
    |((b * point N (a * u) - a * point N (b * u) : ℤ) : K)| ≤ (a + b) / 2 := by
  have ha' : (0 : K) ≤ a := by exact_mod_cast ha
  have hb' : (0 : K) ≤ b := by exact_mod_cast hb
  have hX := abs_le.mp (abs_point_sub_le N ((a : K) * u))
  have hY := abs_le.mp (abs_point_sub_le N ((b : K) * u))
  have hsum : ((b * point N (a * u) - a * point N (b * u) : ℤ) : K) =
      b * (point N (a * u) - N * (a * u)) - a * (point N (b * u) - N * (b * u)) := by
    push_cast
    ring
  rw [hsum, abs_le]
  have hX₁ := mul_le_mul_of_nonneg_left hX.1 hb'
  have hX₂ := mul_le_mul_of_nonneg_left hX.2 hb'
  have hY₁ := mul_le_mul_of_nonneg_left hY.1 ha'
  have hY₂ := mul_le_mul_of_nonneg_left hY.2 ha'
  constructor <;> linarith

/-- The error does not reach half a zone. -/
theorem index_eq {a b : ℤ} (ha : 0 ≤ a) (hb : 0 ≤ b) (hab : a + b < N) (u : K) :
    index N a b u = a * (point N (b * u) / N) - b * (point N (a * u) / N) := by
  have hN : (0 : K) < N := by
    have : (0 : ℤ) < N := by omega
    exact_mod_cast this
  have hab' : (a : K) + b < N := by exact_mod_cast hab
  have herror := abs_le.mp (abs_points_le (N := N) ha hb u)
  set e : ℤ := b * point N (a * u) - a * point N (b * u) with he
  set t : ℤ := a * (point N (b * u) / N) - b * (point N (a * u) / N) with ht
  have hwords : b * word N ((a : K) * u) - a * word N ((b : K) * u) = e + N * t := by
    rw [word, word, Int.emod_def, Int.emod_def, he, ht]
    ring
  have hquotient : ((e + N * t : ℤ) : K) / N + 1 / 2 = (e : K) / N + 1 / 2 + t := by
    push_cast
    field_simp
    ring
  have hsmall : ⌊(e : K) / N + 1 / 2⌋ = 0 := by
    rw [Int.floor_eq_zero_iff]
    constructor
    · have : -(1 / 2 : K) ≤ e / N := by
        rw [le_div_iff₀ hN]
        linarith
      linarith
    · have : (e : K) / N < 1 / 2 := by
        rw [div_lt_iff₀ hN]
        linarith
      linarith
  rw [index, hwords, hquotient, Int.floor_add_intCast, hsmall, zero_add]

theorem index_mod_high {b : ℤ} (hb : 0 ≤ b) (hN : b + 1 + b < N) (u : K) :
    index N (b + 1) b u % (b + 1) = (point N ((b + 1 : ℤ) * u) / N) % (b + 1) := by
  rw [index_eq (by omega) hb hN]
  have : ∀ k₁ k₀ : ℤ, (b + 1) * k₁ - b * k₀ = k₀ + (b + 1) * (k₁ - k₀) := fun k₁ k₀ => by ring
  rw [this, Int.add_mul_emod_self_left]

theorem index_mod_low {b : ℤ} (hb : 0 ≤ b) (hN : b + 1 + b < N) (u : K) :
    index N (b + 1) b u % b = (point N (b * u) / N) % b := by
  rw [index_eq (by omega) hb hN]
  have : ∀ k₁ k₀ : ℤ, (b + 1) * k₁ - b * k₀ = k₁ + b * (k₁ - k₀) := fun k₁ k₀ => by ring
  rw [this, Int.add_mul_emod_self_left]

end

/-! ### Near a coordinate -/

/-- The zone that brings the fraction `y` nearest to `r`. -/
theorem nearest_mem (r y : K) :
    r - 1 / 2 < (⌊r⌋ + ⌊1 / 2 + Int.fract r - y⌋ : ℤ) + y ∧
      (⌊r⌋ + ⌊1 / 2 + Int.fract r - y⌋ : ℤ) + y ≤ r + 1 / 2 := by
  have hle := Int.floor_le (1 / 2 + Int.fract r - y)
  have hlt := Int.lt_floor_add_one (1 / 2 + Int.fract r - y)
  have hr := Int.floor_add_fract r
  push_cast
  constructor
  · linarith
  · linarith

theorem nearest_eq {r y : K} {k : ℤ} (hlt : r - 1 / 2 < k + y) (hle : k + y ≤ r + 1 / 2) :
    ⌊r⌋ + ⌊1 / 2 + Int.fract r - y⌋ = k := by
  obtain ⟨hlt', hle'⟩ := nearest_mem r y
  have h₁ : ((⌊r⌋ + ⌊1 / 2 + Int.fract r - y⌋ : ℤ) : K) < (k + 1 : ℤ) := by
    push_cast at hlt' hle' ⊢
    linarith
  have h₂ : ((k : ℤ) : K) < (⌊r⌋ + ⌊1 / 2 + Int.fract r - y⌋ + 1 : ℤ) := by
    push_cast at hlt' hle' ⊢
    linarith
  have h₁' : ⌊r⌋ + ⌊1 / 2 + Int.fract r - y⌋ < k + 1 := by exact_mod_cast h₁
  have h₂' : k < ⌊r⌋ + ⌊1 / 2 + Int.fract r - y⌋ + 1 := by exact_mod_cast h₂
  omega

/-! ### Within a turn -/

/-- Whole turns taken off leave the angle between `c` and `c + p`. -/
theorem sub_floor_mem {p : K} (hp : 0 < p) (c x : K) :
    c ≤ x - ⌊(x - c) / p⌋ * p ∧ x - ⌊(x - c) / p⌋ * p < c + p := by
  have hmem := toIcoMod_mem_Ico hp c x
  rw [toIcoMod, toIcoDiv_eq_floor, zsmul_eq_mul] at hmem
  exact hmem

end Grid
