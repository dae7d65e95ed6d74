import Mathlib

/-! Distances: `greatcircle` of `track.c`.

The arithmetic is that of doubles, with every result rounded; the functions of the C library
are parameters with the domains they have. A distance that is not a number is `none`. Near the
antipode the rounded cosine can be less than -1, and there is no such arc
(`greatcircle_none_iff`). -/
namespace RbFeeder.Tracker

/-- `M_PI`. -/
def mPi : ℚ := 884279719003555 / 281474976710656

/-- The functions of the C library, and the rounding of a result to a double. -/
structure Libm where
  round : ℚ → ℚ
  sin : ℚ → ℚ
  cos : ℚ → ℚ
  acos : ℚ → ℚ
  sqrt : ℚ → ℚ
  atan2 : ℚ → ℚ → ℚ

namespace Libm
variable (m : Libm)

/-- `sqrt` gives no number for a negative one. -/
def squareRoot (x : ℚ) : Option ℚ := if x < 0 then none else some (m.sqrt x)

/-- `acos` gives no number outside -1 .. 1. -/
def arc (x : ℚ) : Option ℚ := if x < -1 ∨ 1 < x then none else some (m.acos x)

def radians (degrees : ℚ) : ℚ := m.round (m.round (degrees * mPi) / 180)

/-- `dlat` and `dlon`. -/
def difference (x0 x1 : ℚ) : ℚ := |m.round (x1 - x0)|

/-- Haversine is used for small distances, for better numerical stability. -/
def Small (dlat dlon : ℚ) : Prop := dlat < m.round (1 / 1000) ∧ dlon < m.round (1 / 1000)

instance (dlat dlon : ℚ) : Decidable (m.Small dlat dlon) := inferInstanceAs (Decidable (_ ∧ _))

/-- The haversine `a`. -/
def haversine (lat0 lat1 dlat dlon : ℚ) : ℚ :=
  let s := m.sin (m.round (dlat / 2))
  let t := m.sin (m.round (dlon / 2))
  m.round (m.round (s * s) + m.round (m.round (m.round (m.cos lat0 * m.cos lat1) * t) * t))

/-- The argument of `acos`. -/
def cosine (lat0 lat1 dlon : ℚ) : ℚ :=
  m.round (m.round (m.sin lat0 * m.sin lat1) + m.round (m.round (m.cos lat0 * m.cos lat1) * m.cos dlon))

/-- `greatcircle`, in metres. -/
def greatcircle (lat0 lon0 lat1 lon1 : ℚ) : Option ℚ :=
  let lat0 := m.radians lat0
  let lon0 := m.radians lon0
  let lat1 := m.radians lat1
  let lon1 := m.radians lon1
  let dlat := m.difference lat0 lat1
  let dlon := m.difference lon0 lon1
  if m.Small dlat dlon then
    let a := m.haversine lat0 lat1 dlat dlon
    match m.squareRoot a, m.squareRoot (m.round (1 - a)) with
    | some y, some x => some (m.round (6371000 * 2 * m.atan2 y x))
    | _, _ => none
  else (m.arc (m.cosine lat0 lat1 dlon)).map fun angle => m.round (6371000 * angle)

theorem squareRoot_none_iff (x : ℚ) : m.squareRoot x = none ↔ x < 0 := by
  unfold squareRoot
  split_ifs with h
  · exact iff_of_true rfl h
  · exact iff_of_false nofun h

theorem arc_none_iff (x : ℚ) : m.arc x = none ↔ x < -1 ∨ 1 < x := by
  unfold arc
  split_ifs with h
  · exact iff_of_true rfl h
  · exact iff_of_false nofun h

/-- **Main theorem.** Two points have no distance where the rounded cosine of the arc between them is no
cosine, or, if they are close, where the haversine leaves 0 .. 1. -/
theorem greatcircle_none_iff (lat0 lon0 lat1 lon1 : ℚ) :
    m.greatcircle lat0 lon0 lat1 lon1 = none ↔
      let dlat := m.difference (m.radians lat0) (m.radians lat1)
      let dlon := m.difference (m.radians lon0) (m.radians lon1)
      if m.Small dlat dlon then
        m.haversine (m.radians lat0) (m.radians lat1) dlat dlon < 0 ∨
          m.round (1 - m.haversine (m.radians lat0) (m.radians lat1) dlat dlon) < 0
      else m.cosine (m.radians lat0) (m.radians lat1) dlon < -1 ∨ 1 < m.cosine (m.radians lat0) (m.radians lat1) dlon := by
  unfold greatcircle
  dsimp only
  split_ifs
  · rw [← squareRoot_none_iff, ← squareRoot_none_iff]
    generalize m.squareRoot _ = y
    generalize m.squareRoot _ = x
    cases y <;> cases x <;> simp
  · rw [Option.map_eq_none_iff, arc_none_iff]

end Libm

/-! ### Doubles -/

/-- To the nearest integer, ties to even. -/
def tiesToEven (x : ℚ) : ℤ := if Int.fract x = 1 / 2 then 2 * round (x / 2) else round x

/-- To the nearest double, in the range of the normal ones. -/
def toDouble (x : ℚ) : ℚ :=
  let ulp := (2 : ℚ) ^ (Int.log 2 |x| - 52)
  tiesToEven (x / ulp) * ulp

/-- 12 degrees in radians. -/
def angle12 : ℚ := 7545853602163669 / 36028797018963968

/-- The C library at the angles of 12 and of 180 degrees, and at no distance. -/
def sampleLibm : Libm where
  round := toDouble
  sin x :=
    if x = angle12 then 7490808106342645 / 36028797018963968
    else if x = -angle12 then -7490808106342645 / 36028797018963968
    else 0
  cos x := if |x| = angle12 then 68831018284033 / 70368744177664 else if x = 0 then 1 else -1
  acos x := if x = 1 then 0 else mPi
  sqrt x := x
  atan2 y _ := y

/-- 12 degrees north at the Greenwich meridian and its antipode: the rounded cosine is below -1. -/
example : sampleLibm.greatcircle (-12) 180 12 0 = none := by decide +kernel

end RbFeeder.Tracker
