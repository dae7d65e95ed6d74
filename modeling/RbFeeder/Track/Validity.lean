import Mathlib

/-! The validity of a tracked value: `data_validity` of `track.h`.

A value is fresh, stale or expired. Fresh data gives way only to a source at least
as good, stale data to any; expired data is not valid, and a periodic sweep marks it
so by taking its source away. All times are milliseconds in a `uint64_t`. -/
namespace RbFeeder.Track

/-- A time or an interval. -/
abbrev Millis := BitVec 64

/-- `datasource_t`, in order of increasing priority. -/
inductive Source
  | invalid
  | modeAC
  | mlat
  | modeS
  | modeSChecked
  | tisb
  | adsr
  | adsb
deriving DecidableEq

/-- The priority of a source. -/
def Source.rank : Source → Nat
  | invalid => 0
  | modeAC => 1
  | mlat => 2
  | modeS => 3
  | modeSChecked => 4
  | tisb => 5
  | adsr => 6
  | adsb => 7

/-- The worse of two sources. -/
def Source.worse (a b : Source) : Source := if a.rank < b.rank then a else b

/-- `data_validity`. -/
structure DataValidity where
  staleInterval : Millis
  expireInterval : Millis
  source : Source
  updated : Millis
  stale : Millis
  expires : Millis
deriving DecidableEq

namespace DataValidity

/-- A record that was never updated. -/
def never (staleInterval expireInterval : Millis) : DataValidity :=
  { staleInterval, expireInterval, source := .invalid, updated := 0, stale := 0, expires := 0 }

/-- `trackDataValid`. -/
def Valid (now : Millis) (v : DataValidity) : Prop := v.source ≠ .invalid ∧ now < v.expires

instance (now : Millis) (v : DataValidity) : Decidable (v.Valid now) :=
  inferInstanceAs (Decidable (_ ∧ _))

/-- `trackDataFresh`. -/
def Fresh (now : Millis) (v : DataValidity) : Prop := v.source ≠ .invalid ∧ now < v.stale

instance (now : Millis) (v : DataValidity) : Decidable (v.Fresh now) :=
  inferInstanceAs (Decidable (_ ∧ _))

/-- `trackDataAge`. -/
def age (now : Millis) (v : DataValidity) : Millis :=
  if v.source = .invalid then BitVec.allOnes 64
  else if v.updated ≥ now then 0
  else now - v.updated

/-- Whether `accept_data` takes new data from `source`. -/
def Accepts (now : Millis) (d : DataValidity) (source : Source) : Prop :=
  ¬ now < d.updated ∧ ¬ (source.rank < d.source.rank ∧ now < d.stale)

instance (now : Millis) (d : DataValidity) (source : Source) : Decidable (d.Accepts now source) :=
  inferInstanceAs (Decidable (_ ∧ _))

/-- `accept_data`, when it takes the data. An interval of zero stands for a default. -/
def accept (now : Millis) (d : DataValidity) (source : Source) : DataValidity :=
  { d with
    source := source
    updated := now
    stale := now + if d.staleInterval ≠ 0 then d.staleInterval else 60000
    expires := now + if d.expireInterval ≠ 0 then d.expireInterval else 70000 }

/-- `combine_validity`: the new content of `own`, which is `to`. -/
def combine (own from1 from2 : DataValidity) : DataValidity :=
  if from1.source = .invalid then from2
  else if from2.source = .invalid then from1
  else
    { own with
      source := from1.source.worse from2.source
      updated := if from1.updated > from2.updated then from1.updated else from2.updated
      stale := if from1.stale < from2.stale then from1.stale else from2.stale
      expires := if from1.expires < from2.expires then from1.expires else from2.expires }

/-- `compare_validity`. -/
def compare (now : Millis) (lhs rhs : DataValidity) : Int :=
  if now < lhs.stale ∧ lhs.source.rank > rhs.source.rank then 1
  else if now < rhs.stale ∧ lhs.source.rank < rhs.source.rank then -1
  else if lhs.updated > rhs.updated then 1
  else if lhs.updated < rhs.updated then -1
  else 0

/-- `EXPIRE`. -/
def expire (now : Millis) (v : DataValidity) : DataValidity :=
  if v.source ≠ .invalid ∧ now ≥ v.expires then { v with source := .invalid } else v

/-! ### Combined validity -/

/-- `g` stands for data that is valid, expires with the first of the two sources, is
as good as the worse of them, and keeps the intervals of `own`. -/
structure Backed (now : Millis) (own from1 from2 g : DataValidity) : Prop where
  left : from1.Valid now
  right : from2.Valid now
  expires_left : g.expires ≤ from1.expires
  expires_right : g.expires ≤ from2.expires
  source : g.source = from1.source.worse from2.source
  staleInterval : g.staleInterval = own.staleInterval
  expireInterval : g.expireInterval = own.expireInterval

/-- One of two records has lost its source while the other is valid. -/
def OneGone (now : Millis) (from1 from2 : DataValidity) : Prop :=
  (from1.source = .invalid ∧ from2.Valid now) ∨ (from2.source = .invalid ∧ from1.Valid now)

theorem combine_of_left_gone {own from1 from2 : DataValidity} (h : from1.source = .invalid) :
    combine own from1 from2 = from2 := if_pos h

theorem combine_of_right_gone {own from1 from2 : DataValidity} (h : from2.source = .invalid)
    (hleft : from1.source ≠ .invalid) : combine own from1 from2 = from1 :=
  (if_neg hleft).trans (if_pos h)

theorem combine_expires_left {own from1 from2 : DataValidity} (hleft : from1.source ≠ .invalid)
    (hright : from2.source ≠ .invalid) : (combine own from1 from2).expires ≤ from1.expires := by
  simp only [combine, if_neg hleft, if_neg hright]
  split
  · exact BitVec.le_refl _
  · next h => exact BitVec.not_lt.mp h

theorem combine_expires_right {own from1 from2 : DataValidity} (hleft : from1.source ≠ .invalid)
    (hright : from2.source ≠ .invalid) : (combine own from1 from2).expires ≤ from2.expires := by
  simp only [combine, if_neg hleft, if_neg hright]
  split
  · next h => exact BitVec.le_of_lt h
  · exact BitVec.le_refl _

/-- Two sources that are both there back what is made of them, as long as it is valid. -/
theorem combine_backed {now : Millis} {own from1 from2 : DataValidity}
    (hleft : from1.source ≠ .invalid) (hright : from2.source ≠ .invalid)
    (hvalid : (combine own from1 from2).Valid now) :
    Backed now own from1 from2 (combine own from1 from2) := by
  have hexpires₁ : (combine own from1 from2).expires ≤ from1.expires :=
    combine_expires_left hleft hright
  have hexpires₂ : (combine own from1 from2).expires ≤ from2.expires :=
    combine_expires_right hleft hright
  refine ⟨⟨hleft, Nat.lt_of_lt_of_le hvalid.2 hexpires₁⟩,
    ⟨hright, Nat.lt_of_lt_of_le hvalid.2 hexpires₂⟩, hexpires₁, hexpires₂, ?_, ?_, ?_⟩
  all_goals simp only [combine, if_neg hleft, if_neg hright]

/-- **What is combined is backed, or not valid, unless one source is gone.** -/
theorem combine_backed_iff (now : Millis) (own from1 from2 : DataValidity) :
    ((combine own from1 from2).Valid now → Backed now own from1 from2 (combine own from1 from2)) ↔
      ¬ OneGone now from1 from2 := by
  by_cases hleft : from1.source = .invalid
  · rw [combine_of_left_gone hleft]
    constructor
    · intro hbacked hgone
      obtain ⟨-, hvalid⟩ | ⟨-, hvalid⟩ := hgone
      · exact (hbacked hvalid).left.1 hleft
      · exact hvalid.1 hleft
    · exact fun hgone hvalid => absurd (Or.inl ⟨hleft, hvalid⟩) hgone
  · by_cases hright : from2.source = .invalid
    · rw [combine_of_right_gone hright hleft]
      constructor
      · intro hbacked hgone
        obtain ⟨hgone, -⟩ | ⟨-, hvalid⟩ := hgone
        · exact hleft hgone
        · exact (hbacked hvalid).right.1 hright
      · exact fun hgone hvalid => absurd (Or.inr ⟨hright, hvalid⟩) hgone
    · refine ⟨fun _ hgone => ?_, fun _ => combine_backed hleft hright⟩
      obtain ⟨hgone, -⟩ | ⟨hgone, -⟩ := hgone
      · exact hleft hgone
      · exact hright hgone

end DataValidity
end RbFeeder.Track
