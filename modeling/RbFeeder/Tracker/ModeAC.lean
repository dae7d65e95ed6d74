import RbFeeder.Lib.Contested
import RbFeeder.ModeS.Altitude
import RbFeeder.Tracker.Lifetime

/-! Matching Mode A/C replies with aircraft: `trackMatchAC`.

Replies are counted by their code. Once per second, every code with enough new replies is
given the aircraft with this squawk, or with an altitude that this could be the Mode C
code of. A code that already has an aircraft is marked as ambiguous.

The code does not look at which aircraft it is, nor does it take an aircraft that was heard
after the time of the call for one that was heard lately. **Main theorem:**
`trackMatchAC_iff`. -/
namespace RbFeeder.Tracker
open Track (Millis)
open ModeS (modeAToIndex indexToModeA internalModeAToModeC or_lt shiftRight_lt)

/-! ### Codes -/

theorem modeAToIndex_lt (modeA : BitVec 32) : (modeAToIndex modeA).toNat < 2 ^ 12 := by
  have hmask : ∀ {a : Nat} (mask : BitVec 32), mask.toNat < 2 ^ a → (modeA &&& mask).toNat < 2 ^ a := by
    intro a mask hlt
    rw [BitVec.toNat_and]
    exact Nat.lt_of_le_of_lt Nat.and_le_right hlt
  unfold modeAToIndex
  refine or_lt (or_lt (or_lt (hmask _ (by decide)) ?_) ?_) ?_
  · exact shiftRight_lt (hmask (a := 12) _ (by decide)) (by decide)
  · exact shiftRight_lt (hmask (a := 12) _ (by decide)) (by decide)
  · exact shiftRight_lt (hmask (a := 15) _ (by decide)) (by decide)

/-- The index of a code in the arrays. -/
def codeIndex (modeA : BitVec 32) : Fin 4096 := ⟨(modeAToIndex modeA).toNat, modeAToIndex_lt modeA⟩

/-- `modeCToATable[modeC]`, as `modeACInit` fills it. -/
def modeCToATable (modeC : Nat) : BitVec 32 :=
  (List.range 4096).foldl
    (fun entry i =>
      if internalModeAToModeC (indexToModeA (BitVec.ofNat 32 i)) + 13 = modeC then indexToModeA (BitVec.ofNat 32 i)
      else entry) 0

/-- `modeCToModeA(modeC)`. -/
def modeCToModeA (modeC : Int) : BitVec 32 :=
  if modeC + 13 < 0 ∨ modeC + 13 ≥ 4096 then 0 else modeCToATable (modeC + 13).toNat

theorem modeAToIndex_indexToModeA (index : BitVec 32) : modeAToIndex (indexToModeA index) = index &&& 4095 := by
  apply BitVec.eq_of_getLsbD_eq
  intro i hi
  simp only [modeAToIndex, indexToModeA, BitVec.getLsbD_or, BitVec.getLsbD_and, BitVec.getLsbD_ushiftRight,
    BitVec.getLsbD_shiftLeft]
  interval_cases i <;> simp

theorem codeIndex_indexToModeA {index : Nat} (h : index < 4096) :
    (codeIndex (indexToModeA (BitVec.ofNat 32 index))).val = index := by
  show (modeAToIndex (indexToModeA (BitVec.ofNat 32 index))).toNat = index
  rw [modeAToIndex_indexToModeA, BitVec.toNat_and, BitVec.toNat_ofNat, Nat.mod_eq_of_lt (by omega)]
  exact (Nat.and_two_pow_sub_one_eq_mod index 12).trans (Nat.mod_eq_of_lt h)

/-- An entry of the table is not set, or it is the code of this altitude. -/
theorem modeCToATable_cases (modeC : Nat) :
    modeCToATable modeC = 0 ∨ ∃ index < 4096, modeCToATable modeC = indexToModeA (BitVec.ofNat 32 index) ∧
      internalModeAToModeC (indexToModeA (BitVec.ofNat 32 index)) + 13 = modeC := by
  refine List.foldlRecOn (List.range 4096) _
    (motive := fun entry => entry = 0 ∨ ∃ index < 4096, entry = indexToModeA (BitVec.ofNat 32 index) ∧
      internalModeAToModeC (indexToModeA (BitVec.ofNat 32 index)) + 13 = modeC) (Or.inl rfl) ?_
  intro entry hentry index hindex
  split
  · next hcode => exact Or.inr ⟨index, List.mem_range.mp hindex, rfl, hcode⟩
  · exact hentry

theorem modeCToModeA_code {modeC : Int} (h : modeCToModeA modeC ≠ 0) :
    ∃ index < 4096, modeCToModeA modeC = indexToModeA (BitVec.ofNat 32 index) ∧
      internalModeAToModeC (indexToModeA (BitVec.ofNat 32 index)) = modeC := by
  unfold modeCToModeA at h ⊢
  split at h
  · exact absurd rfl h
  · next hrange =>
    rw [if_neg hrange]
    obtain hzero | ⟨index, hindex, hentry, hcode⟩ := modeCToATable_cases (modeC + 13).toNat
    · exact absurd hzero h
    · exact ⟨index, hindex, hentry, by omega⟩

/-- No two altitudes have the same code. -/
theorem modeCToModeA_injective {modeC modeC' : Int} (h : modeCToModeA modeC ≠ 0) (h' : modeCToModeA modeC' ≠ 0)
    (hindex : codeIndex (modeCToModeA modeC) = codeIndex (modeCToModeA modeC')) : modeC = modeC' := by
  obtain ⟨index, hlt, hcode, rfl⟩ := modeCToModeA_code h
  obtain ⟨index', hlt', hcode', rfl⟩ := modeCToModeA_code h'
  rw [hcode, hcode'] at hindex
  have hval := congrArg Fin.val hindex
  rw [codeIndex_indexToModeA hlt, codeIndex_indexToModeA hlt'] at hval
  rw [hval]

/-! ### The arrays -/

/-- `TRACK_MODEAC_MIN_MESSAGES`. -/
def trackModeACMinMessages : BitVec 32 := 4

/-- The arrays of replies, by code. -/
structure ModeAC where
  modeAC_count : Fin 4096 → BitVec 32
  modeAC_lastcount : Fin 4096 → BitVec 32
  modeAC_match : Fin 4096 → BitVec 32
  modeAC_age : Fin 4096 → BitVec 32

/-- An aircraft in the list, with its flags. Junk addresses are not tracked, and an address has 24 bits
and the flag of those that are none of ICAO. -/
structure Listed where
  aircraft : Aircraft
  modeA_hit : Bool
  modeC_hit : Bool
  addr_ne_zero : aircraft.addr ≠ 0
  addr_lt : aircraft.addr.toNat < 2 ^ 25

/-- The mark of a code that several aircraft match. -/
def ambiguous : BitVec 32 := 0xFFFFFFFF

/-- Enough replies since the last call. -/
def ModeAC.Live (s : ModeAC) (i : Fin 4096) : Prop :=
  s.modeAC_count i - s.modeAC_lastcount i ≥ trackModeACMinMessages

instance (s : ModeAC) (i : Fin 4096) : Decidable (s.Live i) := inferInstanceAs (Decidable (_ ≤ _))

/-- The aircraft with this address matches a code, if there are enough replies with it. -/
def matchCode (addr : BitVec 32) (s : ModeAC) (i : Fin 4096) : ModeAC × Bool :=
  if s.Live i then
    ({ s with modeAC_match :=
        Function.update s.modeAC_match i (if s.modeAC_match i ≠ 0 then ambiguous else addr) }, true)
  else (s, false)

/-- It matches the code of an altitude, if that has one. -/
def matchModeC (addr : BitVec 32) (s : ModeAC) (modeC : Int) : ModeAC × Bool :=
  let modeA := modeCToModeA modeC
  if modeA ≠ 0 then matchCode addr s (codeIndex modeA) else (s, false)

/-- `(altitude + 49) / 100`. -/
def hundreds (altitude : Int) : Int := (altitude + 49).tdiv 100

/-- The body of the loop over the aircraft. -/
def matchAircraft (messageNow now : Millis) (s : ModeAC) (l : Listed) : ModeAC × Listed :=
  let a := l.aircraft
  if now - a.seen > 5000 then (s, l)
  else
    -- match on Mode A
    let (s, hitA) :=
      if a.Valid messageNow .squawk then
        matchCode a.addr s (codeIndex (BitVec.ofNat 32 (a.data .squawk).value))
      else (s, false)
    -- match on Mode C (+/- 100ft)
    let (s, hitC) :=
      if a.Valid messageNow .altitudeBaro then
        let modeC := hundreds (a.data .altitudeBaro).value
        let (s, hit) := matchModeC a.addr s modeC
        let (s, above) := matchModeC a.addr s (modeC + 1)
        let (s, below) := matchModeC a.addr s (modeC - 1)
        (s, hit || above || below)
      else (s, false)
    (s, { l with modeA_hit := l.modeA_hit || hitA, modeC_hit := l.modeC_hit || hitC })

/-- The loop over the aircraft. -/
def matchAll (messageNow now : Millis) : ModeAC → List Listed → ModeAC × List Listed
  | s, [] => (s, [])
  | s, l :: rest =>
    let (s, l) := matchAircraft messageNow now s l
    let (s, rest) := matchAll messageNow now s rest
    (s, l :: rest)

/-- The counters of a code for next time. -/
def resetCode (s : ModeAC) (i : Fin 4096) : BitVec 32 × BitVec 32 × BitVec 32 :=
  let count := s.modeAC_count i
  if count = 0 then (count, s.modeAC_lastcount i, s.modeAC_age i)
  else if ¬ s.Live i then
    let age := s.modeAC_age i + 1
    -- not heard from for a while
    if age > 15 then (0, 0, 0) else (count, count, age)
  else (count, count, if s.modeAC_match i ≠ 0 then 10 else 0)

/-- `trackMatchAC(now)`. -/
def trackMatchAC (messageNow now : Millis) (s : ModeAC) (aircrafts : List Listed) : ModeAC × List Listed :=
  let (s, aircrafts) := matchAll messageNow now { s with modeAC_match := fun _ => 0 } aircrafts
  ({ s with
      modeAC_count := fun i => (resetCode s i).1
      modeAC_lastcount := fun i => (resetCode s i).2.1
      modeAC_age := fun i => (resetCode s i).2.2 }, aircrafts)

/-! ### Addresses of a run -/

/-- What is asked of the address of an aircraft in the list. -/
def ListedAddress (addr : BitVec 32) : Prop := addr ≠ 0 ∧ addr.toNat < 2 ^ 25

theorem listed_message (site : Site) {aircrafts : List Aircraft} {mm : Message}
    (h : ∀ addr ∈ aircrafts.map Aircraft.addr, ListedAddress addr) (hmm : mm.addr.toNat < 2 ^ 25) :
    ∀ addr ∈ (trackUpdateFromMessage site aircrafts mm).map Aircraft.addr, ListedAddress addr := by
  unfold trackUpdateFromMessage
  split
  · next htracked =>
    split
    · intro addr haddr
      rw [List.map_cons, Aircraft.update_addr] at haddr
      obtain rfl | hrest := List.mem_cons.mp haddr
      · exact ⟨htracked.2, hmm⟩
      · exact h addr hrest
    · rw [updateFirst_addr fun a => a.update_addr site mm]
      exact h
  · exact h

theorem listed_step (site : Site) {s : State} (h : ∀ addr ∈ s.aircrafts.map Aircraft.addr, ListedAddress addr)
    {e : Event} (he : ∀ mm, e = .message mm → mm.addr.toNat < 2 ^ 25) :
    ∀ addr ∈ (step site s e).aircrafts.map Aircraft.addr, ListedAddress addr := by
  cases e with
  | message mm => exact listed_message site h (he mm rfl)
  | periodic now =>
    rw [step, trackPeriodicUpdate]
    split
    · intro addr haddr
      rw [trackRemoveStaleAircraft_eq, List.map_map] at haddr
      obtain ⟨a, ha, rfl⟩ := List.mem_map.mp haddr
      exact h a.addr (List.mem_map_of_mem (List.mem_filter.mp ha).1)
    · exact h

/-- Every aircraft of a run is one that can be listed. -/
theorem listed_run (site : Site) {events : List Event}
    (hevents : ∀ mm, .message mm ∈ events → mm.addr.toNat < 2 ^ 25) :
    ∀ a ∈ (run site events).aircrafts, ListedAddress a.addr := by
  have hrun : ∀ addr ∈ (run site events).aircrafts.map Aircraft.addr, ListedAddress addr := by
    refine List.foldlRecOn events _
      (motive := fun s : State => ∀ addr ∈ s.aircrafts.map Aircraft.addr, ListedAddress addr)
      (fun addr h => absurd h List.not_mem_nil) ?_
    intro s hs e he
    exact listed_step site hs fun mm hmm => hevents mm (hmm ▸ he)
  exact fun a ha => hrun a.addr (List.mem_map_of_mem ha)

/-! ### Claims -/

/-- The address is claimed for these codes, as far as there are enough replies. -/
def ModeAC.claims (s : ModeAC) (addr : BitVec 32) (codes : List (Fin 4096)) : List (Fin 4096 × BitVec 32) :=
  (codes.filter fun i => s.Live i).map fun i => (i, addr)

/-- After these claims. -/
def ModeAC.claimed (s : ModeAC) (claims : List (Fin 4096 × BitVec 32)) : ModeAC :=
  { s with modeAC_match := claims.foldl (Contested.claim 0 ambiguous) s.modeAC_match }

theorem ModeAC.claimed_append (s : ModeAC) (xs ys : List (Fin 4096 × BitVec 32)) :
    s.claimed (xs ++ ys) = (s.claimed xs).claimed ys := by
  simp only [ModeAC.claimed, List.foldl_append]

theorem matchCode_fst (addr : BitVec 32) (s : ModeAC) (i : Fin 4096) :
    (matchCode addr s i).1 = s.claimed (s.claims addr [i]) := by
  unfold matchCode ModeAC.claims
  by_cases hlive : s.Live i
  · rw [if_pos hlive, List.filter_cons, if_pos (decide_eq_true hlive)]
    rfl
  · rw [if_neg hlive, List.filter_cons, if_neg (by simpa using hlive)]
    rfl

/-- The code of an altitude, if it has one. -/
def modeCCodes (modeC : Int) : List (Fin 4096) :=
  if modeCToModeA modeC ≠ 0 then [codeIndex (modeCToModeA modeC)] else []

theorem matchModeC_fst (addr : BitVec 32) (s : ModeAC) (modeC : Int) :
    (matchModeC addr s modeC).1 = s.claimed (s.claims addr (modeCCodes modeC)) := by
  unfold matchModeC modeCCodes
  dsimp only
  split
  · exact matchCode_fst addr s _
  · rfl

namespace Aircraft
variable (messageNow now : Millis) (a : Aircraft)

/-- The code that the squawk is. -/
def squawkCodes : List (Fin 4096) :=
  if a.Valid messageNow .squawk then [codeIndex (BitVec.ofNat 32 (a.data .squawk).value)] else []

/-- The codes that the altitude may be sent as. -/
def altitudeCodes : List (Fin 4096) :=
  if a.Valid messageNow .altitudeBaro then
    [hundreds (a.data .altitudeBaro).value, hundreds (a.data .altitudeBaro).value + 1,
      hundreds (a.data .altitudeBaro).value - 1].flatMap modeCCodes
  else []

end Aircraft

/-- What an aircraft claims. -/
def ModeAC.claimsBy (s : ModeAC) (messageNow now : Millis) (l : Listed) : List (Fin 4096 × BitVec 32) :=
  if now - l.aircraft.seen > 5000 then []
  else s.claims l.aircraft.addr (l.aircraft.squawkCodes messageNow ++ l.aircraft.altitudeCodes messageNow)

theorem ModeAC.claims_append (s : ModeAC) (addr : BitVec 32) (xs ys : List (Fin 4096)) :
    s.claims addr (xs ++ ys) = s.claims addr xs ++ s.claims addr ys := by
  simp only [ModeAC.claims, List.filter_append, List.map_append]

/-- Claims do not change the counters. -/
theorem ModeAC.claims_claimed (s : ModeAC) (cs : List (Fin 4096 × BitVec 32)) (addr : BitVec 32)
    (codes : List (Fin 4096)) : (s.claimed cs).claims addr codes = s.claims addr codes := rfl

theorem matchAircraft_fst (messageNow now : Millis) (s : ModeAC) (l : Listed) :
    (matchAircraft messageNow now s l).1 = s.claimed (s.claimsBy messageNow now l) := by
  unfold matchAircraft ModeAC.claimsBy
  dsimp only
  split
  · rfl
  rw [ModeAC.claims_append, ModeAC.claimed_append]
  have hsquawk : (if l.aircraft.Valid messageNow .squawk then
      matchCode l.aircraft.addr s (codeIndex (BitVec.ofNat 32 (l.aircraft.data .squawk).value))
      else (s, false)).1 = s.claimed (s.claims l.aircraft.addr (l.aircraft.squawkCodes messageNow)) := by
    unfold Aircraft.squawkCodes
    split
    · exact matchCode_fst _ s _
    · rfl
  rw [hsquawk]
  generalize hs₁ : s.claimed (s.claims l.aircraft.addr (l.aircraft.squawkCodes messageNow)) = s₁
  have hclaims : s.claims l.aircraft.addr (l.aircraft.altitudeCodes messageNow) =
      s₁.claims l.aircraft.addr (l.aircraft.altitudeCodes messageNow) := by
    rw [← hs₁, ModeAC.claims_claimed]
  rw [hclaims]
  unfold Aircraft.altitudeCodes
  split
  · simp only [List.flatMap_cons, List.flatMap_nil, List.append_nil, ModeAC.claims_append, ModeAC.claimed_append,
      matchModeC_fst, ModeAC.claims_claimed]
  · rfl

theorem matchAll_fst (messageNow now : Millis) (s : ModeAC) (aircrafts : List Listed) :
    (matchAll messageNow now s aircrafts).1 = s.claimed (aircrafts.flatMap (s.claimsBy messageNow now)) := by
  induction aircrafts generalizing s with
  | nil => rfl
  | cons l rest ih =>
    rw [matchAll]
    dsimp only
    rw [ih, matchAircraft_fst, List.flatMap_cons, ModeAC.claimed_append]
    rfl

/-! ### Matches -/

namespace Aircraft
variable (messageNow now : Millis) (a : Aircraft) (i : Fin 4096)

/-- The squawk is this code. -/
def SquawkIs : Prop :=
  a.Valid messageNow .squawk ∧ codeIndex (BitVec.ofNat 32 (a.data .squawk).value) = i

instance : Decidable (a.SquawkIs messageNow i) := inferInstanceAs (Decidable (_ ∧ _))

/-- It is the Mode C code of the altitude, or of one hundred feet more or less. -/
def AltitudeIs : Prop :=
  a.Valid messageNow .altitudeBaro ∧ ∃ modeC ∈ [hundreds (a.data .altitudeBaro).value,
      hundreds (a.data .altitudeBaro).value + 1, hundreds (a.data .altitudeBaro).value - 1],
    modeCToModeA modeC ≠ 0 ∧ codeIndex (modeCToModeA modeC) = i

instance : Decidable (a.AltitudeIs messageNow i) := inferInstanceAs (Decidable (_ ∧ _))

/-- The last message is no more than five seconds before `now`. -/
def Heard : Prop := now.toNat ≤ a.seen.toNat + 5000

instance : Decidable (a.Heard now) := inferInstanceAs (Decidable (_ ≤ _))

/-- By the unsigned difference. -/
def InTime : Prop := ¬ now - a.seen > 5000

instance : Decidable (a.InTime now) := inferInstanceAs (Decidable (¬ _))

theorem heard_of_inTime {now : Millis} {a : Aircraft} (h : a.InTime now) : a.Heard now := by
  have hage : (now - a.seen).toNat ≤ 5000 := Nat.not_lt.mp h
  have hnow : now.toNat < 2 ^ 64 := now.isLt
  have hseen : a.seen.toNat < 2 ^ 64 := a.seen.isLt
  rw [BitVec.toNat_sub] at hage
  unfold Heard
  omega

theorem mem_squawkCodes : i ∈ a.squawkCodes messageNow ↔ a.SquawkIs messageNow i := by
  unfold squawkCodes SquawkIs
  split
  · next hvalid => rw [List.mem_singleton, and_iff_right hvalid, eq_comm]
  · next hvalid => exact iff_of_false List.not_mem_nil fun h => hvalid h.1

theorem nodup_squawkCodes : (a.squawkCodes messageNow).Nodup := by
  unfold squawkCodes
  split
  · exact List.nodup_singleton _
  · exact List.nodup_nil

theorem mem_modeCCodes {modeC : Int} {i : Fin 4096} :
    i ∈ modeCCodes modeC ↔ modeCToModeA modeC ≠ 0 ∧ codeIndex (modeCToModeA modeC) = i := by
  unfold modeCCodes
  split
  · next hcode => rw [List.mem_singleton, and_iff_right hcode, eq_comm]
  · next hcode => exact iff_of_false List.not_mem_nil fun h => hcode h.1

theorem mem_altitudeCodes : i ∈ a.altitudeCodes messageNow ↔ a.AltitudeIs messageNow i := by
  unfold altitudeCodes AltitudeIs
  split
  · next hvalid => simp only [List.mem_flatMap, mem_modeCCodes, hvalid, true_and]
  · next hvalid => exact iff_of_false List.not_mem_nil fun h => hvalid h.1

theorem nodup_altitudeCodes : (a.altitudeCodes messageNow).Nodup := by
  unfold altitudeCodes
  split
  · refine List.nodup_flatMap.mpr ⟨fun modeC _ => ?_, ?_⟩
    · unfold modeCCodes
      split
      · exact List.nodup_singleton _
      · exact List.nodup_nil
    · have hdistinct : ∀ modeC : Int, [modeC, modeC + 1, modeC - 1].Nodup := fun modeC => by simp; omega
      refine (hdistinct _).imp fun hne i hi hi' => ?_
      obtain ⟨hcode, rfl⟩ := mem_modeCCodes.mp hi
      obtain ⟨hcode', hindex⟩ := mem_modeCCodes.mp hi'
      exact hne (modeCToModeA_injective hcode hcode' hindex.symm)
  · exact List.nodup_nil

/-- By how many of its data the aircraft matches the code. -/
def ways : Nat := (a.squawkCodes messageNow ++ a.altitudeCodes messageNow).count i

theorem ways_eq : a.ways messageNow i =
    (if i ∈ a.squawkCodes messageNow then 1 else 0) + if i ∈ a.altitudeCodes messageNow then 1 else 0 := by
  rw [ways, List.count_append, (a.nodup_squawkCodes messageNow).count, (a.nodup_altitudeCodes messageNow).count]

theorem ways_pos : 0 < a.ways messageNow i ↔ a.SquawkIs messageNow i ∨ a.AltitudeIs messageNow i := by
  rw [ways_eq, ← mem_squawkCodes, ← mem_altitudeCodes]
  split_ifs <;> simp_all

theorem two_le_ways : 2 ≤ a.ways messageNow i ↔ a.SquawkIs messageNow i ∧ a.AltitudeIs messageNow i := by
  rw [ways_eq, ← mem_squawkCodes, ← mem_altitudeCodes]
  split_ifs <;> simp_all

end Aircraft

/-- The aircraft that match a code, when there are enough replies with it. -/
def ModeAC.matching (s : ModeAC) (messageNow now : Millis) (i : Fin 4096) (aircrafts : List Listed) : List Listed :=
  aircrafts.filter fun l => l.aircraft.Heard now ∧ s.Live i ∧
    (l.aircraft.SquawkIs messageNow i ∨ l.aircraft.AltitudeIs messageNow i)

/-- What `modeAC_match` is to say of them. -/
def matchOf : List Listed → BitVec 32
  | [] => 0
  | [l] => l.aircraft.addr
  | _ :: _ :: _ => ambiguous

/-- A single aircraft matches in one way, and two are told apart from one. -/
def Unmistaken (messageNow now : Millis) (i : Fin 4096) : List Listed → Prop
  | [] => True
  | [l] => l.aircraft.InTime now ∧ ¬ (l.aircraft.SquawkIs messageNow i ∧ l.aircraft.AltitudeIs messageNow i)
  | l :: l' :: rest =>
    2 ≤ ((l :: l' :: rest).filter fun l => l.aircraft.InTime now).length ∨
      ∃ x ∈ l :: l' :: rest, x.aircraft.InTime now ∧
        x.aircraft.SquawkIs messageNow i ∧ x.aircraft.AltitudeIs messageNow i

open Contested (claimsOf outcome)

theorem claimsOf_claims (s : ModeAC) (addr : BitVec 32) (codes : List (Fin 4096)) {i : Fin 4096} (hlive : s.Live i) :
    claimsOf i (s.claims addr codes) = List.replicate (codes.count i) addr := by
  induction codes with
  | nil => rfl
  | cons code codes ih =>
    rw [← List.singleton_append, ModeAC.claims_append, Contested.claimsOf_append, ih, List.count_append,
      List.replicate_add]
    congr 1
    by_cases hcode : code = i
    · subst hcode
      simp [ModeAC.claims, claimsOf, hlive]
    · by_cases hlive' : s.Live code
      · simp [ModeAC.claims, claimsOf, hlive', hcode]
      · simp [ModeAC.claims, claimsOf, hlive', hcode]

theorem claimsOf_not_live (s : ModeAC) (addr : BitVec 32) (codes : List (Fin 4096)) {i : Fin 4096}
    (hlive : ¬ s.Live i) : claimsOf i (s.claims addr codes) = [] := by
  refine List.map_eq_nil_iff.mpr (List.filter_eq_nil_iff.mpr fun c hc hi => hlive ?_)
  obtain ⟨code, hcode, rfl⟩ := List.mem_map.mp hc
  rw [← of_decide_eq_true hi]
  exact of_decide_eq_true (List.mem_filter.mp hcode).2

section Slots
variable (messageNow now : Millis) (s : ModeAC) (i : Fin 4096)

/-- What is claimed for a code: the address of each aircraft that matches in time, once for each way. -/
theorem claimsOf_all (aircrafts : List Listed) :
    claimsOf i (aircrafts.flatMap (s.claimsBy messageNow now)) =
      ((s.matching messageNow now i aircrafts).filter fun l => l.aircraft.InTime now).flatMap fun l =>
        List.replicate (l.aircraft.ways messageNow i) l.aircraft.addr := by
  induction aircrafts with
  | nil => rfl
  | cons l rest ih =>
    have hcons : s.matching messageNow now i (l :: rest) = if decide (l.aircraft.Heard now ∧ s.Live i ∧
        (l.aircraft.SquawkIs messageNow i ∨ l.aircraft.AltitudeIs messageNow i)) = true then
          l :: s.matching messageNow now i rest else s.matching messageNow now i rest := List.filter_cons
    rw [List.flatMap_cons, Contested.claimsOf_append, ih, hcons]
    by_cases htime : l.aircraft.InTime now
    · have hheard := Aircraft.heard_of_inTime htime
      rw [ModeAC.claimsBy, if_neg htime]
      by_cases hlive : s.Live i
      · rw [claimsOf_claims s _ _ hlive]
        by_cases hmatch : l.aircraft.SquawkIs messageNow i ∨ l.aircraft.AltitudeIs messageNow i
        · rw [if_pos (decide_eq_true ⟨hheard, hlive, hmatch⟩), List.filter_cons, if_pos (decide_eq_true htime),
            List.flatMap_cons]
          rfl
        · have hways : l.aircraft.ways messageNow i = 0 :=
            Nat.eq_zero_of_not_pos fun hpos => hmatch ((l.aircraft.ways_pos messageNow i).mp hpos)
          rw [if_neg (by simp [hmatch]), ← Aircraft.ways, hways]
          rfl
      · rw [claimsOf_not_live s _ _ hlive, if_neg (by simp [hlive])]
        rfl
    · rw [ModeAC.claimsBy, if_pos (not_not.mp htime)]
      split
      · rw [List.filter_cons, if_neg (by simpa using htime)]
        rfl
      · rfl

/-- What the call leaves in `modeAC_match`. -/
theorem trackMatchAC_match (aircrafts : List Listed) :
    (trackMatchAC messageNow now s aircrafts).1.modeAC_match i =
      outcome 0 ambiguous (((s.matching messageNow now i aircrafts).filter fun l =>
        l.aircraft.InTime now).flatMap fun l =>
          List.replicate (l.aircraft.ways messageNow i) l.aircraft.addr) := by
  have hfree : ∀ c ∈ aircrafts.flatMap (s.claimsBy messageNow now), c.2 ≠ 0 := by
    intro c hc
    obtain ⟨l, -, hl⟩ := List.mem_flatMap.mp hc
    unfold ModeAC.claimsBy at hl
    split at hl
    · cases hl
    · obtain ⟨code, -, rfl⟩ := List.mem_map.mp hl
      exact l.addr_ne_zero
  have hloop := matchAll_fst messageNow now { s with modeAC_match := fun _ => 0 } aircrafts
  rw [← claimsOf_all, ← Contested.foldl_claim hfree (by decide)]
  unfold trackMatchAC
  dsimp only
  rw [hloop]
  rfl

theorem addr_ne_ambiguous (l : Listed) : l.aircraft.addr ≠ ambiguous := by
  intro h
  have hlt := l.addr_lt
  rw [h] at hlt
  exact absurd hlt (by decide)

/-- Two claims come from two aircraft, or from one that matches in both ways. -/
theorem two_le_claims {ls : List Listed} (h : ∀ l ∈ ls, 0 < l.aircraft.ways messageNow i) :
    2 ≤ (ls.flatMap fun l => List.replicate (l.aircraft.ways messageNow i) l.aircraft.addr).length ↔
      2 ≤ ls.length ∨ ∃ l ∈ ls, l.aircraft.SquawkIs messageNow i ∧ l.aircraft.AltitudeIs messageNow i := by
  rcases ls with _ | ⟨l, _ | ⟨l', rest⟩⟩
  · simp
  · simp [Aircraft.two_le_ways]
  · have hl := h l (by simp)
    have hl' := h l' (by simp)
    refine iff_of_true ?_ (Or.inl (by simp))
    simp only [List.flatMap_cons, List.length_append, List.length_replicate]
    omega

/-- When one entry is what it should be. -/
theorem match_iff (aircrafts : List Listed) :
    (trackMatchAC messageNow now s aircrafts).1.modeAC_match i = matchOf (s.matching messageNow now i aircrafts) ↔
      Unmistaken messageNow now i (s.matching messageNow now i aircrafts) := by
  rw [trackMatchAC_match]
  have hways : ∀ l ∈ s.matching messageNow now i aircrafts, 0 < l.aircraft.ways messageNow i := by
    intro l hl
    exact (l.aircraft.ways_pos messageNow i).mpr (of_decide_eq_true (List.mem_filter.mp hl).2).2.2
  generalize s.matching messageNow now i aircrafts = found at hways ⊢
  rcases found with _ | ⟨l, _ | ⟨l', rest⟩⟩
  · exact iff_of_true rfl trivial
  · have hpos := hways l List.mem_cons_self
    have htwo := l.aircraft.two_le_ways messageNow i
    rw [List.filter_cons, Unmistaken, matchOf]
    by_cases htime : l.aircraft.InTime now
    · rw [if_pos (decide_eq_true htime), and_iff_right htime, ← htwo]
      simp only [List.filter_nil, List.flatMap_cons, List.flatMap_nil, List.append_nil]
      obtain hone | hboth := Nat.eq_or_lt_of_le hpos
      · rw [← hone]
        exact iff_of_true rfl (by decide)
      · rw [Contested.outcome_of_two (by rw [List.length_replicate]; exact hboth)]
        exact iff_of_false (addr_ne_ambiguous l).symm (not_not.mpr hboth)
    · rw [if_neg (by simpa using htime)]
      exact iff_of_false l.addr_ne_zero.symm fun h => htime h.1
  · rw [matchOf, Unmistaken]
    generalize l :: l' :: rest = found at hways ⊢
    have hin : ∀ x ∈ found.filter fun l => l.aircraft.InTime now, 0 < x.aircraft.ways messageNow i :=
      fun x hx => hways x (List.mem_filter.mp hx).1
    have haddr : ∀ a ∈ (found.filter fun l => l.aircraft.InTime now).flatMap (fun l =>
        List.replicate (l.aircraft.ways messageNow i) l.aircraft.addr), a ≠ ambiguous := by
      intro a ha
      obtain ⟨x, -, hx⟩ := List.mem_flatMap.mp ha
      rw [List.eq_of_mem_replicate hx]
      exact addr_ne_ambiguous x
    rw [Contested.outcome_eq_many (by decide) haddr, two_le_claims messageNow i hin]
    refine or_congr Iff.rfl ?_
    constructor
    · intro h
      obtain ⟨x, hx, hboth⟩ := h
      obtain ⟨hmem, htime⟩ := List.mem_filter.mp hx
      exact ⟨x, hmem, of_decide_eq_true htime, hboth⟩
    · intro h
      obtain ⟨x, hmem, htime, hboth⟩ := h
      exact ⟨x, List.mem_filter.mpr ⟨hmem, decide_eq_true htime⟩, hboth⟩

/-- Every entry is the aircraft that matches the code, if there is one, or says that there are more. -/
def MatchExact (aircrafts : List Listed) : Prop :=
  ∀ i, (trackMatchAC messageNow now s aircrafts).1.modeAC_match i = matchOf (s.matching messageNow now i aircrafts)

/-- **Main theorem.** All entries are what they should be if and only if each aircraft that matches a code
alone is in time and matches it in one way, and of those that match one together two are in time, or one is and
matches it in both ways. -/
theorem trackMatchAC_iff (aircrafts : List Listed) :
    MatchExact messageNow now s aircrafts ↔
      ∀ i, Unmistaken messageNow now i (s.matching messageNow now i aircrafts) :=
  forall_congr' fun i => match_iff messageNow now s i aircrafts

end Slots

/-! ### A squawk that is the code of the altitude -/

/-- A message with neither. -/
def squitter : Message where
  msgtype := 17
  addr := 0x4840D6
  sysTimestampMsg := 1000
  reliable := false
  source := .adsb
  source_ne := adsb_ne_invalid

/-- Squawk 0320, at one thousand feet. -/
def lowAircraft : Aircraft :=
  { ((trackCreateAircraft squitter).modify .squawk fun t => ⟨t.valid.accept 1000 .adsb, (0x320 : Nat)⟩).modify
      .altitudeBaro fun t => ⟨t.valid.accept 1000 .adsb, (1000 : Int)⟩ with seen := 1000 }

theorem lowAircraft_addr : lowAircraft.addr ≠ 0 := by
  decide

theorem lowAircraft_addr_lt : lowAircraft.addr.toNat < 2 ^ 25 := by
  decide

def lowListed : Listed where
  aircraft := lowAircraft
  modeA_hit := false
  modeC_hit := false
  addr_ne_zero := lowAircraft_addr
  addr_lt := lowAircraft_addr_lt

/-- Four replies with each code. -/
def fourReplies : ModeAC := ⟨fun _ => 4, fun _ => 0, fun _ => 0, fun _ => 0⟩

theorem modeCToModeA_ten : modeCToModeA 10 = 0x320 := by
  decide +kernel

/-- The only aircraft is taken for several. -/
theorem not_matchExact_low : ¬ MatchExact 1000 1000 fourReplies [lowListed] := by
  intro h
  have hcode : modeCToModeA 10 ≠ 0 := by
    rw [modeCToModeA_ten]
    decide
  have hsquawk : lowAircraft.SquawkIs 1000 (codeIndex 0x320) := ⟨by decide, rfl⟩
  have haltitude : lowAircraft.AltitudeIs 1000 (codeIndex 0x320) :=
    ⟨by decide, 10, List.mem_cons_self, hcode, by rw [modeCToModeA_ten]⟩
  have hmatching : fourReplies.matching 1000 1000 (codeIndex 0x320) [lowListed] = [lowListed] :=
    List.filter_eq_self.mpr fun l hl => by
      obtain rfl := List.mem_singleton.mp hl
      exact decide_eq_true ⟨by decide, by decide, Or.inl hsquawk⟩
  have hentry := (match_iff 1000 1000 fourReplies (codeIndex 0x320) [lowListed]).mp (h _)
  rw [hmatching] at hentry
  exact hentry.2 ⟨hsquawk, haltitude⟩

end RbFeeder.Tracker
