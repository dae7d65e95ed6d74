import RbFeeder.ModeS.Gillham
import RbFeeder.Tracker.ModeAC

/-! The table of altitude codes, `modeCToModeA`.

`modeACInit` enters each code at its altitude, and no altitude has two codes
(`modeACInit_once`). So the table has the code of every altitude, and of nothing else
(`modeCToModeA_eq`). -/
namespace RbFeeder.Tracker
open ModeS

/-- An index is in the table of the codes. -/
theorem indexToModeA_injective {i j : Nat} (hi : i < 4096) (hj : j < 4096)
    (h : indexToModeA (BitVec.ofNat 32 i) = indexToModeA (BitVec.ofNat 32 j)) : i = j := by
  rw [← codeIndex_indexToModeA hi, h, codeIndex_indexToModeA hj]

/-- The assertion of `modeACInit` holds: each entry is set once. -/
theorem modeACInit_once {i j : Nat} (hi : i < 4096) (hj : j < 4096)
    (h : internalModeAToModeC (indexToModeA (BitVec.ofNat 32 i)) =
      internalModeAToModeC (indexToModeA (BitVec.ofNat 32 j)))
    (hvalid : internalModeAToModeC (indexToModeA (BitVec.ofNat 32 i)) ≠ invalidAltitude) : i = j := by
  obtain ⟨n, hn, hcode, hmodeC⟩ := (modeC_iff _ _).mp ⟨rfl, hvalid⟩
  obtain ⟨n', hn', hcode', hmodeC'⟩ := (modeC_iff _ _).mp ⟨rfl, h ▸ hvalid⟩
  obtain rfl : n = n' := by omega
  exact indexToModeA_injective hi hj (hcode.trans hcode'.symm)

/-- The codes of altitudes are in the table of codes. -/
theorem indexToModeA_gillham (n : Nat) : indexToModeA (modeAToIndex (gillham n)) = gillham n := by
  have hmask : ∀ a : BitVec 32, indexToModeA (modeAToIndex a) = a &&& 0x7777 := by
    intro a
    apply BitVec.eq_of_getLsbD_eq
    intro i hi
    simp only [modeAToIndex, indexToModeA, BitVec.getLsbD_or, BitVec.getLsbD_and, BitVec.getLsbD_ushiftRight,
      BitVec.getLsbD_shiftLeft]
    interval_cases i <;> simp
  have hcovered : ∀ i < 32, (0x7777 : BitVec 32).getLsbD i = true ∨ (0xFFFF8889 : BitVec 32).getLsbD i = true := by
    decide
  rw [hmask]
  apply BitVec.eq_of_getLsbD_eq
  intro i hi
  rw [BitVec.getLsbD_and]
  obtain hin | hout := hcovered i hi
  · rw [hin, Bool.and_true]
  · rw [getLsbD_of_and (noOthers_gillham n) hout, Bool.false_and]

/-- The last entry that is made, when all that are made are the same. -/
theorem foldl_entry {α β : Type} {p : α → Prop} [DecidablePred p] {g : α → β} {v : β} (xs : List α) (entry : β)
    (hex : ∃ x ∈ xs, p x) (hall : ∀ x ∈ xs, p x → g x = v) :
    xs.foldl (fun entry x => if p x then g x else entry) entry = v := by
  induction xs using List.reverseRecOn with
  | nil => exact absurd hex (by simp)
  | append_singleton xs x ih =>
    rw [List.foldl_append]
    show (if p x then g x else _) = v
    by_cases hx : p x
    · rw [if_pos hx]
      exact hall x (by simp) hx
    · rw [if_neg hx]
      obtain ⟨y, hy, hpy⟩ := hex
      refine ih ⟨y, ?_, hpy⟩ fun z hz => hall z (List.mem_append_left _ hz)
      obtain hmem | hlast := List.mem_append.mp hy
      · exact hmem
      · exact absurd (List.mem_singleton.mp hlast ▸ hpy) hx

/-- **Main theorem.** The table has the code of every altitude from -1200 to 126700 feet, and nothing else. -/
theorem modeCToModeA_eq (modeC : Int) :
    modeCToModeA modeC = if -12 ≤ modeC ∧ modeC < 1268 then gillham (modeC + 12).toNat else 0 := by
  split
  · next hrange =>
    obtain ⟨n, rfl⟩ : ∃ n : Nat, modeC = (n : Int) - 12 := ⟨(modeC + 12).toNat, by omega⟩
    have hn : n < 1280 := by omega
    have htoNat : ((n : Int) - 12 + 12).toNat = n := by omega
    have htoNat' : ((n : Int) - 12 + 13).toNat = n + 1 := by omega
    rw [modeCToModeA, if_neg (by omega), htoNat, htoNat', modeCToATable]
    refine foldl_entry (List.range 4096) 0 ⟨(modeAToIndex (gillham n)).toNat, ?_, ?_⟩ fun i hi hentry => ?_
    · exact List.mem_range.mpr (modeAToIndex_lt (gillham n))
    · rw [BitVec.ofNat_toNat, BitVec.setWidth_eq, indexToModeA_gillham, modeC_gillham hn]
      push_cast
      ring
    · obtain ⟨n', hn', hcode, hmodeC⟩ := (modeC_iff _ _).mp ⟨rfl, fun hinvalid => by
        rw [hinvalid, invalidAltitude] at hentry
        omega⟩
      obtain rfl : n = n' := by omega
      exact hcode
  · next hrange =>
    by_contra hne
    obtain ⟨index, hlt, -, hcode⟩ := modeCToModeA_code hne
    obtain ⟨n, hn, -, rfl⟩ := (modeC_iff _ modeC).mp ⟨hcode, fun hinvalid => by
      rw [hinvalid, modeCToModeA, invalidAltitude, if_pos (by omega)] at hne
      exact hne rfl⟩
    omega

/-- There and back. -/
theorem modeAToModeC_modeCToModeA {modeC : Int} (h : modeCToModeA modeC ≠ 0) :
    modeAToModeC (modeCToModeA modeC) = modeC := by
  rw [modeCToModeA_eq] at h ⊢
  split at h
  · next hrange =>
    have hlt : ¬ modeAToIndex (gillham (modeC + 12).toNat) ≥ 4096 := by
      rw [ge_iff_le, BitVec.le_def]
      exact Nat.not_le.mpr (modeAToIndex_lt _)
    rw [if_pos hrange, modeAToModeC, if_neg hlt, indexToModeA_gillham, modeC_gillham (by omega)]
    omega
  · exact absurd rfl h

end RbFeeder.Tracker
