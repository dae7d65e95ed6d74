import Mathlib

/-! A ring of the last values, and what a fold over it comes to.

`push` writes behind the newest value and so over the oldest one. Seen from the newest
backwards (`recent`) the ring holds the values pushed last, and before these what it
started with (`Holds`). A commutative fold does not see where in the ring it starts
(`fold_slots`). -/
namespace RbFeeder

/-- `size` slots, of which one is the newest. -/
structure Ring (α : Type) where
  newest : ℕ
  slots : ℕ → α

namespace Ring

theorem next_eq {size m : ℕ} (hm : m < size) : (m + 1) % size = if m + 1 = size then 0 else m + 1 := by
  split_ifs with h
  · rw [h, Nat.mod_self]
  · exact Nat.mod_eq_of_lt (by omega)

theorem back_eq {size m i : ℕ} (hm : m < size) (hi : i < size) :
    (m + size - i) % size = if i ≤ m then m - i else m + size - i := by
  split_ifs with h
  · have : m + size - i = m - i + size := by omega
    rw [this, Nat.add_mod_right, Nat.mod_eq_of_lt (by omega)]
  · exact Nat.mod_eq_of_lt (by omega)

variable {α : Type} (size : ℕ)

def push (r : Ring α) (a : α) : Ring α where
  newest := (r.newest + 1) % size
  slots := Function.update r.slots ((r.newest + 1) % size) a

/-- The value pushed `i` values ago. -/
def recent (r : Ring α) (i : ℕ) : α := r.slots ((r.newest + size - i) % size)

/-- The values seen from the newest one backwards are `l`, and then `start`. -/
structure Holds (start : α) (r : Ring α) (l : List α) : Prop where
  newest : r.newest < size
  recent : ∀ i < size, r.recent size i = l.getD i start

variable {size} {start : α} {r : Ring α} {l : List α}

variable (start) in
theorem Holds.initial (hsize : 0 < size) : Holds size start ⟨0, fun _ => start⟩ [] :=
  ⟨hsize, fun _ _ => rfl⟩

theorem recent_push_zero (r : Ring α) (a : α) : (r.push size a).recent size 0 = a := by
  unfold recent push
  dsimp only
  rw [Nat.sub_zero, Nat.add_mod_right, Nat.mod_mod, Function.update_self]

theorem recent_push_succ (r : Ring α) (a : α) (hnewest : r.newest < size) {i : ℕ} (hi : i + 1 < size) :
    (r.push size a).recent size (i + 1) = r.recent size i := by
  unfold recent push
  dsimp only
  have hnext : (r.newest + 1) % size < size := Nat.mod_lt _ (by omega)
  have hslot : ((r.newest + 1) % size + size - (i + 1)) % size = (r.newest + size - i) % size := by
    rw [back_eq hnext hi, back_eq hnewest (by omega), next_eq hnewest]
    split_ifs <;> omega
  have hother : (r.newest + size - i) % size ≠ (r.newest + 1) % size := by
    rw [back_eq hnewest (by omega), next_eq hnewest]
    split_ifs <;> omega
  rw [hslot, Function.update_of_ne hother]

theorem Holds.push (h : Holds size start r l) (a : α) : Holds size start (r.push size a) (a :: l) := by
  have hpos : 0 < size := Nat.zero_lt_of_lt h.newest
  refine ⟨Nat.mod_lt _ hpos, fun i hi => ?_⟩
  cases i with
  | zero => rw [recent_push_zero r a, List.getD_cons_zero]
  | succ i => rw [recent_push_succ r a h.newest hi, List.getD_cons_succ, h.recent i (by omega)]

theorem slots_perm (h : r.newest < size) :
    ((List.range size).map r.slots).Perm ((List.range size).map (r.recent size)) := by
  have hrecent : (List.range size).map (r.recent size) =
      ((List.range size).map fun i => (r.newest + size - i) % size).map r.slots := by
    rw [List.map_map]
    rfl
  rw [hrecent]
  have hback : ∀ i < size, (r.newest + size - i) % size < size := fun i hi => by
    rw [back_eq h hi]
    split_ifs <;> omega
  have hinvolution : ∀ i < size, (r.newest + size - (r.newest + size - i) % size) % size = i := fun i hi => by
    rw [back_eq h (hback i hi), back_eq h hi]
    split_ifs <;> omega
  refine List.Perm.map _ ((List.perm_ext_iff_of_nodup List.nodup_range ?_).mpr fun j => ?_)
  · refine List.Nodup.map_on (fun i hi j hj hij => ?_) List.nodup_range
    rw [← hinvolution i (List.mem_range.mp hi), hij, hinvolution j (List.mem_range.mp hj)]
  · rw [List.mem_range, List.mem_map]
    constructor
    · exact fun hj => ⟨_, List.mem_range.mpr (hback j hj), hinvolution j hj⟩
    · intro hgiven
      obtain ⟨i, hi, rfl⟩ := hgiven
      exact hback i (List.mem_range.mp hi)

theorem Holds.recent_eq (h : Holds size start r l) {n : ℕ} (hn : n ≤ size) :
    (List.range n).map (r.recent size) = l.take n ++ List.replicate (n - l.length) start := by
  refine List.ext_getElem ?_ fun i hi hi' => ?_
  · simp only [List.length_map, List.length_range, List.length_append, List.length_take, List.length_replicate]
    omega
  · rw [List.length_map, List.length_range] at hi
    rw [List.getElem_map, List.getElem_range, h.recent i (by omega), List.getElem_append]
    split_ifs with hin
    · rw [List.length_take] at hin
      rw [List.getElem_take, List.getD_eq_getElem _ _ (by omega)]
    · rw [List.length_take] at hin
      rw [List.getElem_replicate, List.getD_eq_default _ _ (by omega)]

/-! ### Folds -/

/-- Add the values one after the other, as a loop does. -/
def folded {M : Type} (op : M → M → M) (zero : M) (l : List M) : M := l.foldl (fun total a => op a total) zero

section Folds
variable {M : Type} {op : M → M → M} {e : M}

theorem folded_hom {add : α → α → α} {zero : α} {φ : α → M} (hzero : φ zero = e)
    (hadd : ∀ a b, φ (add a b) = op (φ a) (φ b)) (l : List α) :
    φ (folded add zero l) = folded op e (l.map φ) := by
  unfold folded
  rw [← hzero]
  generalize zero = total
  induction l generalizing total with
  | nil => rfl
  | cons a l ih => rw [List.foldl_cons, ih, List.map_cons, List.foldl_cons, hadd]

variable (hcomm : ∀ a b, op a b = op b a) (hassoc : ∀ a b c, op (op a b) c = op a (op b c))
include hcomm hassoc

theorem folded_cons (a : M) (l : List M) : folded op e (a :: l) = op a (folded op e l) := by
  unfold folded
  rw [List.foldl_cons]
  generalize e = total
  induction l generalizing total with
  | nil => rfl
  | cons b l ih =>
    rw [List.foldl_cons, List.foldl_cons, ← ih]
    congr 1
    rw [← hassoc, hcomm b a, hassoc]

theorem folded_perm {l l' : List M} (h : l.Perm l') : folded op e l = folded op e l' := by
  induction h with
  | nil => rfl
  | cons a _ ih => rw [folded_cons hcomm hassoc, folded_cons hcomm hassoc, ih]
  | swap a b l =>
    rw [folded_cons hcomm hassoc, folded_cons hcomm hassoc, folded_cons hcomm hassoc, folded_cons hcomm hassoc, ← hassoc,
      hcomm b a, hassoc]
  | trans _ _ ih ih' => exact ih.trans ih'

/-- What the ring started with adds nothing. -/
theorem folded_units (hunit : ∀ a, op e a = a) (l : List M) (n : ℕ) :
    folded op e (l ++ List.replicate n e) = folded op e l := by
  induction l with
  | nil =>
    induction n with
    | zero => rfl
    | succ n ih =>
      rw [List.nil_append] at ih ⊢
      rw [List.replicate_succ, folded_cons hcomm hassoc, ih]
      exact hunit _
  | cons a l ih => rw [List.cons_append, folded_cons hcomm hassoc, folded_cons hcomm hassoc, ih]

/-- The last `n` values, from the newest backwards. -/
theorem Holds.fold_recent (h : Holds size start r l) (hunit : ∀ a, op e a = a) {φ : α → M} (hstart : φ start = e)
    {n : ℕ} (hn : n ≤ size) :
    folded op e (((List.range n).map (r.recent size)).map φ) = folded op e ((l.take n).map φ) := by
  rw [h.recent_eq hn, List.map_append, List.map_replicate, hstart, folded_units hcomm hassoc hunit]

/-- All the slots, in the order they lie in. -/
theorem Holds.fold_slots (h : Holds size start r l) (hunit : ∀ a, op e a = a) {φ : α → M} (hstart : φ start = e) :
    folded op e (((List.range size).map r.slots).map φ) = folded op e ((l.take size).map φ) := by
  rw [folded_perm hcomm hassoc ((slots_perm h.newest).map φ), h.fold_recent hcomm hassoc hunit hstart (le_refl size)]

end Folds

end Ring

end RbFeeder
