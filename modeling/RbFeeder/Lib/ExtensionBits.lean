import Mathlib

/-! Bitmaps with extension bits.

A bitmap of unknown length is sent as bytes of seven flags, the first flag in the most
significant bit; the least significant bit says that another byte follows. `readBitmap`
reads one and gives the numbers of the flags that are set, from one on.
`readBitmap_chain`: if the extension bits are set in all bytes but the last, what is
read are the flags of all bytes, and nothing after them is touched. -/
namespace ExtensionBits

/-- The numbers of the flags that are set in byte `k`. -/
def flags (k : Nat) (byte : BitVec 8) : List Nat :=
  ((List.range 7).filter fun i => byte.getLsbD (7 - i)).map fun i => 7 * k + i + 1

/-- The flags from byte `k` on, and what follows the bitmap. -/
def readFrom (k : Nat) : List (BitVec 8) → Option (List Nat × List (BitVec 8))
  | [] => none
  | byte :: rest =>
    if byte.getLsbD 0 then (readFrom (k + 1) rest).map fun r => (flags k byte ++ r.1, r.2)
    else some (flags k byte, rest)

/-- A bitmap, and what follows it. -/
def readBitmap (bytes : List (BitVec 8)) : Option (List Nat × List (BitVec 8)) := readFrom 0 bytes

variable {byte : Nat → BitVec 8} {n : Nat}

theorem readFrom_chain (hlast : ∀ k, k < n → ((byte k).getLsbD 0 = true ↔ k + 1 < n)) (k m : Nat)
    (hm : k + (m + 1) = n) (rest : List (BitVec 8)) :
    readFrom k ((List.range' k (m + 1)).map byte ++ rest) =
      some ((List.range' k (m + 1)).flatMap (fun j => flags j (byte j)), rest) := by
  induction m generalizing k with
  | zero =>
    have hend : ¬ (byte k).getLsbD 0 = true := by
      rw [hlast k (by omega)]
      omega
    have hread : readFrom k (byte k :: rest) = some (flags k (byte k), rest) := if_neg hend
    rw [Nat.zero_add, List.range'_one, List.map_singleton, List.flatMap_singleton, List.singleton_append,
      hread]
  | succ m ih =>
    have hmore : (byte k).getLsbD 0 = true := (hlast k (by omega)).mpr (by omega)
    rw [List.range'_succ, List.map_cons, List.cons_append, readFrom, if_pos hmore, ih (k + 1) (by omega),
      List.flatMap_cons]
    rfl

variable (byte) in
/-- **A chain of bytes reads as the flags in them.** -/
theorem readBitmap_chain (hlast : ∀ k, k < n → ((byte k).getLsbD 0 = true ↔ k + 1 < n)) (hn : 0 < n)
    (rest : List (BitVec 8)) :
    readBitmap ((List.range n).map byte ++ rest) =
      some ((List.range n).flatMap (fun j => flags j (byte j)), rest) := by
  obtain ⟨m, rfl⟩ : ∃ m, n = m + 1 := ⟨n - 1, by omega⟩
  rw [List.range_eq_range']
  exact readFrom_chain hlast 0 m (by omega) rest

variable (byte) in
/-- The flags of `n` bytes are those of the first `7 * n` that are set. -/
theorem flatMap_flags (p : Nat → Bool)
    (hflag : ∀ k i, k < n → i < 7 → (byte k).getLsbD (7 - i) = p (7 * k + i + 1)) :
    (List.range n).flatMap (fun j => flags j (byte j)) = (List.range' 1 (7 * n)).filter p := by
  induction n with
  | zero => rfl
  | succ n ih =>
    have hbyte : flags n (byte n) = (List.range' (1 + 7 * n) 7).filter p := by
      rw [flags, List.range'_eq_map_range, List.filter_map]
      have hsame : (List.range 7).filter (fun i => (byte n).getLsbD (7 - i)) =
          (List.range 7).filter (p ∘ fun i => 1 + 7 * n + i) := by
        refine List.filter_congr fun i hi => ?_
        rw [hflag n i (by omega) (List.mem_range.mp hi), Function.comp_apply]
        congr 1
        omega
      rw [hsame]
      refine List.map_congr_left fun i _ => ?_
      omega
    rw [List.range_succ, List.flatMap_append, ih fun k i hk hi => hflag k i (by omega) hi,
      List.flatMap_singleton, hbyte, ← List.filter_append, Nat.mul_succ, List.range'_append_1]

end ExtensionBits
