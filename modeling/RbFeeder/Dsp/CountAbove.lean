import RbFeeder.Lib.Unrolled
import RbFeeder.Sdr.Fifo
import RbFeeder.Adaptive.Samples

/-! Counting loud samples: `count_above_u16`.

There are two implementations, and the one that is fastest on the processor is used. One is
the plain loop. The other one takes eight samples in a turn: a comparison of vector registers
leaves -1 in the lane of a hit, and the lanes are widened and subtracted from two registers of
four counters, which are added up at the end. Lanes wrap, as the plain counter does, so they
agree on every buffer. -/
namespace RbFeeder.Dsp
open Unrolled
open Sdr (Sample)

/-! ### Vector registers -/

/-- A register of `n` lanes. -/
abbrev Lanes (n w : Nat) := Fin n → BitVec w

section Intrinsics
variable {n w : Nat}

def vdupq_n_u16 (x : Sample) : Lanes 8 16 := fun _ => x

def vld1q_u16 (p : List Sample) : Lanes 8 16 := fun i => p.getD i 0

def vld1_dup_u16 (x : Sample) : Lanes 4 16 := fun _ => x

def vget_low (v : Lanes (n + n) w) : Lanes n w := fun i => v (i.castAdd n)

def vget_high (v : Lanes (n + n) w) : Lanes n w := fun i => v (i.natAdd n)

/-- All ones in the lanes in which the first is not less. -/
def vcge_u16 (a b : Lanes n 16) : Lanes n 16 := fun i => if b i ≤ a i then BitVec.allOnes 16 else 0

/-- The second is widened as a signed number. -/
def vsubw_s16 (a : Lanes 4 32) (b : Lanes 4 16) : Lanes 4 32 := fun i => a i - (b i).signExtend 32

def vadd_s32 (a b : Lanes n 32) : Lanes n 32 := fun i => a i + b i

/-- Sums of neighbours. -/
def vpadd_s32 (a b : Lanes 2 32) : Lanes 2 32 := ![a 0 + a 1, b 0 + b 1]

def vcombine_s32 (a b : Lanes 2 32) : Lanes 4 32 := ![a 0, a 1, b 0, b 1]

end Intrinsics

/-! ### The implementations -/

def count_above_u16_generic (xs : List Sample) (threshold : Sample) : BitVec 32 :=
  xs.foldl (fun count x => if threshold ≤ x then count + 1 else count) 0

/-- Eight samples. -/
def neonTurn (threshold_x8 : Lanes 8 16) (accumulators : Lanes 4 32 × Lanes 4 32) (part : List Sample) :
    Lanes 4 32 × Lanes 4 32 :=
  let compare := vcge_u16 (vld1q_u16 part) threshold_x8
  (vsubw_s16 accumulators.1 (vget_low (n := 4) compare), vsubw_s16 accumulators.2 (vget_high (n := 4) compare))

/-- The sum of all lanes, in all lanes. -/
def neonSum (accumulators : Lanes 4 32 × Lanes 4 32) : Lanes 4 32 :=
  let sum2 := vadd_s32 accumulators.1 accumulators.2
  let sum4 := vadd_s32 (vget_low (n := 2) sum2) (vget_high (n := 2) sum2)
  let sum8 := vpadd_s32 sum4 sum4
  vcombine_s32 sum8 sum8

/-- One of the last samples. -/
def neonOne (threshold_x8 : Lanes 8 16) (sum8_x2 : Lanes 4 32) (x : Sample) : Lanes 4 32 :=
  vsubw_s16 sum8_x2 (vcge_u16 (vld1_dup_u16 x) (vget_low (n := 4) threshold_x8))

def count_above_u16_neon (xs : List Sample) (threshold : Sample) : BitVec 32 :=
  let threshold_x8 := vdupq_n_u16 threshold
  unrolled 8 (neonTurn threshold_x8) neonSum (neonOne threshold_x8) (fun _ => 0, fun _ => 0) xs 0

/-! ### Hits -/

section Hits
variable (threshold : Sample)

/-- What a sample adds to a counter. -/
def hit (x : Sample) : BitVec 32 := if threshold ≤ x then 1 else 0

/-- What these samples add. -/
def hits (xs : List Sample) : BitVec 32 := BitVec.ofNat 32 (xs.countP (threshold ≤ ·))

theorem hits_append (xs ys : List Sample) : hits threshold (xs ++ ys) = hits threshold xs + hits threshold ys := by
  rw [hits, List.countP_append, BitVec.ofNat_add, hits, hits]

theorem hits_cons (x : Sample) (xs : List Sample) :
    hits threshold (x :: xs) = hit threshold x + hits threshold xs := by
  have hone : hits threshold [x] = hit threshold x := by
    rw [hits, hit, List.countP_singleton]
    by_cases hle : threshold ≤ x
    · rw [if_pos hle, if_pos (decide_eq_true hle)]
      rfl
    · rw [if_neg hle, if_neg (by simpa using hle)]
      rfl
  rw [← List.singleton_append, hits_append, hone]

theorem toNat_hits {xs : List Sample} (hlen : xs.length < 2 ^ 32) :
    (hits threshold xs).toNat = xs.countP (threshold ≤ ·) := by
  have hcount : xs.countP (threshold ≤ ·) < 2 ^ 32 := lt_of_le_of_lt List.countP_le_length hlen
  rw [hits, BitVec.toNat_ofNat, Nat.mod_eq_of_lt hcount]

/-- A comparison subtracts -1 for a hit. -/
theorem sub_compare (a : BitVec 32) (x : Sample) :
    a - (if threshold ≤ x then BitVec.allOnes 16 else 0).signExtend 32 = a + hit threshold x := by
  rw [hit]
  split
  · rw [show (BitVec.allOnes 16).signExtend 32 = -1#32 by decide, BitVec.sub_eq_add_neg, BitVec.neg_neg]
    rfl
  · rw [show (0 : BitVec 16).signExtend 32 = 0#32 by decide, BitVec.sub_zero]
    exact (BitVec.add_zero a).symm

variable {threshold}

theorem count_above_u16_generic_eq (xs : List Sample) : count_above_u16_generic xs threshold = hits threshold xs := by
  refine foldl_all (Q := fun count taken => count = hits threshold taken) (fun count taken x hcount => ?_) rfl xs
  rw [hits_append, hits_cons, ← hcount, hit]
  split
  · rfl
  · exact (BitVec.add_zero count).symm

/-! ### Lanes -/

theorem neonTurn_low (acc : Lanes 4 32 × Lanes 4 32) (part : List Sample) (i : Fin 4) :
    (neonTurn (vdupq_n_u16 threshold) acc part).1 i = acc.1 i + hit threshold (part.getD i 0) :=
  sub_compare threshold (acc.1 i) (part.getD i 0)

theorem neonTurn_high (acc : Lanes 4 32 × Lanes 4 32) (part : List Sample) (i : Fin 4) :
    (neonTurn (vdupq_n_u16 threshold) acc part).2 i = acc.2 i + hit threshold (part.getD (4 + i) 0) :=
  sub_compare threshold (acc.2 i) (part.getD (4 + i) 0)

theorem hits_eight {part : List Sample} (hpart : part.length = 8) :
    hits threshold part =
      ∑ i : Fin 4, hit threshold (part.getD i 0) + ∑ i : Fin 4, hit threshold (part.getD (4 + i) 0) := by
  match part, hpart with
  | [x0, x1, x2, x3, x4, x5, x6, x7], _ =>
    simp only [hits_cons, Fin.sum_univ_four]
    show _ + (_ + (_ + (_ + (_ + (_ + (_ + (_ + 0))))))) = hit threshold x0 + hit threshold x1 + hit threshold x2 +
      hit threshold x3 + (hit threshold x4 + hit threshold x5 + hit threshold x6 + hit threshold x7)
    ring

/-- A turn adds its hits to the lanes of both registers. -/
theorem sum_neonTurn {acc : Lanes 4 32 × Lanes 4 32} {taken part : List Sample}
    (hacc : ∑ i, acc.1 i + ∑ i, acc.2 i = hits threshold taken) (hpart : part.length = 8) :
    ∑ i, (neonTurn (vdupq_n_u16 threshold) acc part).1 i + ∑ i, (neonTurn (vdupq_n_u16 threshold) acc part).2 i =
      hits threshold (taken ++ part) := by
  simp only [neonTurn_low, neonTurn_high, Finset.sum_add_distrib]
  rw [hits_append, hits_eight hpart, ← hacc]
  ring

theorem neonSum_zero (acc : Lanes 4 32 × Lanes 4 32) : neonSum acc 0 = ∑ i, acc.1 i + ∑ i, acc.2 i := by
  simp only [Fin.sum_univ_four]
  show acc.1 0 + acc.2 0 + (acc.1 2 + acc.2 2) + (acc.1 1 + acc.2 1 + (acc.1 3 + acc.2 3)) = _
  ring

theorem neonOne_zero (sum8_x2 : Lanes 4 32) (x : Sample) :
    neonOne (vdupq_n_u16 threshold) sum8_x2 x 0 = sum8_x2 0 + hit threshold x :=
  sub_compare threshold (sum8_x2 0) x

theorem count_above_u16_neon_eq (xs : List Sample) : count_above_u16_neon xs threshold = hits threshold xs := by
  refine unrolled_rule (P := fun acc taken => ∑ i, acc.1 i + ∑ i, acc.2 i = hits threshold taken)
    (Q := fun (sum : Lanes 4 32) taken => sum 0 = hits threshold taken)
    (fun acc taken part => sum_neonTurn) (fun acc taken hacc => ?_) (fun sum taken x hsum => ?_) ?_ xs
  · exact (neonSum_zero acc).trans hacc
  · rw [neonOne_zero, hits_append, hits_cons, hsum]
    exact congrArg _ (BitVec.add_zero _).symm
  · rfl

end Hits

/-- **Main theorem.** Whichever implementation is used, it counts the samples that are not below the threshold. -/
theorem count_above_u16 {xs : List Sample} (hlen : xs.length < 2 ^ 32) (threshold : Sample) :
    count_above_u16_neon xs threshold = count_above_u16_generic xs threshold ∧
      (count_above_u16_generic xs threshold).toNat = xs.countP (threshold ≤ ·) := by
  refine ⟨(count_above_u16_neon_eq xs).trans (count_above_u16_generic_eq xs).symm, ?_⟩
  rw [count_above_u16_generic_eq, toNat_hits threshold hlen]

theorem count_above_u16_nine :
    count_above_u16_neon [7, 46395, 1, 46394, 65535, 0, 46396, 2, 50000] 46395 =
        count_above_u16_generic [7, 46395, 1, 46394, 65535, 0, 46396, 2, 50000] 46395 ∧
      (count_above_u16_generic [7, 46395, 1, 46394, 65535, 0, 46396, 2, 50000] 46395).toNat =
        ([7, 46395, 1, 46394, 65535, 0, 46396, 2, 50000] : List Sample).countP (46395 ≤ ·) :=
  count_above_u16 (by decide) 46395

/-- The burst windows are counted by either. -/
theorem burstCountSamples_eq (xs : List Adaptive.Sample) (hlen : xs.length < 2 ^ 32) :
    Adaptive.burstCountSamples xs = (count_above_u16_neon (xs.map UInt16.toBitVec) 46395).toNat := by
  rw [count_above_u16_neon_eq, toNat_hits 46395 (by rwa [List.length_map]), List.countP_map]
  rfl

end RbFeeder.Dsp
