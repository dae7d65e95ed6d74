import RbFeeder.Demod.DfFilter
import RbFeeder.Sdr.Fifo

/-! Slicing bits out of samples: the phase switch of `demodulate2400`.

At 2.4 MHz a bit has 2.4 samples, so that a bit starts at one of five phases within a
sample, and five correlation functions tell a one from a zero. The switch unrolls the
eight bits of a byte for each phase it can start with. It samples the message every
twelve fifths of a sample (`slicing_exact`).

A `View` is what a pointer into the buffer points to: outside the buffer there is
nothing to read. -/
namespace RbFeeder.Demod
open ModeS (Byte bitAt byteAt shortMsgBytes longMsgBytes)
open Sdr (Sample)

/-- `uint16_t *`: the samples from a pointer on. -/
abbrev View := Nat → Option Sample

/-- `pPtr + n`. -/
def View.advance (p : View) (n : Nat) : View := fun k => p (n + k)

@[simp] theorem View.advance_apply (p : View) (n k : Nat) : p.advance n k = p (n + k) := rfl

theorem View.advance_advance (p : View) (a b : Nat) : (p.advance a).advance b = p.advance (a + b) := by
  funext k
  simp only [View.advance_apply, Nat.add_assoc]

/-- `&m[j]`, in samples without an end. -/
def View.into (m : Nat → Sample) (j : Nat) : View := fun k => some (m (j + k))

theorem View.advance_into (m : Nat → Sample) (j n : Nat) : (View.into m j).advance n = View.into m (j + n) := by
  funext k
  simp only [View.advance_apply, View.into, Nat.add_assoc]

/-! ### The correlation functions -/

/-- The value of a sample. -/
def level (s : Sample) : Int := s.toNat

def slice_phase0 (m : View) : Option Int := do
  let m0 ← m 0
  let m1 ← m 1
  let m2 ← m 2
  some (5 * level m0 - 3 * level m1 - 2 * level m2)

def slice_phase1 (m : View) : Option Int := do
  let m0 ← m 0
  let m1 ← m 1
  let m2 ← m 2
  some (4 * level m0 - level m1 - 3 * level m2)

def slice_phase2 (m : View) : Option Int := do
  let m0 ← m 0
  let m1 ← m 1
  let m2 ← m 2
  some (3 * level m0 + level m1 - 4 * level m2)

def slice_phase3 (m : View) : Option Int := do
  let m0 ← m 0
  let m1 ← m 1
  let m2 ← m 2
  some (2 * level m0 + 3 * level m1 - 5 * level m2)

def slice_phase4 (m : View) : Option Int := do
  let m0 ← m 0
  let m1 ← m 1
  let m2 ← m 2
  let m3 ← m 3
  some (level m0 + 5 * level m1 - 5 * level m2 - level m3)

/-! ### Bytes -/

/-- The eight slices of `switch (phase)`, with their offsets from `pPtr`. -/
def byteSlices : Nat → List ((View → Option Int) × Nat)
  | 0 => [(slice_phase0, 0), (slice_phase2, 2), (slice_phase4, 4), (slice_phase1, 7),
      (slice_phase3, 9), (slice_phase0, 12), (slice_phase2, 14), (slice_phase4, 16)]
  | 1 => [(slice_phase1, 0), (slice_phase3, 2), (slice_phase0, 5), (slice_phase2, 7),
      (slice_phase4, 9), (slice_phase1, 12), (slice_phase3, 14), (slice_phase0, 17)]
  | 2 => [(slice_phase2, 0), (slice_phase4, 2), (slice_phase1, 5), (slice_phase3, 7),
      (slice_phase0, 10), (slice_phase2, 12), (slice_phase4, 14), (slice_phase1, 17)]
  | 3 => [(slice_phase3, 0), (slice_phase0, 3), (slice_phase2, 5), (slice_phase4, 7),
      (slice_phase1, 10), (slice_phase3, 12), (slice_phase0, 15), (slice_phase2, 17)]
  | _ => [(slice_phase4, 0), (slice_phase1, 3), (slice_phase3, 5), (slice_phase0, 8),
      (slice_phase2, 10), (slice_phase4, 12), (slice_phase1, 15), (slice_phase3, 17)]

/-- The phase of the next byte. -/
def nextPhase : Nat → Nat
  | 0 => 1
  | 1 => 2
  | 2 => 3
  | 3 => 4
  | _ => 0

/-- How far `pPtr` goes on. -/
def byteSamples : Nat → Nat
  | 4 => 20
  | _ => 19

/-- `theByte`, of the eight correlations. -/
def theByte (values : List Int) : Byte :=
  (values.zip [0x80, 0x40, 0x20, 0x10, 0x08, 0x04, 0x02, 0x01]).foldl
    (fun byte slice => byte ||| if slice.1 > 0 then slice.2 else 0) 0

def sliceByte (phase : Nat) (pPtr : View) : Option Byte := do
  let values ← (byteSlices phase).mapM fun slice => slice.1 (pPtr.advance slice.2)
  some (theByte values)

/-- The loop over `n` bytes. -/
def sliceBytes : Nat → Nat → View → Option (List Byte)
  | 0, _, _ => some []
  | n + 1, phase, pPtr => do
    let byte ← sliceByte phase pPtr
    let rest ← sliceBytes n (nextPhase phase) (pPtr.advance (byteSamples phase))
    some (byte :: rest)

/-- The message at a preamble, from `preamble` on. After its first byte the downlink
format says how long it is, or that it is none. -/
def sliceMessage (sets : Bitsets) (try_phase : Nat) (preamble : View) : Option (List Byte) := do
  let pPtr := preamble.advance (19 + try_phase / 5)
  let first ← sliceByte (try_phase % 5) pPtr
  sliceBytes (sets.bytelen first) (try_phase % 5) pPtr

/-! ### Symbols -/

/-- The correlation function of a phase. -/
def slicePhase : Nat → View → Option Int
  | 0 => slice_phase0
  | 1 => slice_phase1
  | 2 => slice_phase2
  | 3 => slice_phase3
  | _ => slice_phase4

/-- The symbol that starts `t` fifths of a sample behind the pointer. -/
def symbolAt (t : Nat) (p : View) : Option Int := slicePhase (t % 5) (p.advance (t / 5))

theorem symbolAt_advance {t t' n : Nat} (h : t' = t + 5 * n) (p : View) :
    symbolAt t (p.advance n) = symbolAt t' p := by
  subst h
  rw [symbolAt, symbolAt, View.advance_advance, Nat.add_mul_mod_self_left, Nat.add_mul_div_left _ _ (by decide),
    Nat.add_comm]

/-- The unrolled slices are twelve fifths of a sample apart. -/
theorem byteSlices_eq {phase : Nat} (h : phase < 5) (p : View) :
    ((byteSlices phase).mapM fun slice => slice.1 (p.advance slice.2)) =
      (List.range 8).mapM fun i => symbolAt (phase + 12 * i) p := by
  interval_cases phase <;> rfl

/-! ### Reading in a row -/

section Rows
variable {α β : Type} {f g : α → Option β}

theorem mapM_congr {xs : List α} (h : ∀ x ∈ xs, f x = g x) : xs.mapM f = xs.mapM g := by
  induction xs with
  | nil => rfl
  | cons x xs ih =>
    rw [List.mapM_cons, List.mapM_cons, h x List.mem_cons_self, ih fun y hy => h y (List.mem_cons_of_mem x hy)]

theorem mapM_some {xs : List α} {value : α → β} (h : ∀ x ∈ xs, f x = some (value x)) :
    xs.mapM f = some (xs.map value) := by
  induction xs with
  | nil => rfl
  | cons x xs ih =>
    rw [List.mapM_cons, h x List.mem_cons_self, ih fun y hy => h y (List.mem_cons_of_mem x hy)]
    rfl

theorem length_mapM {xs : List α} {ys : List β} (h : xs.mapM f = some ys) : ys.length = xs.length := by
  induction xs generalizing ys with
  | nil =>
    obtain rfl := Option.some.inj h
    rfl
  | cons x xs ih =>
    rw [List.mapM_cons] at h
    obtain ⟨y, -, h⟩ := Option.bind_eq_some_iff.mp h
    obtain ⟨rest, hrest, h⟩ := Option.bind_eq_some_iff.mp h
    obtain rfl := Option.some.inj h
    rw [List.length_cons, List.length_cons, ih hrest]

end Rows

/-- The bytes of the correlations. -/
def packValues : List Int → List Byte
  | v0 :: v1 :: v2 :: v3 :: v4 :: v5 :: v6 :: v7 :: rest =>
    theByte [v0, v1, v2, v3, v4, v5, v6, v7] :: packValues rest
  | _ => []

theorem packValues_append {values : List Int} (h : values.length = 8) (rest : List Int) :
    packValues (values ++ rest) = theByte values :: packValues rest := by
  match values, h with
  | [_, _, _, _, _, _, _, _], _ => rfl

/-- A byte goes on where the unrolled slices of the next one start. -/
theorem byte_advance {phase : Nat} (h : phase < 5) :
    phase + 96 = nextPhase phase + 5 * byteSamples phase ∧ nextPhase phase < 5 := by
  interval_cases phase <;> decide

/-- The loop samples the message in steps of twelve fifths. -/
theorem sliceBytes_eq (n : Nat) {phase : Nat} (h : phase < 5) (p : View) :
    sliceBytes n phase p = ((List.range (8 * n)).mapM fun i => symbolAt (phase + 12 * i) p).map packValues := by
  induction n generalizing phase p with
  | zero => rfl
  | succ n ih =>
    obtain ⟨hadvance, hphase⟩ := byte_advance h
    have hrest : ((List.range (8 * n)).mapM fun i =>
        symbolAt (nextPhase phase + 12 * i) (p.advance (byteSamples phase))) =
        ((List.range (8 * n)).map (8 + ·)).mapM fun i => symbolAt (phase + 12 * i) p := by
      rw [List.mapM_map]
      refine mapM_congr fun i _ => symbolAt_advance ?_ p
      show phase + 12 * (8 + i) = _
      omega
    have hrange : List.range (8 * (n + 1)) = List.range 8 ++ (List.range (8 * n)).map (8 + ·) := by
      rw [Nat.mul_succ, Nat.add_comm, List.range_add]
    rw [sliceBytes, ih hphase, hrest, hrange, List.mapM_append, sliceByte, byteSlices_eq h p]
    cases hvalues : (List.range 8).mapM fun i => symbolAt (phase + 12 * i) p with
    | none => rfl
    | some values =>
      have hlength : values.length = 8 := (length_mapM hvalues).trans List.length_range
      cases ((List.range (8 * n)).map (8 + ·)).mapM fun i => symbolAt (phase + 12 * i) p with
      | none => rfl
      | some rest => exact congrArg some (packValues_append hlength rest).symm

/-! ### Bits -/

theorem getLsbD_masks : ∀ (b0 b1 b2 b3 b4 b5 b6 b7 : Bool) (i : Fin 8),
    (([(b0, 0x80), (b1, 0x40), (b2, 0x20), (b3, 0x10), (b4, 0x08), (b5, 0x04), (b6, 0x02), (b7, 0x01)] :
      List (Bool × Byte)).foldl (fun (byte : Byte) (slice : Bool × Byte) => byte ||| if slice.1 then slice.2 else 0) 0).getLsbD (7 - i) =
      [b0, b1, b2, b3, b4, b5, b6, b7].getD i false := by
  decide +kernel

theorem getLsbD_theByte {values : List Int} (h : values.length = 8) {i : Nat} (hi : i < 8) :
    (theByte values).getLsbD (7 - i) = decide (0 < values.getD i 0) := by
  match values, h with
  | [v0, v1, v2, v3, v4, v5, v6, v7], _ =>
    have hmasks := getLsbD_masks (v0 > 0) (v1 > 0) (v2 > 0) (v3 > 0) (v4 > 0) (v5 > 0) (v6 > 0) (v7 > 0) ⟨i, hi⟩
    simp only [List.foldl_cons, List.foldl_nil, decide_eq_true_eq] at hmasks
    refine hmasks.trans ?_
    interval_cases i <;> rfl

theorem length_packValues (n : Nat) {values : List Int} (h : values.length = 8 * n) :
    (packValues values).length = n := by
  induction n generalizing values with
  | zero =>
    obtain rfl := List.length_eq_zero_iff.mp h
    rfl
  | succ n ih =>
    have hfirst : (values.take 8).length = 8 := by
      rw [List.length_take]
      omega
    have hrest : (values.drop 8).length = 8 * n := by
      rw [List.length_drop]
      omega
    rw [← List.take_append_drop 8 values, packValues_append hfirst, List.length_cons, ih hrest]

theorem byteAt_packValues {n : Nat} (hn : 0 < n) {values : List Int} (h : values.length = 8 * n) :
    byteAt (packValues values) 0 = theByte (values.take 8) := by
  have hfirst : (values.take 8).length = 8 := by
    rw [List.length_take]
    omega
  have hsplit := packValues_append hfirst (values.drop 8)
  rw [List.take_append_drop] at hsplit
  rw [hsplit]
  rfl

/-- A bit of the message is the sign of its symbol. -/
theorem bitAt_packValues (n : Nat) {values : List Int} (h : values.length = 8 * n) {i : Nat} (hi : i < 8 * n) :
    bitAt (packValues values) i = decide (0 < values.getD i 0) := by
  induction n generalizing values i with
  | zero => omega
  | succ n ih =>
    have hfirst : (values.take 8).length = 8 := by
      rw [List.length_take]
      omega
    have hrest : (values.drop 8).length = 8 * n := by
      rw [List.length_drop]
      omega
    rw [← List.take_append_drop 8 values, packValues_append hfirst]
    by_cases hi8 : i < 8
    · rw [List.getD_append _ _ _ _ (by omega), ← getLsbD_theByte hfirst hi8, bitAt, Nat.div_eq_of_lt hi8,
        Nat.mod_eq_of_lt hi8]
      rfl
    · obtain ⟨k, rfl⟩ : ∃ k, i = k + 8 := ⟨i - 8, by omega⟩
      rw [List.getD_append_right _ _ _ _ (by omega), hfirst, Nat.add_sub_cancel, ← ih hrest (by omega), bitAt,
        bitAt, Nat.add_div_right _ (by decide), Nat.add_mod_right]
      rfl

/-! ### Whole messages -/

theorem slicePhase_total (m : Nat → Sample) (j k : Nat) : ∃ v, slicePhase k (View.into m j) = some v := by
  match k with
  | 0 | 1 | 2 | 3 | _ + 4 => exact ⟨_, rfl⟩

/-- The correlation functions sum to zero. -/
theorem slicePhase_shift {m m' : Nat → Sample} {c : Nat} (h : ∀ k, (m' k).toNat = (m k).toNat + c) (j k : Nat) :
    slicePhase k (View.into m' j) = slicePhase k (View.into m j) := by
  have hlevel : ∀ k, level (m' k) = level (m k) + c := by
    intro k
    rw [level, level, h k]
    exact Nat.cast_add _ _
  match k with
  | 0 => exact congrArg some (by rw [hlevel, hlevel, hlevel]; ring)
  | 1 => exact congrArg some (by rw [hlevel, hlevel, hlevel]; ring)
  | 2 => exact congrArg some (by rw [hlevel, hlevel, hlevel]; ring)
  | 3 => exact congrArg some (by rw [hlevel, hlevel, hlevel]; ring)
  | _ + 4 => exact congrArg some (by rw [hlevel, hlevel, hlevel, hlevel]; ring)

/-- The symbols of a message are twelve fifths of a sample apart from its first byte on. -/
theorem symbolAt_message (try_phase i : Nat) (preamble : View) :
    symbolAt (try_phase % 5 + 12 * i) (preamble.advance (19 + try_phase / 5)) =
      slicePhase ((try_phase + 12 * i) % 5) (preamble.advance (19 + (try_phase + 12 * i) / 5)) := by
  have ht : try_phase + 12 * i = try_phase % 5 + 12 * i + 5 * (try_phase / 5) := by omega
  rw [← View.advance_advance, symbolAt_advance ht, symbolAt, View.advance_advance]

theorem sliceMessage_eq (sets : Bitsets) (try_phase : Nat) (preamble : View) :
    sliceMessage sets try_phase preamble =
      (sliceByte (try_phase % 5) (preamble.advance (19 + try_phase / 5))).bind fun first =>
        ((List.range (8 * sets.bytelen first)).mapM fun i =>
          slicePhase ((try_phase + 12 * i) % 5) (preamble.advance (19 + (try_phase + 12 * i) / 5))).map
            packValues := by
  have hphase : try_phase % 5 < 5 := Nat.mod_lt _ (by decide)
  unfold sliceMessage
  dsimp only
  refine congrArg _ (funext fun first => ?_)
  rw [sliceBytes_eq _ hphase]
  simp only [symbolAt_message]

theorem sliceByte_eq (try_phase : Nat) (preamble : View) :
    sliceByte (try_phase % 5) (preamble.advance (19 + try_phase / 5)) =
      ((List.range 8).mapM fun i =>
        slicePhase ((try_phase + 12 * i) % 5) (preamble.advance (19 + (try_phase + 12 * i) / 5))).map theByte := by
  rw [sliceByte, byteSlices_eq (Nat.mod_lt _ (by decide))]
  simp only [symbolAt_message]
  exact Option.map_eq_bind.symm

theorem bytelen_mem (sets : Bitsets) (first : Byte) : sets.bytelen first ∈ [1, shortMsgBytes, longMsgBytes] := by
  unfold Bitsets.bytelen
  dsimp only
  split_ifs <;> decide

theorem bytelen_pos (sets : Bitsets) (first : Byte) : 0 < sets.bytelen first := by
  have hmem := bytelen_mem sets first
  simp only [shortMsgBytes, longMsgBytes, List.mem_cons, List.not_mem_nil, or_false] at hmem
  omega

/-! ### What is read -/

/-- The same samples up to the `n`-th. -/
def View.Agree (p p' : View) (n : Nat) : Prop := ∀ k < n, p k = p' k

theorem slicePhase_congr {p p' : View} {k : Nat} (h : p.Agree p' (if k < 4 then 3 else 4)) :
    slicePhase k p = slicePhase k p' := by
  match k, h with
  | 0, h =>
    simp only [slicePhase, slice_phase0, h 0 (by decide), h 1 (by decide), h 2 (by decide)]
  | 1, h =>
    simp only [slicePhase, slice_phase1, h 0 (by decide), h 1 (by decide), h 2 (by decide)]
  | 2, h =>
    simp only [slicePhase, slice_phase2, h 0 (by decide), h 1 (by decide), h 2 (by decide)]
  | 3, h =>
    simp only [slicePhase, slice_phase3, h 0 (by decide), h 1 (by decide), h 2 (by decide)]
  | k + 4, h =>
    have hfour : (if k + 4 < 4 then 3 else 4) = 4 := if_neg (by omega)
    rw [hfour] at h
    simp only [slicePhase, slice_phase4, h 0 (by decide), h 1 (by decide), h 2 (by decide), h 3 (by decide)]

/-- The last sample of a message is the 290th from the preamble on. -/
theorem sliceMessage_congr (sets : Bitsets) {try_phase : Nat} (hphase : try_phase ≤ 8) {p p' : View}
    (h : p.Agree p' 290) : sliceMessage sets try_phase p = sliceMessage sets try_phase p' := by
  have hsymbol : ∀ i < 112, slicePhase ((try_phase + 12 * i) % 5) (p.advance (19 + (try_phase + 12 * i) / 5)) =
      slicePhase ((try_phase + 12 * i) % 5) (p'.advance (19 + (try_phase + 12 * i) / 5)) := by
    intro i hi
    refine slicePhase_congr fun k hk => h _ ?_
    split at hk <;> omega
  rw [sliceMessage_eq, sliceMessage_eq, sliceByte_eq, sliceByte_eq]
  have hfirst : ∀ i ∈ List.range 8, _ := fun i hi => hsymbol i (Nat.lt_trans (List.mem_range.mp hi) (by decide))
  rw [mapM_congr hfirst]
  refine congrArg _ (funext fun first => congrArg _ (mapM_congr fun i hi => hsymbol i ?_))
  have hlen := bytelen_mem sets first
  have hlt := List.mem_range.mp hi
  simp only [shortMsgBytes, longMsgBytes, List.mem_cons, List.not_mem_nil, or_false] at hlen
  omega

/-- What a message is made of, when all its samples are there. -/
theorem sliceMessage_values (sets : Bitsets) {m : Nat → Sample} {j try_phase : Nat} {value : Nat → Int}
    (h : ∀ i, slicePhase ((try_phase + 12 * i) % 5) (View.into m (j + (19 + (try_phase + 12 * i) / 5))) =
      some (value i)) :
    sliceMessage sets try_phase (View.into m j) =
      some (packValues ((List.range (8 * sets.bytelen (theByte ((List.range 8).map value)))).map value)) := by
  rw [sliceMessage_eq, sliceByte_eq]
  simp only [View.advance_into]
  rw [mapM_some fun i _ => h i]
  exact congrArg (Option.map packValues) (mapM_some fun i _ => h i)

theorem sliceMessage_total (sets : Bitsets) (m : Nat → Sample) (j try_phase : Nat) :
    ∃ bytes, sliceMessage sets try_phase (View.into m j) = some bytes := by
  choose value hvalue using fun i => slicePhase_total m (j + (19 + (try_phase + 12 * i) / 5)) ((try_phase + 12 * i) % 5)
  exact ⟨_, sliceMessage_values sets hvalue⟩

/-- **Main theorem.** The phase switch makes a message of 1, 7 or 14 bytes whose bit `i` says whether the
symbol twelve fifths of `i` samples behind the first is positive; a constant added to all
samples changes nothing. -/
theorem slicing_exact (sets : Bitsets) (m : Nat → Sample) (j try_phase : Nat) :
    ∃ bytes, sliceMessage sets try_phase (View.into m j) = some bytes ∧
      bytes.length ∈ [1, shortMsgBytes, longMsgBytes] ∧
      bytes.length = sets.bytelen (byteAt bytes 0) ∧
      (∀ i < 8 * bytes.length, bitAt bytes i = true ↔
        ∃ v, slicePhase ((try_phase + 12 * i) % 5) (View.into m (j + 19 + (try_phase + 12 * i) / 5)) = some v ∧
          0 < v) ∧
      ∀ (m' : Nat → Sample) (c : Nat), (∀ k, (m' k).toNat = (m k).toNat + c) →
        sliceMessage sets try_phase (View.into m' j) = some bytes := by
  choose value hvalue using fun i => slicePhase_total m (j + (19 + (try_phase + 12 * i) / 5)) ((try_phase + 12 * i) % 5)
  have hlength : ((List.range (8 * sets.bytelen (theByte ((List.range 8).map value)))).map value).length =
      8 * sets.bytelen (theByte ((List.range 8).map value)) := by
    rw [List.length_map, List.length_range]
  have hbytes := length_packValues _ hlength
  refine ⟨_, sliceMessage_values sets hvalue, ?_, ?_, fun i hi => ?_, fun m' c hshift => ?_⟩
  · rw [hbytes]
    exact bytelen_mem sets _
  · have hpos := bytelen_pos sets (theByte ((List.range 8).map value))
    rw [hbytes, byteAt_packValues hpos hlength, ← List.map_take, List.take_range, Nat.min_eq_left (by omega)]
  · rw [hbytes] at hi
    rw [bitAt_packValues _ hlength hi, decide_eq_true_iff, List.getD_eq_getElem _ _ (by omega), List.getElem_map,
      List.getElem_range, Nat.add_assoc j, hvalue i]
    exact ⟨fun hpos => ⟨_, rfl, hpos⟩, fun ⟨v, hv, hpos⟩ => Option.some.inj hv ▸ hpos⟩
  · exact sliceMessage_values sets fun i => (slicePhase_shift hshift _ _).trans (hvalue i)

end RbFeeder.Demod
