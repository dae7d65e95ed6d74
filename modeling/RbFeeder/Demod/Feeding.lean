import RbFeeder.Demod.Demodulate

/-! The samples that the demodulator hands to the adaptive gain logic.

It hands over what precedes a message, the message, and at the end of a buffer what is
left, and remembers how far it is. The search for the next message goes on a little in
front of the end of the last one, though; the samples of a message that is found there are
handed over again from its start. And what a message takes of the next buffer is cut off
where that buffer ends. `fedOnce_iff`: otherwise every sample is handed over once. -/
namespace RbFeeder.Demod
open ModeS
open Sdr (Sample Block)

/-! ### Intervals -/

/-- Intervals that follow each other without a gap, none of them empty. -/
def Tiles : Nat → List (Nat × Nat) → Nat → Prop
  | a, [], b => a = b
  | a, segment :: segments, b => segment.1 = a ∧ a < segment.2 ∧ Tiles segment.2 segments b

theorem tiles_append {a b : Nat} {xs ys : List (Nat × Nat)} :
    Tiles a (xs ++ ys) b ↔ ∃ m, Tiles a xs m ∧ Tiles m ys b := by
  induction xs generalizing a with
  | nil =>
    constructor
    · exact fun h => ⟨a, rfl, h⟩
    · intro h
      obtain ⟨m, rfl, h⟩ := h
      exact h
  | cons segment xs ih =>
    constructor
    · intro h
      obtain ⟨hstart, hlt, hrest⟩ := h
      obtain ⟨m, hxs, hys⟩ := ih.mp hrest
      exact ⟨m, ⟨hstart, hlt, hxs⟩, hys⟩
    · intro h
      obtain ⟨m, ⟨hstart, hlt, hxs⟩, hys⟩ := h
      exact ⟨hstart, hlt, ih.mpr ⟨m, hxs, hys⟩⟩

/-- Where intervals end does not depend on anything else. -/
theorem Tiles.unique {a b c : Nat} {xs : List (Nat × Nat)} (hb : Tiles a xs b) (hc : Tiles a xs c) : b = c := by
  induction xs generalizing a with
  | nil => exact hb.symm.trans hc
  | cons segment xs ih => exact ih hb.2.2 hc.2.2

/-- The positions of an interval. -/
def positions (segment : Nat × Nat) : List Nat := List.range' segment.1 (segment.2 - segment.1)

/-- They have every position from the first to the last, once and in order. -/
theorem Tiles.positions {a b : Nat} {xs : List (Nat × Nat)} (h : Tiles a xs b) :
    a ≤ b ∧ xs.flatMap positions = List.range' a (b - a) := by
  induction xs generalizing a with
  | nil =>
    obtain rfl := h
    exact ⟨le_refl a, by simp⟩
  | cons segment xs ih =>
    obtain ⟨rfl, hlt, hrest⟩ := h
    obtain ⟨hle, hpositions⟩ := ih hrest
    refine ⟨by omega, ?_⟩
    rw [List.flatMap_cons, hpositions, Demod.positions]
    have hsum : b - segment.1 = (segment.2 - segment.1) + (b - segment.2) := by omega
    have hstart : segment.2 = segment.1 + (segment.2 - segment.1) := by omega
    rw [hsum, ← List.range'_append_1, ← hstart]

def shift (base : Nat) (segment : Nat × Nat) : Nat × Nat := (base + segment.1, base + segment.2)

theorem tiles_shift (base : Nat) {a b : Nat} {xs : List (Nat × Nat)} :
    Tiles (base + a) (xs.map (shift base)) (base + b) ↔ Tiles a xs b := by
  induction xs generalizing a with
  | nil => exact Nat.add_left_cancel_iff
  | cons segment xs ih =>
    exact and_congr Nat.add_left_cancel_iff (and_congr Nat.add_lt_add_iff_left ih)

/-! ### One round -/

section Rounds
variable {σ μ : Type}

/-- The samples of a call of `adaptive_update`. -/
def Call.segment : Call μ → Option (Nat × Nat)
  | .adaptive_update start buf _ => some (start, start + buf.length)
  | .useModesMessage _ => none

def segments (calls : List (Call μ)) : List (Nat × Nat) := calls.filterMap Call.segment

/-- The message of a call of `adaptive_update`, with its start. -/
def Call.decoded : Call μ → Option (Nat × Demodulated μ)
  | .adaptive_update start _ mm => mm.map (Prod.mk start)
  | .useModesMessage _ => none

def decoded (calls : List (Call μ)) : List (Nat × Demodulated μ) := calls.filterMap Call.decoded

variable (decoder : Decoder σ μ) (sets : Bitsets)

/-- The message at a preamble, if one is decoded there. -/
def candidate (p : View) (s : Scan σ μ) : Option (Scan σ μ × Option (Best × μ)) := do
  let preamble ← readSamples p 19
  if ¬ isPreamble fun k => (preamble.getD k 0).toNat then some (s, none)
  else do
    let s ← [4, 5, 6, 7, 8].foldlM (tryPhase decoder sets p)
      { s with demod_preambles := s.demod_preambles + 1, best := none }
    some (judge decoder s)

variable (mag : Block)

/-- It is passed on. -/
def passOn (j : Nat) (c : Scan σ μ × Option (Best × μ)) : Option (Scan σ μ × Nat) :=
  match c.2 with
  | none => some (c.1, j)
  | some found => accept mag j c.1 found.1 found.2

theorem scanAt_eq (j : Nat) (s : Scan σ μ) :
    scanAt decoder sets mag j s = (candidate decoder sets (samplesAt mag j) s).bind (passOn mag j) := by
  unfold scanAt candidate
  cases readSamples (samplesAt mag j) 19 with
  | none => rfl
  | some preamble =>
    dsimp only [Option.bind_eq_bind, Option.bind_some]
    split
    · rfl
    · cases [4, 5, 6, 7, 8].foldlM (tryPhase decoder sets (samplesAt mag j))
        { s with demod_preambles := s.demod_preambles + 1, best := none } with
      | none => rfl
      | some s₁ =>
        dsimp only [Option.bind_some]
        unfold passOn
        generalize judge decoder s₁ = found
        obtain ⟨s₂, found⟩ := found
        cases found with
        | none => rfl
        | some found => rfl

/-! ### What the calls hand over -/

theorem segments_append (xs ys : List (Call μ)) : segments (xs ++ ys) = segments xs ++ segments ys :=
  List.filterMap_append

theorem segments_feed {start stop : Nat} {mm : Option (Demodulated μ)} {calls : List (Call μ)}
    (h : feed mag start stop mm = some calls) :
    segments calls = if start < stop then [(start, stop)] else [] := by
  unfold feed at h
  split_ifs at h ⊢ with hlt
  · obtain ⟨buf, hbuf, h⟩ := Option.bind_eq_some_iff.mp h
    obtain rfl := Option.some.inj h
    have hlength : buf.length = stop - start := (length_mapM hbuf).trans List.length_range
    show [(start, start + buf.length)] = [(start, stop)]
    rw [hlength, Nat.add_sub_cancel' (Nat.le_of_lt hlt)]
  · obtain rfl := Option.some.inj h
    rfl

/-- What is handed over with a message: what precedes it, if it is not handed over yet, and the message. -/
theorem accept_segments {j j' : Nat} {s s' : Scan σ μ} {best : Best} {message : μ}
    (h : accept mag j s best message = some (s', j')) :
    j < s'.last_message_end ∧ ∃ more, s'.calls = s.calls ++ more ∧
      segments more =
        (if s.last_message_end < j then [(s.last_message_end, j)] else []) ++ [(j, s'.last_message_end)] := by
  have hlen := msglen_le ((byteAt best.bestmsg.bytes 0 >>> 3).setWidth 32)
  unfold accept at h
  dsimp only at h
  generalize modesMessageLenByType ((byteAt best.bestmsg.bytes 0 >>> 3).setWidth 32) = msglen at hlen h
  simp only [List.mem_cons, List.not_mem_nil, or_false] at hlen
  obtain ⟨signal, -, h⟩ := Option.bind_eq_some_iff.mp h
  obtain ⟨empty, hempty, h⟩ := Option.bind_eq_some_iff.mp h
  obtain ⟨update, hupdate, h⟩ := Option.bind_eq_some_iff.mp h
  obtain ⟨rfl, -⟩ := Prod.mk.inj (Option.some.inj h)
  have hlt : j < j + (msglen + 8) * 12 / 5 := by omega
  refine ⟨hlt, _, by dsimp only; rw [List.append_assoc, List.append_assoc], ?_⟩
  rw [segments_append, segments_append, segments_feed mag hempty, segments_feed mag hupdate, if_pos hlt]
  rfl

/-! ### A round -/

theorem foldlM_kept {α β : Type} {f : α → β → Option α} {I : α → Prop}
    (h : ∀ a x a', f a x = some a' → I a → I a') {xs : List β} {a a' : α} (hfold : xs.foldlM f a = some a')
    (ha : I a) : I a' := by
  induction xs generalizing a with
  | nil => exact Option.some.inj hfold ▸ ha
  | cons x xs ih =>
    rw [List.foldlM_cons] at hfold
    obtain ⟨a₁, hfirst, hrest⟩ := Option.bind_eq_some_iff.mp hfold
    exact ih hrest (h a x a₁ hfirst ha)

/-- Nothing is handed over. -/
def Unfed (s s' : Scan σ μ) : Prop := s'.calls = s.calls ∧ s'.last_message_end = s.last_message_end

theorem tryPhase_unfed {preamble : View} {s₀ s s' : Scan σ μ} {try_phase : Nat}
    (h : tryPhase decoder sets preamble s try_phase = some s') (hs : Unfed s₀ s) : Unfed s₀ s' := by
  unfold tryPhase at h
  obtain ⟨bytes, -, h⟩ := Option.bind_eq_some_iff.mp h
  dsimp only at h
  split_ifs at h
  all_goals
    obtain rfl := Option.some.inj h
    exact hs

theorem judge_unfed {s₀ s : Scan σ μ} (hs : Unfed s₀ s) : Unfed s₀ (judge decoder s).1 := by
  unfold judge
  split
  · exact hs
  · split
    · split <;> exact hs
    · split <;> exact hs

theorem candidate_unfed {p : View} {s : Scan σ μ} {c : Scan σ μ × Option (Best × μ)}
    (h : candidate decoder sets p s = some c) : Unfed s c.1 := by
  unfold candidate at h
  obtain ⟨preamble, -, h⟩ := Option.bind_eq_some_iff.mp h
  split at h
  · obtain rfl := Option.some.inj h
    exact ⟨rfl, rfl⟩
  · obtain ⟨s₁, hphases, h⟩ := Option.bind_eq_some_iff.mp h
    obtain rfl := Option.some.inj h
    refine judge_unfed decoder ?_
    exact foldlM_kept (I := Unfed s) (fun _ _ _ hphase hs => tryPhase_unfed decoder sets hphase hs) hphases
      ⟨rfl, rfl⟩

/-- A message that is passed on starts where the last one ended, or behind it. -/
def InOrderAt (j : Nat) (s : Scan σ μ) : Prop :=
  ∀ c found, candidate decoder sets (samplesAt mag j) s = some (c, some found) → s.last_message_end ≤ j

/-- What a round hands over goes on from what is handed over before, if the message is in order. -/
theorem scanAt_tiles {j j' : Nat} {s s' : Scan σ μ} (h : scanAt decoder sets mag j s = some (s', j')) :
    ∃ more, s'.calls = s.calls ++ more ∧ ∀ rest b, Tiles s.last_message_end (segments more ++ rest) b ↔
      InOrderAt decoder sets mag j s ∧ Tiles s'.last_message_end rest b := by
  rw [scanAt_eq] at h
  obtain ⟨⟨s₁, found⟩, hcandidate, h⟩ := Option.bind_eq_some_iff.mp h
  obtain ⟨hcalls, hend⟩ := candidate_unfed decoder sets hcandidate
  dsimp only at hcalls hend
  cases found with
  | none =>
    obtain ⟨rfl, rfl⟩ := Prod.mk.inj (Option.some.inj h)
    refine ⟨[], by rw [hcalls, List.append_nil], fun rest b => ?_⟩
    have horder : InOrderAt decoder sets mag j s := by
      intro c found hfound
      rw [hcandidate] at hfound
      cases hfound
    rw [hend]
    exact (and_iff_right horder).symm
  | some found =>
    obtain ⟨hlt, more, hmore, hsegments⟩ := accept_segments mag h
    refine ⟨more, by rw [hmore, hcalls], fun rest b => ?_⟩
    have horder : InOrderAt decoder sets mag j s ↔ s.last_message_end ≤ j :=
      ⟨fun horder => horder s₁ found hcandidate, fun hle _ _ _ => hle⟩
    rw [hsegments, horder, hend, List.append_assoc]
    split
    · next hbefore =>
      constructor
      · intro htiles
        exact ⟨Nat.le_of_lt hbefore, htiles.2.2.2.2⟩
      · intro htiles
        exact ⟨rfl, hbefore, rfl, hlt, htiles.2⟩
    · next hbefore =>
      constructor
      · intro htiles
        obtain ⟨hstart, -, hrest⟩ := htiles
        exact ⟨hstart.ge, hrest⟩
      · intro htiles
        exact ⟨Nat.le_antisymm (Nat.le_of_not_lt hbefore) htiles.1, Nat.lt_of_le_of_lt htiles.1 hlt, htiles.2⟩

/-! ### A buffer -/

/-- So do all messages of a scan. -/
def InOrder (mlen : Nat) : Nat → Nat → Scan σ μ → Prop
  | 0, _, _ => True
  | fuel + 1, j, s => j < mlen → InOrderAt decoder sets mag j s ∧
      ∀ s' j', scanAt decoder sets mag j s = some (s', j') → InOrder mlen fuel (j' + 1) s'

theorem scan_tiles {mlen fuel j : Nat} {s s' : Scan σ μ} (h : scan decoder sets mag mlen fuel j s = some s') :
    ∃ more, s'.calls = s.calls ++ more ∧ ∀ rest b, Tiles s.last_message_end (segments more ++ rest) b ↔
      InOrder decoder sets mag mlen fuel j s ∧ Tiles s'.last_message_end rest b := by
  induction fuel generalizing j s with
  | zero =>
    rw [scan] at h
    split_ifs at h
    obtain rfl := Option.some.inj h
    exact ⟨[], (List.append_nil _).symm, fun rest b => (and_iff_right trivial).symm⟩
  | succ fuel ih =>
    rw [scan] at h
    split_ifs at h with hlt
    · obtain ⟨⟨s₁, j₁⟩, hround, h⟩ := Option.bind_eq_some_iff.mp h
      obtain ⟨first, hfirst, htiles⟩ := scanAt_tiles decoder sets mag hround
      obtain ⟨more, hmore, hrest⟩ := ih h
      refine ⟨first ++ more, by rw [hmore, hfirst, List.append_assoc], fun rest b => ?_⟩
      have horder : InOrder decoder sets mag mlen (fuel + 1) j s ↔
          InOrderAt decoder sets mag j s ∧ InOrder decoder sets mag mlen fuel (j₁ + 1) s₁ := by
        constructor
        · intro horder
          exact ⟨(horder hlt).1, (horder hlt).2 s₁ j₁ hround⟩
        · intro horder _
          refine ⟨horder.1, fun s₂ j₂ hsame => ?_⟩
          rw [hround] at hsame
          obtain ⟨rfl, rfl⟩ := Prod.mk.inj (Option.some.inj hsame)
          exact horder.2
      rw [segments_append, List.append_assoc, htiles, hrest, horder, and_assoc]
    · obtain rfl := Option.some.inj h
      exact ⟨[], (List.append_nil _).symm, fun rest b => (and_iff_right fun hj => absurd hj hlt).symm⟩

/-- The scan as it starts, with what the buffers for messages hold. -/
def Receiver.scan (msg1 msg2 : Buffer) (r : Receiver σ) : Scan σ μ :=
  { r with msg := msg1, other := msg2, best := none, calls := [] }

theorem scan_of_le {mlen fuel j : Nat} (s : Scan σ μ) (h : mlen ≤ j) :
    scan decoder sets mag mlen fuel j s = some s := by
  cases fuel with
  | zero => exact if_neg (Nat.not_lt.mpr h)
  | succ fuel => exact if_neg (Nat.not_lt.mpr h)

/-- What is handed over of a buffer goes on from what is handed over before, up to the end that is carried
over, if and only if its messages are in order and the last one of the buffer before ends within it. -/
theorem demodulate2400_tiles {msg1 msg2 : Buffer} {r r' : Receiver σ} {calls : List (Call μ)} {mlen : Nat}
    (hcontinuous : mag.discontinuous = false) (hmlen : mag.validLength - mag.overlap = mlen)
    (h : demodulate2400 decoder sets mag msg1 msg2 r = some (r', calls)) :
    Tiles r.last_message_end (segments calls) (mlen + r'.last_message_end) ↔
      r.last_message_end ≤ mlen ∧ InOrder decoder sets mag mlen mlen r.last_message_end (r.scan msg1 msg2) := by
  unfold demodulate2400 at h
  split at h
  · cases h
  dsimp only at h
  rw [hmlen, hcontinuous, if_neg Bool.false_ne_true] at h
  obtain ⟨s', hscan, h⟩ := Option.bind_eq_some_iff.mp h
  obtain ⟨trailing, htrailing, h⟩ := Option.bind_eq_some_iff.mp h
  obtain ⟨rfl, rfl⟩ := Prod.mk.inj (Option.some.inj h)
  have hfed := segments_feed mag htrailing
  dsimp only
  rw [segments_append, hfed]
  by_cases hle : r.last_message_end ≤ mlen
  · rw [Nat.min_eq_left hle] at hscan
    obtain ⟨more, hmore, htiles⟩ := scan_tiles decoder sets mag hscan
    have hcalls : s'.calls = more := hmore
    rw [hcalls]
    refine (htiles _ _).trans ?_
    rw [and_iff_right hle]
    refine and_iff_left ?_
    split
    · next hlt => exact ⟨rfl, hlt, rfl⟩
    · next hlt => exact (Nat.add_sub_cancel' (Nat.le_of_not_lt hlt)).symm
  · -- the rest of a message that is longer than this buffer is cut off
    rw [Nat.min_eq_right (Nat.le_of_not_le hle), scan_of_le decoder sets mag _ (le_refl mlen)] at hscan
    obtain rfl := Option.some.inj hscan
    dsimp only
    rw [if_neg (Nat.lt_irrefl mlen), if_neg (Nat.lt_irrefl mlen)]
    constructor
    · intro hall
      have heq : r.last_message_end = mlen + (mlen - mlen) := hall
      omega
    · intro horder
      exact absurd horder.1 hle

/-! ### A stream of buffers -/

/-- A buffer that continues the one before, and what the buffers for messages hold. -/
structure Delivery where
  mag : Block
  msg1 : Buffer
  msg2 : Buffer
  continuous : mag.discontinuous = false
  overlap_long : 289 ≤ mag.overlap
  overlap_valid : mag.overlap ≤ mag.validLength

/-- The samples in front of the overlap, where the next buffer starts. -/
def Delivery.mlen (d : Delivery) : Nat := d.mag.validLength - d.mag.overlap

def span (ds : List Delivery) : Nat := (ds.map Delivery.mlen).sum

/-- What is handed over of the buffers, in positions from the start of the first. -/
def receive : Receiver σ → List Delivery → Option (Receiver σ × List (Nat × Nat))
  | r, [] => some (r, [])
  | r, d :: ds => do
    let (r₁, calls) ← demodulate2400 decoder sets d.mag d.msg1 d.msg2 r
    let (r', fed) ← receive r₁ ds
    some (r', segments calls ++ fed.map (shift d.mlen))

/-- After every buffer each sample has been handed over once and in order, up to the end that is carried over. -/
def FedOnce (r : Receiver σ) (ds : List Delivery) : Prop :=
  ∀ past, past <+: ds → ∃ r' fed, receive decoder sets r past = some (r', fed) ∧
    Tiles r.last_message_end fed (span past + r'.last_message_end)

/-- No message starts before the one in front of it has ended, and none runs past the samples of the buffer
behind it. -/
def Orderly : Receiver σ → List Delivery → Prop
  | _, [] => True
  | r, d :: ds => (r.last_message_end ≤ d.mlen ∧
        InOrder decoder sets d.mag d.mlen d.mlen r.last_message_end (r.scan d.msg1 d.msg2)) ∧
      ∀ r₁ calls, demodulate2400 decoder sets d.mag d.msg1 d.msg2 r = some (r₁, calls) → Orderly r₁ ds

theorem receive_cons {r r₁ : Receiver σ} {d : Delivery} {calls : List (Call μ)}
    (h : demodulate2400 decoder sets d.mag d.msg1 d.msg2 r = some (r₁, calls)) (ds : List Delivery) :
    receive decoder sets r (d :: ds) = (receive decoder sets r₁ ds).map fun after =>
      (after.1, segments calls ++ after.2.map (shift d.mlen)) := by
  rw [receive, h]
  dsimp only [Option.bind_eq_bind, Option.bind_some]
  exact Option.map_eq_bind.symm

/-- **Main theorem.** Each sample reaches the adaptive gain logic once and in order, up to the end that is
carried over, if and only if the messages are orderly. -/
theorem fedOnce_iff (r : Receiver σ) (ds : List Delivery) :
    FedOnce decoder sets r ds ↔ Orderly decoder sets r ds := by
  induction ds generalizing r with
  | nil =>
    refine iff_of_true (fun past hpast => ?_) trivial
    obtain rfl := List.prefix_nil.mp hpast
    exact ⟨r, [], rfl, (Nat.zero_add _).symm⟩
  | cons d ds ih =>
    obtain ⟨r₁, calls, hfirst, -⟩ :=
      demodulate2400_reads decoder sets d.mag d.msg1 d.msg2 r d.overlap_long d.overlap_valid
    have htiles := demodulate2400_tiles decoder sets d.mag d.continuous (Eq.refl d.mlen) hfirst
    have hreceive := receive_cons decoder sets hfirst
    constructor
    · intro hfed
      have hbuffer : Tiles r.last_message_end (segments calls) (d.mlen + r₁.last_message_end) := by
        obtain ⟨r', fed, hrun, htile⟩ := hfed [d] (List.prefix_append [d] ds)
        rw [hreceive] at hrun
        obtain ⟨rfl, rfl⟩ := Prod.mk.inj (Option.some.inj hrun)
        rwa [List.map_nil, List.append_nil] at htile
      refine ⟨htiles.mp hbuffer, fun r₂ calls₂ hsame => ?_⟩
      rw [hfirst] at hsame
      obtain ⟨rfl, rfl⟩ := Prod.mk.inj (Option.some.inj hsame)
      refine (ih r₁).mp fun past hpast => ?_
      obtain ⟨r', fed, hrun, htile⟩ := hfed (d :: past) (List.cons_prefix_cons.mpr ⟨rfl, hpast⟩)
      rw [hreceive] at hrun
      obtain ⟨⟨r₂, fed₂⟩, hrest, hpair⟩ := Option.map_eq_some_iff.mp hrun
      obtain ⟨rfl, rfl⟩ := Prod.mk.inj hpair
      refine ⟨r₂, fed₂, hrest, ?_⟩
      obtain ⟨m, hm, hafter⟩ := tiles_append.mp htile
      obtain rfl := hm.unique hbuffer
      rw [span, List.map_cons, List.sum_cons, Nat.add_assoc] at hafter
      exact (tiles_shift d.mlen).mp hafter
    · intro horder past hpast
      cases past with
      | nil => exact ⟨r, [], rfl, (Nat.zero_add _).symm⟩
      | cons d' past =>
        obtain ⟨rfl, hrest⟩ := List.cons_prefix_cons.mp hpast
        obtain ⟨r', fed, hrun, htile⟩ := (ih r₁).mpr (horder.2 r₁ calls hfirst) past hrest
        refine ⟨r', segments calls ++ fed.map (shift d'.mlen), by rw [hreceive, hrun]; rfl, ?_⟩
        rw [span, List.map_cons, List.sum_cons, Nat.add_assoc]
        exact tiles_append.mpr ⟨_, htiles.mpr horder.1, (tiles_shift d'.mlen).mpr htile⟩

variable {decoder sets} in
/-- Then these are all the samples. -/
theorem FedOnce.positions {r : Receiver σ} {ds : List Delivery} (h : FedOnce decoder sets r ds) :
    ∃ r' fed, receive decoder sets r ds = some (r', fed) ∧ fed.flatMap Demod.positions =
      List.range' r.last_message_end (span ds + r'.last_message_end - r.last_message_end) := by
  obtain ⟨r', fed, hrun, htiles⟩ := h ds (List.prefix_refl ds)
  exact ⟨r', fed, hrun, htiles.positions.2⟩

end Rounds

/-! ### Two replies that almost collide -/

theorem collidingBlock_continuous : collidingBlock.discontinuous = false := by
  decide

theorem collidingBlock_overlap : 289 ≤ collidingBlock.overlap := le_refl 289

theorem collidingBlock_valid : collidingBlock.overlap ≤ collidingBlock.validLength := by
  decide

def colliding : Delivery where
  mag := collidingBlock
  msg1 := Buffer.zero
  msg2 := Buffer.zero
  continuous := collidingBlock_continuous
  overlap_long := collidingBlock_overlap
  overlap_valid := collidingBlock_valid

/-- Both replies are decoded, and the end of the first one is handed over twice. -/
theorem demodulate2400_colliding :
    (demodulate2400 (modeSDecoder plainModes (modesChecksumInit 0) Buffer.zero) (init_bitsets plainModes)
      colliding.mag colliding.msg1 colliding.msg2 started).map (fun after =>
        (after.1.last_message_end, segments after.2, (decoded after.2).map Prod.fst)) =
      some (152, [(0, 153), (135, 288)], [0, 135]) := by
  decide +kernel

theorem not_fedOnce_colliding :
    ¬ FedOnce (modeSDecoder plainModes (modesChecksumInit 0) Buffer.zero) (init_bitsets plainModes) started
      [colliding] := by
  intro h
  obtain ⟨⟨r₁, calls⟩, hrun, hcalls⟩ := Option.map_eq_some_iff.mp demodulate2400_colliding
  obtain ⟨hsegments, -⟩ := Prod.mk.inj (Prod.mk.inj hcalls).2
  obtain ⟨r', fed, hfed, htiles⟩ := h [colliding] (List.prefix_refl _)
  rw [receive_cons _ _ hrun] at hfed
  obtain ⟨-, rfl⟩ := Prod.mk.inj (Option.some.inj hfed)
  rw [hsegments] at htiles
  obtain ⟨-, -, hstart, -⟩ := htiles
  exact absurd hstart (by decide)

end RbFeeder.Demod
