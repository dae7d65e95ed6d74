import RbFeeder.Demod.Reading
import RbFeeder.Lib.Scanner

/-! What is received of a stream that is cut into buffers.

Behind a message the search goes on 18 samples in front of its end. When the message runs
into the next buffer, it goes on at the end instead, and when the next buffer is shorter
than the rest of the message, at the start of the one behind. Apart from that the borders
make no difference: buffers that lose nothing so (`Settled`) receive what a scan of the
whole stream receives (`listen_scans`), however it is cut (`listen_borders`). -/
namespace RbFeeder.Demod
open ModeS
open Sdr (Sample Block)

/-! ### What is received -/

section Calls
variable {σ μ : Type}

/-- The message of a call of `useModesMessage`. -/
def Call.used : Call μ → Option (Demodulated μ)
  | .adaptive_update .. => none
  | .useModesMessage mm => some mm

def used (calls : List (Call μ)) : List (Demodulated μ) := calls.filterMap Call.used

theorem decoded_append (xs ys : List (Call μ)) : decoded (xs ++ ys) = decoded xs ++ decoded ys :=
  List.filterMap_append

theorem used_append (xs ys : List (Call μ)) : used (xs ++ ys) = used xs ++ used ys := List.filterMap_append

theorem feed_decoded {mag : Block} {start stop : Nat} {mm : Option (Demodulated μ)} {calls : List (Call μ)}
    (h : feed mag start stop mm = some calls) :
    decoded calls = (if start < stop then mm.toList.map (Prod.mk start) else []) ∧ used calls = [] := by
  unfold feed at h
  split at h
  · next hlt =>
    obtain ⟨buf, -, h⟩ := Option.bind_eq_some_iff.mp h
    obtain rfl := Option.some.inj h
    rw [if_pos hlt]
    cases mm with
    | none => exact ⟨rfl, rfl⟩
    | some mm => exact ⟨rfl, rfl⟩
  · next hlt =>
    obtain rfl := Option.some.inj h
    rw [if_neg hlt]
    exact ⟨rfl, rfl⟩

variable (mag : Block)

/-- A message that is accepted is decoded and used, and the scan goes on 18 samples in front of its end. -/
theorem accept_decoded {j j' : Nat} {s s' : Scan σ μ} {best : Best} {message : μ}
    (h : accept mag j s best message = some (s', j')) :
    s'.state = s.state ∧ s'.last_message_end = j' + 19 ∧
      j' + 1 = j + ((modesMessageLenByType ((byteAt best.bestmsg.bytes 0 >>> 3).setWidth 32) + 8) * 12 / 5 - 18) ∧
      ∃ mm, decoded s'.calls = decoded s.calls ++ [(j, mm)] ∧ used s'.calls = used s.calls ++ [mm] ∧
        mm.timestampMsg = timestampMsg mag j best.bestphase ∧ mm.message = message := by
  unfold accept at h
  dsimp only at h
  generalize modesMessageLenByType ((byteAt best.bestmsg.bytes 0 >>> 3).setWidth 32) = msglen at h ⊢
  obtain ⟨signal, -, h⟩ := Option.bind_eq_some_iff.mp h
  obtain ⟨empty, hempty, h⟩ := Option.bind_eq_some_iff.mp h
  obtain ⟨update, hupdate, h⟩ := Option.bind_eq_some_iff.mp h
  obtain ⟨rfl, rfl⟩ := Prod.mk.inj (Option.some.inj h)
  obtain ⟨hemptyDecoded, hemptyUsed⟩ := feed_decoded hempty
  obtain ⟨hupdateDecoded, hupdateUsed⟩ := feed_decoded hupdate
  have hlt : j < j + (msglen + 8) * 12 / 5 := by omega
  rw [Option.toList_none, List.map_nil, ite_self] at hemptyDecoded
  rw [if_pos hlt] at hupdateDecoded
  refine ⟨rfl, by dsimp only; omega, by omega, ?_⟩
  dsimp only
  simp only [decoded_append, used_append, hemptyDecoded, hupdateDecoded, hemptyUsed, hupdateUsed, List.append_nil]
  exact ⟨_, List.append_nil _, rfl, rfl, rfl⟩

/-- The messages that are used are those that are decoded, in this order. -/
def Paired (calls : List (Call μ)) : Prop := used calls = (decoded calls).map Prod.snd

variable (decoder : Decoder σ μ) (sets : Bitsets)

theorem scanAt_paired {j j' : Nat} {s s' : Scan σ μ} (hs : Paired s.calls)
    (h : scanAt decoder sets mag j s = some (s', j')) : Paired s'.calls := by
  rw [scanAt_eq] at h
  obtain ⟨⟨s₁, found⟩, hcandidate, h⟩ := Option.bind_eq_some_iff.mp h
  have hcalls := (candidate_unfed decoder sets hcandidate).1
  cases found with
  | none =>
    obtain ⟨rfl, -⟩ := Prod.mk.inj (Option.some.inj h)
    exact hcalls ▸ hs
  | some found =>
    obtain ⟨-, -, -, mm, hdecoded, hused, -⟩ := accept_decoded mag h
    dsimp only at hcalls
    rw [Paired, hdecoded, hused, hcalls, List.map_append, hs]
    rfl

theorem scan_paired {mlen fuel j : Nat} {s s' : Scan σ μ} (hs : Paired s.calls)
    (h : scan decoder sets mag mlen fuel j s = some s') : Paired s'.calls := by
  induction fuel generalizing j s with
  | zero =>
    rw [scan] at h
    split at h
    · cases h
    · exact Option.some.inj h ▸ hs
  | succ fuel ih =>
    rw [scan] at h
    split at h
    · obtain ⟨⟨s₁, j₁⟩, hround, hrest⟩ := Option.bind_eq_some_iff.mp h
      exact ih (scanAt_paired mag decoder sets hs hround) hrest
    · exact Option.some.inj h ▸ hs

theorem demodulate2400_paired {msg1 msg2 : Buffer} {r r' : Receiver σ} {calls : List (Call μ)}
    (h : demodulate2400 decoder sets mag msg1 msg2 r = some (r', calls)) : Paired calls := by
  unfold demodulate2400 at h
  split at h
  · cases h
  dsimp only at h
  obtain ⟨s', hscan, h⟩ := Option.bind_eq_some_iff.mp h
  obtain ⟨trailing, htrailing, h⟩ := Option.bind_eq_some_iff.mp h
  obtain ⟨rfl, rfl⟩ := Prod.mk.inj (Option.some.inj h)
  obtain ⟨hdecoded, hused⟩ := feed_decoded htrailing
  rw [Option.toList_none, List.map_nil, ite_self] at hdecoded
  rw [Paired, used_append, decoded_append, hdecoded, hused, List.append_nil, List.append_nil]
  refine scan_paired mag decoder sets ?_ hscan
  rfl

end Calls

/-- A message that is received: where it starts in the stream, its time, and what it says. -/
structure Reception where
  position : Nat
  timestampMsg : BitVec 64
  message : Received

def receptions (base : Nat) (calls : List (Call ModesMessage)) : List Reception :=
  (decoded calls).map fun d => ⟨base + d.1, d.2.timestampMsg, received d.2.message⟩

/-- These are the messages that are passed to `useModesMessage`. -/
theorem receptions_used {σ : Type} {decoder : Decoder σ ModesMessage} {sets : Bitsets} {mag : Block}
    {msg1 msg2 : Buffer} {r r' : Receiver σ} {calls : List (Call ModesMessage)}
    (h : demodulate2400 decoder sets mag msg1 msg2 r = some (r', calls)) (base : Nat) :
    (receptions base calls).map (fun x => (x.timestampMsg, x.message)) =
      (used calls).map fun mm => (mm.timestampMsg, received mm.message) := by
  have hpaired : used calls = (decoded calls).map Prod.snd := demodulate2400_paired mag decoder sets h
  rw [hpaired, receptions, List.map_map, List.map_map]
  rfl

/-- What is received at a position of a stream whose first sample has the timestamp `T`. -/
def Reading.reception (T : BitVec 64) (p : Nat) (reading : Reading) : Reception where
  position := p
  timestampMsg := T + BitVec.ofNat 64 (5 * p) + (8 + 56) * 12 + BitVec.ofNat 64 reading.bestphase
  message := reading.message

/-! ### Streams -/

/-- A buffer that holds the samples of a stream from `base` on. -/
structure Carried (stream : Nat → Sample) (T : BitVec 64) (base : Nat) (d : Delivery) : Prop where
  data : ∀ k < d.mag.validLength, d.mag.data.getD k 0 = stream (base + k)
  sampleTimestamp : d.mag.sampleTimestamp = T + BitVec.ofNat 64 (5 * base)

/-- Each buffer starts where the overlap of the one before starts. -/
def Carries (stream : Nat → Sample) (T : BitVec 64) : Nat → List Delivery → Prop
  | _, [] => True
  | base, d :: ds => Carried stream T base d ∧ Carries stream T (base + d.mlen) ds

section Streams
variable (modes : Modes) (tables : ErrorTables) (garbage : Buffer)

theorem scanner_lt_next (p : Nat) (reading : Reading) : p < p + ((reading.msglen + 8) * 12 / 5 - 18) := by
  omega

/-- The scan of a whole stream. -/
def scanner (stream : Nat → Sample) : Scanner IcaoFilter Reading where
  find f p := readingAt modes tables garbage f (View.into stream p)
  next p reading := p + ((reading.msglen + 8) * 12 / 5 - 18)
  after f reading := learn f reading.message
  lt_next := scanner_lt_next

/-- Nothing is lost at the start of a buffer: the message that is carried over ends in it, and none starts in the
18 samples in front of that end. And its clock does not wrap around. -/
structure Lossless (r : Receiver IcaoFilter) (d : Delivery) : Prop where
  short : 5 * d.mlen ≤ 2 ^ 32
  within : r.last_message_end ≤ d.mlen
  quiet : ∀ j, r.last_message_end - 18 ≤ j → j < r.last_message_end →
    readingAt modes tables garbage r.state (samplesAt d.mag j) = none

/-- Nor at the start of any buffer of a run. -/
def Settled : Receiver IcaoFilter → List Delivery → Prop
  | _, [] => True
  | r, d :: ds => Lossless modes tables garbage r d ∧ ∀ r₁ calls,
      demodulate2400 (modeSDecoder modes tables garbage) (init_bitsets modes) d.mag d.msg1 d.msg2 r =
        some (r₁, calls) → Settled r₁ ds

variable {modes tables garbage} {stream : Nat → Sample} {T : BitVec 64} {base : Nat} {d : Delivery}

theorem Carried.agree (h : Carried stream T base d) {j : Nat} (hj : j < d.mlen) :
    (samplesAt d.mag j).Agree (View.into stream (base + j)) 290 := by
  intro k hk
  have hoverlap := d.overlap_long
  have hvalid := d.overlap_valid
  have hin : j + k < d.mag.validLength := by
    unfold Delivery.mlen at hj
    omega
  rw [samplesAt_of_valid hin, h.data _ hin, View.into, Nat.add_assoc]

theorem Carried.timestampMsg (h : Carried stream T base d) (hshort : 5 * d.mlen ≤ 2 ^ 32) {j : Nat} (hj : j < d.mlen)
    (phase : Nat) :
    timestampMsg d.mag j phase = T + BitVec.ofNat 64 (5 * (base + j)) + (8 + 56) * 12 + BitVec.ofNat 64 phase := by
  rw [Demod.timestampMsg, h.sampleTimestamp, Nat.mod_eq_of_lt (by omega), Nat.mul_comm j 5, Nat.mul_add,
    BitVec.ofNat_add, BitVec.add_assoc T]

/-! ### A buffer -/

/-- One round of the loop is one step of the scan: it goes on behind the position, or behind the message there. -/
theorem scanAt_reading (h : Carried stream T base d) (hshort : 5 * d.mlen ≤ 2 ^ 32) {j j' : Nat} (hj : j < d.mlen)
    {s s' : Scan IcaoFilter ModesMessage}
    (hround : scanAt (modeSDecoder modes tables garbage) (init_bitsets modes) d.mag j s = some (s', j')) :
    (readingAt modes tables garbage s.state (View.into stream (base + j)) = none ∧ s'.state = s.state ∧
        s'.last_message_end = s.last_message_end ∧ j' = j ∧ s'.calls = s.calls) ∨
      ∃ reading, readingAt modes tables garbage s.state (View.into stream (base + j)) = some reading ∧
        s'.state = learn s.state reading.message ∧ s'.last_message_end = j' + 19 ∧
        j' + 1 = j + ((reading.msglen + 8) * 12 / 5 - 18) ∧
        receptions base s'.calls = receptions base s.calls ++ [reading.reception T (base + j)] := by
  obtain ⟨c, hc, hreading, hstate⟩ := candidate_reading modes tables garbage stream (base + j) s
  rw [scanAt_eq, candidate_congr _ _ (h.agree hj), hc, Option.bind_some] at hround
  obtain ⟨s₁, found⟩ := c
  obtain ⟨hcalls, hend⟩ := candidate_unfed _ _ hc
  dsimp only at hreading hstate hcalls hend
  rw [← hreading] at hstate ⊢
  cases found with
  | none =>
    obtain ⟨rfl, rfl⟩ := Prod.mk.inj (Option.some.inj hround)
    exact Or.inl ⟨rfl, hstate, hend, rfl, hcalls⟩
  | some found =>
    obtain ⟨hkept, hresume, hnext, mm, hdecoded, -, htime, hmessage⟩ := accept_decoded d.mag hround
    refine Or.inr ⟨readingOf found, rfl, hkept.trans hstate, hresume, hnext, ?_⟩
    rw [receptions, hdecoded, hcalls, List.map_append, List.map_singleton, htime, h.timestampMsg hshort hj, hmessage]
    rfl

/-- Where the scan of a buffer stands: never more than 18 samples in front of the end of a message, and exactly so
when it is out of the buffer. -/
def Stands (mlen j last_message_end : Nat) : Prop :=
  last_message_end ≤ j + 18 ∧ (j ≤ mlen ∨ last_message_end = j + 18)

/-- The loop over a buffer is the scan of the stream up to the overlap. -/
theorem scan_scans (h : Carried stream T base d) (hshort : 5 * d.mlen ≤ 2 ^ 32) {fuel j : Nat}
    {s s' : Scan IcaoFilter ModesMessage} (hstands : Stands d.mlen j s.last_message_end)
    (hscan : scan (modeSDecoder modes tables garbage) (init_bitsets modes) d.mag d.mlen fuel j s = some s') :
    ∃ items, (scanner modes tables garbage stream).Scans (base + d.mlen) (base + j) s.state items
        (base + max d.mlen (s'.last_message_end - 18)) s'.state ∧
      receptions base s'.calls = receptions base s.calls ++ items.map fun x => x.2.reception T x.1 := by
  have hstop {s : Scan IcaoFilter ModesMessage} {j : Nat} (hj : ¬ j < d.mlen)
      (hstands : Stands d.mlen j s.last_message_end) :
      ∃ items, (scanner modes tables garbage stream).Scans (base + d.mlen) (base + j) s.state items
          (base + max d.mlen (s.last_message_end - 18)) s.state ∧
        receptions base s.calls = receptions base s.calls ++ items.map fun x => x.2.reception T x.1 := by
    obtain ⟨hle, hplace⟩ := hstands
    rw [show max d.mlen (s.last_message_end - 18) = j by omega]
    exact ⟨[], .stop (by omega), (List.append_nil _).symm⟩
  induction fuel generalizing j s with
  | zero =>
    rw [scan] at hscan
    split at hscan
    · cases hscan
    · next hj =>
      obtain rfl := Option.some.inj hscan
      exact hstop hj hstands
  | succ fuel ih =>
    rw [scan] at hscan
    split at hscan
    · next hj =>
      obtain ⟨⟨s₁, j₁⟩, hround, hrest⟩ := Option.bind_eq_some_iff.mp hscan
      dsimp only at hrest
      obtain ⟨hle, hplace⟩ := hstands
      have hin : base + j < base + d.mlen := by omega
      obtain ⟨hnone, hstate, hend, rfl, hcalls⟩ | ⟨reading, hsome, hstate, hend, hnext, hcalls⟩ :=
        scanAt_reading h hshort hj hround
      · obtain ⟨items, hscans, hreceptions⟩ := ih (s := s₁) ⟨by omega, by omega⟩ hrest
        rw [hstate] at hscans
        rw [hcalls] at hreceptions
        exact ⟨items, .skip hin hnone hscans, hreceptions⟩
      · obtain ⟨items, hscans, hreceptions⟩ := ih (s := s₁) ⟨by omega, by omega⟩ hrest
        rw [hstate, hnext, ← Nat.add_assoc] at hscans
        rw [hcalls, List.append_assoc] at hreceptions
        exact ⟨_, .item hin hsome hscans, hreceptions⟩
    · next hj =>
      obtain rfl := Option.some.inj hscan
      exact hstop hj hstands

/-- A buffer that loses nothing goes on with the scan of the stream where the one before stopped. -/
theorem demodulate2400_scans (h : Carried stream T base d) {r r₁ : Receiver IcaoFilter}
    (hlossless : Lossless modes tables garbage r d) {calls : List (Call ModesMessage)}
    (hrun : demodulate2400 (modeSDecoder modes tables garbage) (init_bitsets modes) d.mag d.msg1 d.msg2 r =
      some (r₁, calls)) :
    ∃ items, (scanner modes tables garbage stream).Scans (base + d.mlen) (base + (r.last_message_end - 18)) r.state
        items (base + d.mlen + (r₁.last_message_end - 18)) r₁.state ∧
      receptions base calls = items.map fun x => x.2.reception T x.1 := by
  have hwithin := hlossless.within
  unfold demodulate2400 at hrun
  split at hrun
  · cases hrun
  dsimp only at hrun
  have hmlen : d.mag.validLength - d.mag.overlap = d.mlen := rfl
  rw [hmlen, d.continuous, if_neg Bool.false_ne_true, Nat.min_eq_left hwithin] at hrun
  obtain ⟨s', hscan, hrun⟩ := Option.bind_eq_some_iff.mp hrun
  obtain ⟨trailing, htrailing, hrun⟩ := Option.bind_eq_some_iff.mp hrun
  obtain ⟨rfl, rfl⟩ := Prod.mk.inj (Option.some.inj hrun)
  obtain ⟨items, hscans, hreceptions⟩ := scan_scans h hlossless.short ⟨by dsimp only; omega, Or.inl hwithin⟩ hscan
  refine ⟨items, ?_, ?_⟩
  · have hend : base + max d.mlen (s'.last_message_end - 18) =
        base + d.mlen + ((if s'.last_message_end < d.mlen then 0 else s'.last_message_end - d.mlen) - 18) := by
      split <;> omega
    rw [hend] at hscans
    -- the 18 samples in front of the end of the message that is carried over
    refine Scanner.Scans.quiet (by omega) (by omega) (fun p hp hlt => ?_) hscans
    obtain ⟨j, rfl⟩ := Nat.exists_eq_add_of_le (show base ≤ p by omega)
    have hquiet := hlossless.quiet j (by omega) (by omega)
    rw [readingAt, candidate_congr _ _ (h.agree (by omega))] at hquiet
    exact hquiet
  · have htrail := (feed_decoded htrailing).1
    rw [Option.toList_none, List.map_nil, ite_self] at htrail
    rw [receptions, decoded_append, htrail, List.append_nil]
    exact hreceptions

/-! ### A stream -/

variable (modes tables garbage) in
/-- What is received of the buffers, the first of which starts at `base`. -/
def listen : Nat → Receiver IcaoFilter → List Delivery → Option (Receiver IcaoFilter × List Reception)
  | _, r, [] => some (r, [])
  | base, r, d :: ds => do
    let (r₁, calls) ←
      demodulate2400 (modeSDecoder modes tables garbage) (init_bitsets modes) d.mag d.msg1 d.msg2 r
    let (r', more) ← listen (base + d.mlen) r₁ ds
    some (r', receptions base calls ++ more)

/-- Buffers that lose nothing receive what a scan of the stream finds in front of where they end. -/
theorem listen_scans {ds : List Delivery} (h : Carries stream T base ds) {r : Receiver IcaoFilter}
    (hsettled : Settled modes tables garbage r ds) :
    ∃ r' items, listen modes tables garbage base r ds = some (r', items.map fun x => x.2.reception T x.1) ∧
      (scanner modes tables garbage stream).Scans (base + span ds) (base + (r.last_message_end - 18)) r.state
        items (base + span ds + (r'.last_message_end - 18)) r'.state := by
  induction ds generalizing base r with
  | nil => exact ⟨r, [], rfl, .stop (Nat.le_add_right ..)⟩
  | cons d ds ih =>
    obtain ⟨hfirst, hrest⟩ := h
    obtain ⟨hlossless, hafter⟩ := hsettled
    obtain ⟨r₁, calls, hrun, -⟩ := demodulate2400_reads (modeSDecoder modes tables garbage) (init_bitsets modes) d.mag
      d.msg1 d.msg2 r d.overlap_long d.overlap_valid
    obtain ⟨items, hscans, hreceptions⟩ := demodulate2400_scans hfirst hlossless hrun
    obtain ⟨r', more, hlisten, hmore⟩ := ih hrest (hafter r₁ calls hrun)
    have hspan : base + span (d :: ds) = base + d.mlen + span ds := by
      rw [span, List.map_cons, List.sum_cons, ← Nat.add_assoc]
      rfl
    refine ⟨r', items ++ more, ?_, ?_⟩
    · rw [listen, hrun]
      dsimp only [Option.bind_eq_bind, Option.bind_some]
      rw [hlisten, Option.bind_some, hreceptions, List.map_append]
    · rw [hspan]
      exact hscans.append (Nat.le_add_right ..) hmore

variable (modes tables garbage) in
/-- In front of where the shorter stream of buffers ends, the same is received of both. -/
def SameReceptions (r r' : Receiver IcaoFilter) (ds ds' : List Delivery) : Prop :=
  ∃ a xs a' xs', listen modes tables garbage 0 r ds = some (a, xs) ∧
    listen modes tables garbage 0 r' ds' = some (a', xs') ∧
    xs.filter (fun x => x.position < min (span ds) (span ds')) =
      xs'.filter (fun x => x.position < min (span ds) (span ds'))

variable (modes tables garbage stream T) in
/-- **Main theorem.** Where nothing is lost at the borders, what is received does not depend on where they are. -/
theorem listen_borders {r r' : Receiver IcaoFilter} (hstate : r.state = r'.state) (hstart : r.last_message_end = 0)
    (hstart' : r'.last_message_end = 0) {ds ds' : List Delivery} (h : Carries stream T 0 ds)
    (h' : Carries stream T 0 ds') (hsettled : Settled modes tables garbage r ds)
    (hsettled' : Settled modes tables garbage r' ds') : SameReceptions modes tables garbage r r' ds ds' := by
  obtain ⟨a, items, hlisten, hscans⟩ := listen_scans h hsettled
  obtain ⟨a', items', hlisten', hscans'⟩ := listen_scans h' hsettled'
  rw [hstart] at hscans
  rw [hstart', ← hstate] at hscans'
  have hagree := hscans.agree hscans'
  rw [Nat.zero_add, Nat.zero_add] at hagree
  refine ⟨a, _, a', _, hlisten, hlisten', ?_⟩
  rw [List.filter_map, List.filter_map]
  exact congrArg (List.map fun x => x.2.reception T x.1) hagree

end Streams

/-! ### Streams that are cut -/

theorem length_stretch (stream : Nat → Sample) (base n : Nat) :
    ((List.range n).map fun k => stream (base + k)).length = n := by
  rw [List.length_map, List.length_range]

/-- A buffer with `mlen` samples of a stream in front of the shortest overlap. -/
def cutBlock (stream : Nat → Sample) (base mlen : Nat) : Block where
  data := (List.range (mlen + 289)).map fun k => stream (base + k)
  totalLength := mlen + 289
  validLength := mlen + 289
  overlap := 289
  sampleTimestamp := BitVec.ofNat 64 (5 * base)
  sysTimestamp := 0
  flags := 0
  length_data := length_stretch stream base (mlen + 289)

theorem cutBlock_continuous (stream : Nat → Sample) (base mlen : Nat) :
    (cutBlock stream base mlen).discontinuous = false := by
  show decide ((0 : BitVec 32) &&& Sdr.magbufDiscontinuous ≠ 0) = false
  decide

theorem cutBlock_overlap (stream : Nat → Sample) (base mlen : Nat) :
    289 ≤ (cutBlock stream base mlen).overlap := le_refl 289

theorem cutBlock_valid (stream : Nat → Sample) (base mlen : Nat) :
    (cutBlock stream base mlen).overlap ≤ (cutBlock stream base mlen).validLength := Nat.le_add_left ..

/-- A stream, cut into buffers of these lengths. -/
def cut (stream : Nat → Sample) : Nat → List Nat → List Delivery
  | _, [] => []
  | base, mlen :: mlens =>
    { mag := cutBlock stream base mlen
      msg1 := Buffer.zero
      msg2 := Buffer.zero
      continuous := cutBlock_continuous stream base mlen
      overlap_long := cutBlock_overlap stream base mlen
      overlap_valid := cutBlock_valid stream base mlen } :: cut stream (base + mlen) mlens

theorem carries_cut (stream : Nat → Sample) (base : Nat) (mlens : List Nat) :
    Carries stream 0 base (cut stream base mlens) := by
  induction mlens generalizing base with
  | nil => trivial
  | cons mlen mlens ih =>
    refine ⟨⟨fun k hk => ?_, (BitVec.zero_add _).symm⟩, ?_⟩
    · have hlt : k < mlen + 289 := hk
      simp [cutBlock, hlt]
    · show Carries stream 0 (base + (mlen + 289 - 289)) _
      rw [Nat.add_sub_cancel]
      exact ih (base + mlen)

/-- A quiet sample, and the two replies. -/
def delayed : Nat → Sample := fun k => (0 :: twoReplies).getD k 0

theorem demodulate2400_delayed :
    (demodulate2400 (modeSDecoder plainModes (modesChecksumInit 0) Buffer.zero) (init_bitsets plainModes)
      (cutBlock delayed 0 1) Buffer.zero Buffer.zero started).map (fun after => after.1.last_message_end) =
        some 0 := by
  decide +kernel

theorem lossless_of_zero {modes : Modes} {tables : ErrorTables} {garbage : Buffer} {r : Receiver IcaoFilter}
    {d : Delivery} (hshort : 5 * d.mlen ≤ 2 ^ 32) (h : r.last_message_end = 0) :
    Lossless modes tables garbage r d :=
  ⟨hshort, h ▸ Nat.zero_le _, fun j _ hj => absurd (h ▸ hj) (Nat.not_lt_zero j)⟩

theorem listen_borders_delayed :
    SameReceptions plainModes (modesChecksumInit 0) Buffer.zero started started (cut delayed 0 [137])
      (cut delayed 0 [1, 136]) := by
  have hwhole : Settled plainModes (modesChecksumInit 0) Buffer.zero started (cut delayed 0 [137]) :=
    ⟨lossless_of_zero (by decide) rfl, fun _ _ _ => trivial⟩
  have hcut : Settled plainModes (modesChecksumInit 0) Buffer.zero started (cut delayed 0 [1, 136]) := by
    refine ⟨lossless_of_zero (by decide) rfl, fun r₁ calls hrun => ⟨lossless_of_zero (by decide) ?_, ?_⟩⟩
    · have hend := demodulate2400_delayed
      rw [hrun] at hend
      exact Option.some.inj hend
    · exact fun _ _ _ => trivial
  exact listen_borders _ _ _ delayed 0 rfl rfl rfl (carries_cut ..) (carries_cut ..) hwhole hcut

/-- The samples of the two replies, as a stream. -/
def replies : Nat → Sample := fun k => twoReplies.getD k 0

theorem carries_colliding : Carries replies 0 0 [colliding] :=
  ⟨⟨fun k _ => congrArg replies (Nat.zero_add k).symm, rfl⟩, trivial⟩

/-- When the first reply is cut, the second one is lost. -/
theorem listen_cut : (listen plainModes (modesChecksumInit 0) Buffer.zero 0 started (cut replies 0 [100, 60])).map
    (fun after => after.2.map Reception.position) = some [0] := by
  decide +kernel

theorem not_sameReceptions_colliding :
    Carries replies 0 0 [colliding] ∧ Carries replies 0 0 (cut replies 0 [100, 60]) ∧
      ¬ SameReceptions plainModes (modesChecksumInit 0) Buffer.zero started started [colliding]
        (cut replies 0 [100, 60]) := by
  refine ⟨carries_colliding, carries_cut .., fun h => ?_⟩
  obtain ⟨a, xs, a', xs', hlisten, hlisten', hsame⟩ := h
  have hpositions' : xs'.map Reception.position = [0] := by
    have hcut := listen_cut
    rw [hlisten'] at hcut
    exact Option.some.inj hcut
  obtain ⟨⟨r₁, calls⟩, hrun, hcalls⟩ := Option.map_eq_some_iff.mp demodulate2400_colliding
  obtain ⟨-, hdecoded⟩ := Prod.mk.inj (Prod.mk.inj hcalls).2
  rw [listen, hrun] at hlisten
  obtain ⟨-, rfl⟩ := Prod.mk.inj (Option.some.inj hlisten)
  have hpositions : (receptions 0 calls ++ []).map Reception.position = [0, 135] := by
    rw [List.append_nil, receptions, List.map_map, ← hdecoded]
    exact List.map_congr_left fun x _ => Nat.zero_add x.1
  have hsecond : 135 ∈ (receptions 0 calls ++ []).map Reception.position := by
    rw [hpositions]
    decide
  obtain ⟨x, hx, hposition⟩ := List.mem_map.mp hsecond
  have hfront : x.position < min (span [colliding]) (span (cut replies 0 [100, 60])) := by
    rw [hposition]
    decide
  have hlost : x ∈ xs' := List.mem_of_mem_filter (hsame ▸ List.mem_filter.mpr ⟨hx, decide_eq_true hfront⟩)
  have hzero := List.mem_map_of_mem (f := Reception.position) hlost
  rw [hpositions', hposition] at hzero
  exact absurd hzero (by decide)

end RbFeeder.Demod
