import RbFeeder.Demod.Slice
import RbFeeder.ModeS.Feedback

/-! The demodulator, `demodulate2400`.

It looks for a preamble at every sample of a buffer but the last ones, the overlap,
tries the five phases of a message behind it, and decodes the one that scores best.
Signal and noise go to the adaptive gain logic; a message that runs into the overlap
makes the next buffer start behind it.

What is read outside the valid samples of the buffer is `none`, as is a failed
`assert`. `demodulate2400_reads` says that neither happens. -/
namespace RbFeeder.Demod
open ModeS
open ModeS.ScoreRank
open Sdr (Sample Block)

/-! ### Samples -/

/-- `&mag->data[j]`. -/
def samplesAt (mag : Block) (j : Nat) : View :=
  fun k => if j + k < mag.validLength then some (mag.data.getD (j + k) 0) else none

/-- `n` samples in a row. -/
def readSamples (p : View) (n : Nat) : Option (List Sample) := (List.range n).mapM p

/-! ### Preambles -/

/-- What the peaks of a preamble are measured by. -/
structure Peaks where
  high : Nat
  base_signal : Nat
  base_noise : Nat

/-- The five patterns of peaks, for samples that start at `p`. -/
def peaks (p : Nat → Nat) : Option Peaks :=
  if ¬ (p 0 < p 1 ∧ p 12 > p 13) then none
  else if p 1 > p 2 ∧ p 2 < p 3 ∧ p 3 > p 4 ∧ p 8 < p 9 ∧ p 9 > p 10 ∧ p 10 < p 11 then
    -- peaks at 1,3,9,11-12: phase 3
    some ⟨(p 1 + p 3 + p 9 + p 11 + p 12) / 4, p 1 + p 3 + p 9, p 5 + p 6 + p 7⟩
  else if p 1 > p 2 ∧ p 2 < p 3 ∧ p 3 > p 4 ∧ p 8 < p 9 ∧ p 9 > p 10 ∧ p 11 < p 12 then
    -- peaks at 1,3,9,12: phase 4
    some ⟨(p 1 + p 3 + p 9 + p 12) / 4, p 1 + p 3 + p 9 + p 12, p 5 + p 6 + p 7 + p 8⟩
  else if p 1 > p 2 ∧ p 2 < p 3 ∧ p 4 > p 5 ∧ p 8 < p 9 ∧ p 10 > p 11 ∧ p 11 < p 12 then
    -- peaks at 1,3-4,9-10,12: phase 5
    some ⟨(p 1 + p 3 + p 4 + p 9 + p 10 + p 12) / 4, p 1 + p 12, p 6 + p 7⟩
  else if p 1 > p 2 ∧ p 3 < p 4 ∧ p 4 > p 5 ∧ p 9 < p 10 ∧ p 10 > p 11 ∧ p 11 < p 12 then
    -- peaks at 1,4,10,12: phase 6
    some ⟨(p 1 + p 4 + p 10 + p 12) / 4, p 1 + p 4 + p 10 + p 12, p 5 + p 6 + p 7 + p 8⟩
  else if p 2 > p 3 ∧ p 3 < p 4 ∧ p 4 > p 5 ∧ p 9 < p 10 ∧ p 10 > p 11 ∧ p 11 < p 12 then
    -- peaks at 1-2,4,10,12: phase 7
    some ⟨(p 1 + p 2 + p 4 + p 10 + p 12) / 4, p 4 + p 10 + p 12, p 6 + p 7 + p 8⟩
  else none

/-- Peaks with enough signal, and quiet bits that are quiet. -/
def isPreamble (p : Nat → Nat) : Bool :=
  match peaks p with
  | none => false
  | some ⟨high, base_signal, base_noise⟩ =>
    !decide (base_signal * 2 < 3 * base_noise) && [5, 6, 7, 8, 14, 15, 16, 17, 18].all fun k => !decide (p k ≥ high)

/-! ### Messages -/

/-- What the demodulator calls, and a state that it keeps: the score of a message, the
message that is decoded from the best one, and the bits that were corrected. -/
structure Decoder (σ μ : Type) where
  scoreModesMessage : σ → Buffer → ScoreRank
  decodeModesMessage : σ → ScoreRank → Buffer → σ × Option μ
  correctedbits : μ → Nat

/-- A message that is passed on, with its times and its signal power. -/
structure Demodulated (μ : Type) where
  timestampMsg : BitVec 64
  sysTimestampMsg : BitVec 64
  scaled_signal_power : Nat
  signal_len : Nat
  message : μ

/-- The calls of `adaptive_update` (with `buf = &m[start]`) and of `useModesMessage`. -/
inductive Call (μ : Type)
  | adaptive_update (start : Nat) (buf : List Sample) (mm : Option (Demodulated μ))
  | useModesMessage (mm : Demodulated μ)

/-- What is kept from one buffer to the next. -/
structure Receiver (σ : Type) where
  state : σ
  stats : Stats
  demod_preambles : Nat
  last_message_end : Nat

/-- `bestmsg`, `bestscore` and `bestphase`, once there is one. -/
structure Best where
  bestmsg : Buffer
  bestscore : ScoreRank
  bestphase : Nat

/-- The buffer `msg` points to, the other one, and the calls so far. -/
structure Scan (σ μ : Type) extends Receiver σ where
  msg : Buffer
  other : Buffer
  best : Option Best
  calls : List (Call μ)

def rejectedBad (stats : Stats) : Stats := { stats with demod_rejected_bad := stats.demod_rejected_bad + 1 }

theorem length_fill (msg : Buffer) (bytes : List Byte) :
    ((bytes ++ msg.bytes.drop bytes.length).take 14).length = 14 := by
  rw [List.length_take, List.length_append, List.length_drop, msg.length_bytes]
  omega

/-- `msg[i] = theByte`, for all bytes. -/
def fill (msg : Buffer) (bytes : List Byte) : Buffer :=
  ⟨(bytes ++ msg.bytes.drop bytes.length).take 14, length_fill msg bytes⟩

/-- `(t2 - t1) / 12000U`. -/
def receiveclock_ms_elapsed (t1 t2 : BitVec 64) : BitVec 64 := (t2 - t1) / 12000

section Demodulate
variable {σ μ : Type} (decoder : Decoder σ μ) (sets : Bitsets) (mag : Block)

/-- One round of the loop over the phases. -/
def tryPhase (preamble : View) (s : Scan σ μ) (try_phase : Nat) : Option (Scan σ μ) := do
  let bytes ← sliceMessage sets try_phase preamble
  let msg := fill s.msg bytes
  if bytes.length = 1 then some { s with msg := msg, stats := rejectedBad s.stats }
  else
    let score := decoder.scoreModesMessage s.state msg
    let bestscore := (s.best.map Best.bestscore).getD SR_NOT_SET
    if bestscore < score then
      -- swap to using the other buffer
      some { s with best := some ⟨msg, score, try_phase⟩, msg := s.other, other := msg }
    else some { s with msg := msg }

/-- What becomes of the best candidate. -/
def judge (s : Scan σ μ) : Scan σ μ × Option (Best × μ) :=
  match s.best with
  | none => ({ s with stats := rejectedBad s.stats }, none)
  | some best =>
    if best.bestscore < SR_ACCEPT_THRESHOLD then
      if ¬ best.bestscore < SR_UNKNOWN_THRESHOLD then
        ({ s with stats := { s.stats with
            demod_rejected_unknown_icao := s.stats.demod_rejected_unknown_icao + 1 } }, none)
      else ({ s with stats := rejectedBad s.stats }, none)
    else
      match decoder.decodeModesMessage s.state best.bestscore best.bestmsg with
      | (state, none) => ({ s with state := state, stats := rejectedBad s.stats }, none)
      | (state, some message) =>
        ({ s with
            state := state
            stats := { s.stats with
              demod_accepted := bump s.stats.demod_accepted (decoder.correctedbits message) } },
          some (best, message))

/-- The samples from `start` to `stop`, to the adaptive gain logic. -/
def feed (start stop : Nat) (mm : Option (Demodulated μ)) : Option (List (Call μ)) :=
  if start < stop then do
    let buf ← readSamples (samplesAt mag start) (stop - start)
    some [.adaptive_update start buf mm]
  else some []

/-- `timestampMsg`: that of the end of bit 56. -/
def timestampMsg (j bestphase : Nat) : BitVec 64 :=
  mag.sampleTimestamp + BitVec.ofNat 64 (j * 5 % 2 ^ 32) + (8 + 56) * 12 + BitVec.ofNat 64 bestphase

/-- The message of the best candidate is passed on: the state, and where to go on. -/
def accept (j : Nat) (s : Scan σ μ) (best : Best) (message : μ) : Option (Scan σ μ × Nat) := do
  let msglen := modesMessageLenByType ((byteAt best.bestmsg.bytes 0 >>> 3).setWidth 32)
  let timestamp := timestampMsg mag j best.bestphase
  let signal_len := msglen * 12 / 5
  let signal ← readSamples (samplesAt mag (j + 19)) signal_len
  let mm : Demodulated μ := {
    timestampMsg := timestamp
    sysTimestampMsg := mag.sysTimestamp + receiveclock_ms_elapsed mag.sampleTimestamp timestamp
    scaled_signal_power := (signal.map fun m => m.toNat * m.toNat).sum
    signal_len := signal_len
    message := message }
  let empty ← feed mag s.last_message_end j none
  let last_message_end := j + (msglen + 8) * 12 / 5
  let update ← feed mag j last_message_end (some mm)
  some ({ s with
      last_message_end := last_message_end
      calls := s.calls ++ empty ++ update ++ [.useModesMessage mm] }, last_message_end - 8 * 12 / 5)

/-- One round of the loop over `j`: the state, and `j` at its end. -/
def scanAt (j : Nat) (s : Scan σ μ) : Option (Scan σ μ × Nat) := do
  -- the source reads them one by one, until a test fails
  let preamble ← readSamples (samplesAt mag j) 19
  if ¬ isPreamble fun k => (preamble.getD k 0).toNat then some (s, j)
  else
    let s := { s with demod_preambles := s.demod_preambles + 1, best := none }
    let s ← [4, 5, 6, 7, 8].foldlM (tryPhase decoder sets (samplesAt mag j)) s
    match judge decoder s with
    | (s, none) => some (s, j)
    | (s, some (best, message)) => accept mag j s best message

/-- The loop over `j`. -/
def scan (mlen : Nat) : Nat → Nat → Scan σ μ → Option (Scan σ μ)
  | 0, j, s => if j < mlen then none else some s
  | fuel + 1, j, s =>
    if j < mlen then do
      let (s, j) ← scanAt decoder sets mag j s
      scan mlen fuel (j + 1) s
    else some s

/-- The demodulator; `msg1` and `msg2` are what the two buffers hold before. -/
def demodulate2400 (msg1 msg2 : Buffer) (r : Receiver σ) : Option (Receiver σ × List (Call μ)) :=
  -- the assertion; and `mlen` must not wrap around
  if mag.overlap < 19 + 1 + 269 ∨ mag.validLength < mag.overlap then none
  else do
    let mlen := mag.validLength - mag.overlap
    let last_message_end := min (if mag.discontinuous then 0 else r.last_message_end) mlen
    let s ← scan decoder sets mag mlen mlen last_message_end
      { r with last_message_end := last_message_end, msg := msg1, other := msg2, best := none, calls := [] }
    let trailing ← feed mag s.last_message_end mlen none
    -- a message that runs into the overlap is skipped in the next buffer
    let carried := if s.last_message_end < mlen then 0 else s.last_message_end - mlen
    some ({ s.toReceiver with last_message_end := carried }, s.calls ++ trailing)

end Demodulate

/-- The decoder of Mode S messages; its state is the filter of addresses. -/
def modeSDecoder (modes : Modes) (tables : ErrorTables) (garbage : Buffer) :
    Decoder IcaoFilter ModesMessage where
  scoreModesMessage filter msg := scoreModesMessage modes tables filter garbage msg
  decodeModesMessage filter bestscore bestmsg :=
    let (result, mm) := decodeModesMessage modes tables filter garbage
      { zeroMessage with score := bestscore } bestmsg
    if result < 0 then (filter, none) else (filterAfter mm filter, some mm)
  correctedbits := ModesMessage.correctedbits

/-- Candidates are judged as in `demodulateCandidate`. -/
theorem judge_modeSDecoder (modes : Modes) (tables : ErrorTables) (garbage : Buffer)
    (s : Scan IcaoFilter ModesMessage) {best : Best} (h : s.best = some best) :
    ((judge (modeSDecoder modes tables garbage) s).1.stats,
        (judge (modeSDecoder modes tables garbage) s).2.map Prod.snd) =
      demodulateCandidate modes tables s.state garbage s.stats best.bestscore best.bestmsg := by
  unfold judge demodulateCandidate modeSDecoder
  rw [h]
  dsimp only
  split
  · split <;> rfl
  · cases decodeModesMessage modes tables s.state garbage { zeroMessage with score := best.bestscore }
      best.bestmsg with
    | mk result mm =>
      by_cases hresult : result < 0
      · simp only [if_pos hresult]
        rfl
      · simp only [if_neg hresult]
        rfl

/-! ### Reads -/

theorem foldlM_total {α β : Type} {f : α → β → Option α} {I : α → Prop} {xs : List β}
    (h : ∀ a, I a → ∀ x ∈ xs, ∃ a', f a x = some a' ∧ I a') {a : α} (ha : I a) :
    ∃ a', xs.foldlM f a = some a' ∧ I a' := by
  induction xs generalizing a with
  | nil => exact ⟨a, rfl, ha⟩
  | cons x xs ih =>
    obtain ⟨a₁, hfirst, ha₁⟩ := h a ha x List.mem_cons_self
    obtain ⟨a', hrest, ha'⟩ := ih (fun a ha y hy => h a ha y (List.mem_cons_of_mem x hy)) ha₁
    refine ⟨a', ?_, ha'⟩
    rw [List.foldlM_cons, hfirst]
    exact hrest

section Reads
variable {σ μ : Type} (decoder : Decoder σ μ) (sets : Bitsets) {mag : Block} {j mlen : Nat} {s : Scan σ μ}

theorem samplesAt_of_valid {k : Nat} (h : j + k < mag.validLength) :
    samplesAt mag j k = some (mag.data.getD (j + k) 0) := if_pos h

theorem readSamples_total {n : Nat} (h : j + n ≤ mag.validLength) :
    ∃ samples, readSamples (samplesAt mag j) n = some samples :=
  ⟨_, mapM_some fun k hk => samplesAt_of_valid (by
    have hlt := List.mem_range.mp hk
    omega)⟩

theorem feed_total {start stop : Nat} (h : stop ≤ mag.validLength) (mm : Option (Demodulated μ)) :
    ∃ calls, feed mag start stop mm = some calls := by
  unfold feed
  split
  · next hlt =>
    have hvalid : start + (stop - start) ≤ mag.validLength := by omega
    obtain ⟨buf, hbuf⟩ := readSamples_total hvalid
    rw [hbuf]
    exact ⟨_, rfl⟩
  · exact ⟨_, rfl⟩

/-- The longest message, from its preamble on. -/
theorem sliceMessage_valid (h : j + 290 ≤ mag.validLength) {try_phase : Nat} (hphase : try_phase ≤ 8) :
    ∃ bytes, sliceMessage sets try_phase (samplesAt mag j) = some bytes := by
  have hagree : (samplesAt mag j).Agree (View.into (fun i => mag.data.getD i 0) j) 290 :=
    fun k hk => samplesAt_of_valid (by omega)
  rw [sliceMessage_congr sets hphase hagree]
  exact sliceMessage_total sets _ j try_phase

theorem tryPhase_total (h : j + 290 ≤ mag.validLength) (s : Scan σ μ) {try_phase : Nat}
    (hphase : try_phase ≤ 8) :
    ∃ s', tryPhase decoder sets (samplesAt mag j) s try_phase = some s' ∧
      s'.last_message_end = s.last_message_end := by
  obtain ⟨bytes, hbytes⟩ := sliceMessage_valid sets h hphase
  unfold tryPhase
  rw [hbytes]
  dsimp only [Option.bind_eq_bind, Option.bind_some]
  split
  · exact ⟨_, rfl, rfl⟩
  · split <;> exact ⟨_, rfl, rfl⟩

theorem judge_last_message_end (s : Scan σ μ) :
    (judge decoder s).1.last_message_end = s.last_message_end := by
  unfold judge
  split
  · rfl
  · split
    · split <;> rfl
    · split <;> rfl

theorem msglen_le (first : BitVec 32) : modesMessageLenByType first ∈ [56, 112] := by
  unfold modesMessageLenByType
  split <;> decide

/-- An accepted message ends 153 or 288 samples behind its start; the scan goes on before its end. -/
theorem accept_total (h : j + 290 ≤ mag.validLength) (s : Scan σ μ) (best : Best) (message : μ) :
    ∃ s' j', accept mag j s best message = some (s', j') ∧ j ≤ j' ∧ s'.last_message_end ≤ j + 288 := by
  have hlen := msglen_le ((byteAt best.bestmsg.bytes 0 >>> 3).setWidth 32)
  unfold accept
  dsimp only
  generalize modesMessageLenByType ((byteAt best.bestmsg.bytes 0 >>> 3).setWidth 32) = msglen at hlen ⊢
  simp only [List.mem_cons, List.not_mem_nil, or_false] at hlen
  have hsignal : j + 19 + msglen * 12 / 5 ≤ mag.validLength := by omega
  have hend : j + (msglen + 8) * 12 / 5 ≤ mag.validLength := by omega
  obtain ⟨signal, hsignal⟩ := readSamples_total hsignal
  obtain ⟨empty, hempty⟩ := feed_total (by omega : j ≤ mag.validLength) (none : Option (Demodulated μ))
  rw [hsignal]
  dsimp only [Option.bind_eq_bind, Option.bind_some]
  rw [hempty]
  obtain ⟨update, hupdate⟩ := feed_total hend (some (_ : Demodulated μ))
  dsimp only [Option.bind_some]
  rw [hupdate]
  exact ⟨_, _, rfl, by omega, by show j + (msglen + 8) * 12 / 5 ≤ _; omega⟩

theorem scanAt_total (h : j + 290 ≤ mag.validLength) (s : Scan σ μ) :
    ∃ s' j', scanAt decoder sets mag j s = some (s', j') ∧ j ≤ j' ∧
      (s'.last_message_end = s.last_message_end ∨ s'.last_message_end ≤ j + 288) := by
  obtain ⟨preamble, hpreamble⟩ := readSamples_total (show j + 19 ≤ mag.validLength by omega)
  unfold scanAt
  rw [hpreamble]
  dsimp only [Option.bind_eq_bind, Option.bind_some]
  split
  · exact ⟨s, j, rfl, le_refl j, Or.inl rfl⟩
  have hphase : ∀ a : Scan σ μ, a.last_message_end = s.last_message_end → ∀ t ∈ [4, 5, 6, 7, 8],
      ∃ a', tryPhase decoder sets (samplesAt mag j) a t = some a' ∧
        a'.last_message_end = s.last_message_end := by
    intro a ha t ht
    obtain ⟨a', ha', hsame⟩ := tryPhase_total decoder sets h a
      (show t ≤ 8 by simp only [List.mem_cons, List.not_mem_nil, or_false] at ht; omega)
    exact ⟨a', ha', hsame.trans ha⟩
  obtain ⟨s₁, hphases, hsame⟩ := foldlM_total (I := fun a : Scan σ μ => a.last_message_end = s.last_message_end)
    hphase (a := { s with demod_preambles := s.demod_preambles + 1, best := none }) rfl
  rw [hphases]
  have hjudge := (judge_last_message_end decoder s₁).trans hsame
  dsimp only [Option.bind_some]
  split
  · next s₂ heq =>
    rw [heq] at hjudge
    exact ⟨s₂, j, rfl, le_refl j, Or.inl hjudge⟩
  · next s₂ best message heq =>
    obtain ⟨s', j', haccept, hle, hend⟩ := accept_total h s₂ best message
    exact ⟨s', j', haccept, hle, Or.inr hend⟩

/-- The scan ends, within the buffer. -/
theorem scan_total (hmlen : mlen + 289 ≤ mag.validLength) {fuel : Nat} (hfuel : mlen ≤ j + fuel)
    (hend : s.last_message_end ≤ mlen + 287) :
    ∃ s', scan decoder sets mag mlen fuel j s = some s' ∧ s'.last_message_end ≤ mlen + 287 := by
  induction fuel generalizing j s with
  | zero =>
    rw [scan, if_neg (by omega)]
    exact ⟨s, rfl, hend⟩
  | succ fuel ih =>
    rw [scan]
    split
    · obtain ⟨s₁, j₁, hround, hle, hafter⟩ := scanAt_total decoder sets (show j + 290 ≤ mag.validLength by omega) s
      obtain ⟨s', hrest, hend'⟩ := ih (j := j₁ + 1) (s := s₁) (by omega) (by omega)
      rw [hround]
      exact ⟨s', hrest, hend'⟩
    · exact ⟨s, rfl, hend⟩

variable (mag) in
/-- **Main theorem.** Every sample that the demodulator reads is a valid one of the buffer, and the message
that it carries over ends within the overlap. -/
theorem demodulate2400_reads (msg1 msg2 : Buffer) (r : Receiver σ) (hoverlap : 289 ≤ mag.overlap)
    (hvalid : mag.overlap ≤ mag.validLength) :
    ∃ r' calls, demodulate2400 decoder sets mag msg1 msg2 r = some (r', calls) ∧
      r'.last_message_end ≤ mag.overlap := by
  have hmlen : mag.validLength - mag.overlap + 289 ≤ mag.validLength := by omega
  unfold demodulate2400
  rw [if_neg (by omega)]
  dsimp only
  generalize mag.validLength - mag.overlap = mlen at hmlen ⊢
  generalize hstart : min (if mag.discontinuous then 0 else r.last_message_end) mlen = start
  have hle : start ≤ mlen := hstart ▸ min_le_right _ _
  obtain ⟨s', hscan, hend⟩ := scan_total decoder sets hmlen (j := start)
    (s := { r with last_message_end := start, msg := msg1, other := msg2, best := none, calls := [] })
    (show mlen ≤ start + mlen by omega) (show start ≤ mlen + 287 by omega)
  obtain ⟨trailing, htrailing⟩ := feed_total (show mlen ≤ mag.validLength by omega)
    (none : Option (Demodulated μ))
  rw [hscan]
  dsimp only [Option.bind_eq_bind, Option.bind_some]
  rw [htrailing]
  refine ⟨_, _, rfl, ?_⟩
  dsimp only
  split <;> omega

end Reads

/-! ### Two replies that almost collide -/

/-- The preamble of the second one starts in the last bits of the first. -/
def twoReplies : List Sample :=
  (List.flatten [
    [2, 4, 0, 5, 1, 0, 0, 0, 0, 5, 1, 3, 3, 0, 0, 0, 0, 0, 0, 0, 0, 5, 5, 2, 0, 1, 5, 5, 1, 3, 3, 1, 5, 0, 0, 3],
    [5, 4, 0, 0, 4, 5, 3, 0, 0, 5, 1, 3, 5, 4, 0, 0, 4, 2, 2, 4, 0, 5, 1, 3, 5, 4, 0, 0, 4, 2, 2, 4, 0, 5, 1, 3],
    [3, 1, 5, 0, 4, 5, 3, 1, 5, 0, 0, 3, 5, 4, 0, 0, 4, 5, 3, 1, 5, 0, 0, 3, 5, 4, 0, 5, 1, 3, 3, 1, 5, 0, 4, 2],
    [0, 1, 5, 0, 4, 2, 2, 4, 0, 5, 5, 2, 2, 4, 0, 5, 1, 0, 2, 5, 5, 0, 0, 3, 3, 1, 5, 2, 5, 2, 5, 5, 0, 5, 1, 3],
    [5, 5, 3, 5, 1, 3, 3, 1, 5, 0, 0, 0, 5, 5, 2, 0, 1, 5, 5, 1, 3, 3, 1, 5, 0, 0, 3, 5, 4, 0, 0, 4, 5, 3, 0, 0],
    [5, 1, 3, 5, 4, 0, 0, 4, 2, 2, 4, 0, 5, 1, 3, 5, 4, 0, 0, 4, 2, 2, 4, 0, 5, 1, 3, 3, 1, 5, 0, 4, 5, 3, 1, 5],
    [0, 0, 3, 5, 4, 0, 0, 4, 5, 3, 1, 5, 0, 0, 3, 5, 4, 0, 5, 1, 3, 3, 1, 5, 0, 4, 2, 0, 1, 5, 0, 4, 2, 2, 4, 0],
    [5, 5, 2, 2, 4, 0, 5, 1, 0, 2, 5, 5, 0, 0, 3, 3, 1, 5, 0, 4, 2, 2, 4, 0, 5, 1, 3, 5, 4, 0, 5, 1, 3, 3, 1, 5]]) ++ List.replicate 137 0

theorem length_twoReplies : twoReplies.length = 425 := by
  decide +kernel

def collidingBlock : Block where
  data := twoReplies
  totalLength := 425
  validLength := 425
  overlap := 289
  sampleTimestamp := 0
  sysTimestamp := 0
  flags := 0
  length_data := length_twoReplies

/-- A receiver to which no message has been carried over. -/
def started : Receiver IcaoFilter where
  state := icaoFilterInit
  stats := ⟨0, 0, fun _ => 0, 0, 0, 0, fun _ => 0⟩
  demod_preambles := 0
  last_message_end := 0

theorem demodulate2400_reads_colliding :
    289 ≤ collidingBlock.overlap ∧ collidingBlock.overlap ≤ collidingBlock.validLength ∧ ∃ r' calls,
      demodulate2400 (modeSDecoder plainModes (modesChecksumInit 0) Buffer.zero) (init_bitsets plainModes)
          collidingBlock Buffer.zero Buffer.zero started = some (r', calls) ∧
        r'.last_message_end ≤ collidingBlock.overlap :=
  ⟨by decide, by decide, demodulate2400_reads _ _ collidingBlock _ _ _ (by decide) (by decide)⟩

end RbFeeder.Demod
