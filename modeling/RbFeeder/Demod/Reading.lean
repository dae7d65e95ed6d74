import RbFeeder.Demod.Feeding

/-! What is received at a position of a stream.

The two buffers for messages are not initialised, and a short message leaves in them what
was there before. Nothing that is received depends on it: `candidate_reading` says that the
phase, the length and the message are a function of the filter and the samples. -/
namespace RbFeeder.Demod
open ModeS
open ModeS.ScoreRank
open Sdr (Sample)

/-! ### Buffers -/

theorem take_fill (msg : Buffer) {bytes : List Byte} (h : bytes.length ≤ 14) :
    (fill msg bytes).bytes.take bytes.length = bytes := by
  rw [fill, List.take_take, Nat.min_eq_left h, List.take_left]

theorem fill_long (msg msg' : Buffer) {bytes : List Byte} (h : bytes.length = 14) :
    fill msg bytes = fill msg' bytes := by
  have hfill := take_fill msg h.le
  have hfill' := take_fill msg' h.le
  apply Buffer.ext
  rw [h, List.take_of_length_le (Buffer.length_bytes _).le] at hfill hfill'
  rw [hfill, hfill']

theorem byteAt_fill (msg : Buffer) {bytes : List Byte} (h : bytes.length ≤ 14) {i : Nat} (hi : i < bytes.length) :
    byteAt (fill msg bytes).bytes i = byteAt bytes i :=
  byteAt_congr ((take_fill msg h).trans (List.take_of_length_le (Nat.le_refl _)).symm) hi

section Readings
variable (modes : Modes) (tables : ErrorTables) (garbage : Buffer) (f : IcaoFilter)

/-- Messages of which the same was received. -/
def SameReceived (msg msg' : Buffer) : Prop :=
  msg = msg' ∨ NotLong modes msg ∧ msg.bytes.take 7 = msg'.bytes.take 7

variable {modes} in
theorem SameReceived.first {msg msg' : Buffer} (h : SameReceived modes msg msg') :
    byteAt msg.bytes 0 = byteAt msg'.bytes 0 := by
  obtain rfl | ⟨-, htake⟩ := h
  · rfl
  · exact byteAt_congr htake (by decide)

variable {modes} in
theorem SameReceived.score {msg msg' : Buffer} (h : SameReceived modes msg msg') :
    scoreModesMessage modes tables f garbage msg = scoreModesMessage modes tables f garbage msg' := by
  obtain rfl | ⟨hshort, htake⟩ := h
  · rfl
  · exact score_short hshort htake

/-- Whatever the buffers held before. -/
theorem fill_sameReceived (msg msg' : Buffer) {bytes : List Byte}
    (hbytelen : bytes.length = (init_bitsets modes).bytelen (byteAt bytes 0)) (hlength : bytes.length ≠ 1) :
    SameReceived modes (fill msg bytes) (fill msg' bytes) := by
  have hmem := bytelen_mem (init_bitsets modes) (byteAt bytes 0)
  rw [← hbytelen] at hmem
  simp only [shortMsgBytes, longMsgBytes, List.mem_cons, List.not_mem_nil, or_false] at hmem
  obtain hone | hshort | hlong := hmem
  · exact absurd hone hlength
  · have hle : bytes.length ≤ 14 := by omega
    have hfirst := byteAt_fill msg hle (show 0 < bytes.length by omega)
    refine Or.inr ⟨?_, ?_⟩
    · obtain hlong | ⟨hnot, -⟩ := bytelen_cases modes (fill msg bytes)
      · rw [hfirst, ← hbytelen, hshort] at hlong
        cases hlong
      · exact hnot
    · have htake := take_fill msg hle
      have htake' := take_fill msg' hle
      rw [hshort] at htake htake'
      rw [htake, htake']
  · exact Or.inl (fill_long msg msg' hlong)

/-! ### Candidates -/

/-- Candidates of which the same was received. -/
structure Best.Alike (a b : Best) : Prop where
  bestphase : a.bestphase = b.bestphase
  bestmsg : SameReceived modes a.bestmsg b.bestmsg
  scored : a.bestscore = scoreModesMessage modes tables f garbage a.bestmsg
  scored' : b.bestscore = scoreModesMessage modes tables f garbage b.bestmsg

variable {modes tables garbage f} in
theorem Best.Alike.bestscore {a b : Best} (h : Best.Alike modes tables garbage f a b) : a.bestscore = b.bestscore := by
  rw [h.scored, h.scored', h.bestmsg.score tables garbage f]

/-- Scans that differ in what the buffers hold, and in what has been handed over. -/
structure Alike (s s' : Scan IcaoFilter ModesMessage) : Prop where
  state : s.state = f
  state' : s'.state = f
  best : Option.Rel (Best.Alike modes tables garbage f) s.best s'.best

variable {modes tables garbage f} in
theorem Alike.bestscore {s s' : Scan IcaoFilter ModesMessage} (h : Alike modes tables garbage f s s') :
    s.best.map Best.bestscore = s'.best.map Best.bestscore := by
  have hbest := h.best
  generalize s.best = best at hbest ⊢
  generalize s'.best = best' at hbest ⊢
  cases hbest with
  | none => rfl
  | some halike => exact congrArg some halike.bestscore

theorem tryPhase_alike (m : Nat → Sample) (j try_phase : Nat) {s s' : Scan IcaoFilter ModesMessage}
    (h : Alike modes tables garbage f s s') :
    ∃ s₁ s₁', tryPhase (modeSDecoder modes tables garbage) (init_bitsets modes) (View.into m j) s try_phase = some s₁ ∧
      tryPhase (modeSDecoder modes tables garbage) (init_bitsets modes) (View.into m j) s' try_phase = some s₁' ∧
      Alike modes tables garbage f s₁ s₁' := by
  obtain ⟨bytes, hbytes, -, hbytelen, -⟩ := slicing_exact (init_bitsets modes) m j try_phase
  unfold tryPhase
  rw [hbytes]
  dsimp only [Option.bind_eq_bind, Option.bind_some]
  by_cases hlength : bytes.length = 1
  · rw [if_pos hlength, if_pos hlength]
    exact ⟨_, _, rfl, rfl, h.state, h.state', h.best⟩
  rw [if_neg hlength, if_neg hlength]
  have hmsg := fill_sameReceived modes s.msg s'.msg hbytelen hlength
  have hscore : (modeSDecoder modes tables garbage).scoreModesMessage s'.state (fill s'.msg bytes) =
      (modeSDecoder modes tables garbage).scoreModesMessage s.state (fill s.msg bytes) := by
    rw [h.state, h.state']
    exact (hmsg.score tables garbage f).symm
  rw [hscore, ← h.bestscore]
  split
  · refine ⟨_, _, rfl, rfl, h.state, h.state', Option.Rel.some ⟨rfl, hmsg, ?_, ?_⟩⟩
    · exact congrArg (fun f => scoreModesMessage modes tables f garbage (fill s.msg bytes)) h.state
    · rw [← hscore]
      exact congrArg (fun f => scoreModesMessage modes tables f garbage (fill s'.msg bytes)) h.state'
  · exact ⟨_, _, rfl, rfl, h.state, h.state', h.best⟩

theorem foldlM_alike (xs : List Nat) (m : Nat → Sample) (j : Nat) {s s' : Scan IcaoFilter ModesMessage}
    (h : Alike modes tables garbage f s s') :
    ∃ s₁ s₁', xs.foldlM (tryPhase (modeSDecoder modes tables garbage) (init_bitsets modes) (View.into m j)) s = some s₁ ∧
      xs.foldlM (tryPhase (modeSDecoder modes tables garbage) (init_bitsets modes) (View.into m j)) s' = some s₁' ∧
      Alike modes tables garbage f s₁ s₁' := by
  induction xs generalizing s s' with
  | nil => exact ⟨s, s', rfl, rfl, h⟩
  | cons x xs ih =>
    obtain ⟨s₁, s₁', hfirst, hfirst', h₁⟩ := tryPhase_alike modes tables garbage f m j x h
    obtain ⟨s₂, s₂', hrest, hrest', h₂⟩ := ih h₁
    refine ⟨s₂, s₂', ?_, ?_, h₂⟩
    · rw [List.foldlM_cons, hfirst]
      exact hrest
    · rw [List.foldlM_cons, hfirst']
      exact hrest'

/-! ### Messages -/

/-- What is received at a preamble. -/
structure Reading where
  bestphase : Nat
  msglen : Nat
  message : Received

def readingOf (found : Best × ModesMessage) : Reading where
  bestphase := found.1.bestphase
  msglen := modesMessageLenByType ((byteAt found.1.bestmsg.bytes 0 >>> 3).setWidth 32)
  message := received found.2

/-- The filter afterwards. -/
def learn (f : IcaoFilter) (message : Received) : IcaoFilter :=
  match message.added with
  | none => f
  | some addr => icaoFilterAdd f addr

theorem decode_state (score : ScoreRank) (msg : Buffer) :
    ((modeSDecoder modes tables garbage).decodeModesMessage f score msg).1 =
      (((modeSDecoder modes tables garbage).decodeModesMessage f score msg).2.map received).elim f
        (learn f) := by
  unfold modeSDecoder
  dsimp only
  split
  · rfl
  · rfl

/-- A candidate that is good enough is decoded as a single message is. -/
theorem decode_eq (stats : Stats) {score : ScoreRank} {msg : Buffer}
    (hscore : score = scoreModesMessage modes tables f garbage msg) (haccept : ¬ score < SR_ACCEPT_THRESHOLD) :
    ((modeSDecoder modes tables garbage).decodeModesMessage f score msg).2 =
      (demodulateMessage modes tables f garbage stats msg).2 := by
  unfold demodulateMessage demodulateCandidate modeSDecoder
  rw [← hscore, if_neg haccept]
  dsimp only
  split <;> rfl

theorem decode_alike {a b : Best} (h : Best.Alike modes tables garbage f a b)
    (haccept : ¬ a.bestscore < SR_ACCEPT_THRESHOLD) :
    ((modeSDecoder modes tables garbage).decodeModesMessage f a.bestscore a.bestmsg).2.map received =
      ((modeSDecoder modes tables garbage).decodeModesMessage f b.bestscore b.bestmsg).2.map received := by
  have haccept' : ¬ b.bestscore < SR_ACCEPT_THRESHOLD := h.bestscore ▸ haccept
  have hstats : Stats := ⟨0, 0, fun _ => 0, 0, 0, 0, fun _ => 0⟩
  rw [decode_eq modes tables garbage f hstats h.scored haccept,
    decode_eq modes tables garbage f hstats h.scored' haccept']
  obtain hsame | ⟨hshort, htake⟩ := h.bestmsg
  · rw [hsame]
  · obtain ⟨hnone, hnone'⟩ | ⟨x, y, hx, hy, hxy⟩ :=
      demodulateMessage_congr tables f garbage hshort htake hstats
    · rw [hnone, hnone']
    · rw [hx, hy, Option.map_some, Option.map_some, hxy.received]

theorem judge_alike {s s' : Scan IcaoFilter ModesMessage} (h : Alike modes tables garbage f s s') :
    (judge (modeSDecoder modes tables garbage) s).2.map readingOf =
        (judge (modeSDecoder modes tables garbage) s').2.map readingOf ∧
      (judge (modeSDecoder modes tables garbage) s).1.state =
        ((judge (modeSDecoder modes tables garbage) s).2.map readingOf).elim f
          fun reading => learn f reading.message := by
  have hbest := h.best
  unfold judge
  rw [h.state, h.state']
  generalize s.best = best at hbest ⊢
  generalize s'.best = best' at hbest ⊢
  cases hbest with
  | none => exact ⟨rfl, rfl⟩
  | @some a b halike =>
    dsimp only
    rw [← halike.bestscore]
    split
    · split
      · exact ⟨rfl, rfl⟩
      · exact ⟨rfl, rfl⟩
    next haccept =>
    have hsame := decode_alike modes tables garbage f halike haccept
    have hstate := decode_state modes tables garbage f a.bestscore a.bestmsg
    rw [← halike.bestscore] at hsame
    generalize (modeSDecoder modes tables garbage).decodeModesMessage f a.bestscore a.bestmsg = decoded at hsame hstate ⊢
    generalize (modeSDecoder modes tables garbage).decodeModesMessage f a.bestscore b.bestmsg = decoded' at hsame ⊢
    obtain ⟨f₁, message⟩ := decoded
    obtain ⟨f₁', message'⟩ := decoded'
    cases message with
    | none =>
      cases message' with
      | none => exact ⟨rfl, hstate⟩
      | some message' => cases hsame
    | some message =>
      cases message' with
      | none => cases hsame
      | some message' =>
        refine ⟨?_, hstate⟩
        simp only [Option.map_some, readingOf, halike.bestphase, halike.bestmsg.first, Option.some.inj hsame]

/-! ### Positions -/

/-- A scan that starts now. -/
def fresh : Scan IcaoFilter ModesMessage where
  state := f
  stats := ⟨0, 0, fun _ => 0, 0, 0, 0, fun _ => 0⟩
  demod_preambles := 0
  last_message_end := 0
  msg := Buffer.zero
  other := Buffer.zero
  best := none
  calls := []

/-- What is received at a position, by the filter and the samples. -/
def readingAt (p : View) : Option Reading :=
  ((candidate (modeSDecoder modes tables garbage) (init_bitsets modes) p (fresh f)).bind Prod.snd).map readingOf

theorem candidate_alike (m : Nat → Sample) (j : Nat) {s s' : Scan IcaoFilter ModesMessage} (hs : s.state = f)
    (hs' : s'.state = f) :
    ∃ c c', candidate (modeSDecoder modes tables garbage) (init_bitsets modes) (View.into m j) s = some c ∧
      candidate (modeSDecoder modes tables garbage) (init_bitsets modes) (View.into m j) s' = some c' ∧
      c.2.map readingOf = c'.2.map readingOf ∧
      c.1.state = (c.2.map readingOf).elim f fun reading => learn f reading.message := by
  have hread : ∃ preamble, readSamples (View.into m j) 19 = some preamble := ⟨_, mapM_some fun _ _ => rfl⟩
  obtain ⟨preamble, hpreamble⟩ := hread
  unfold candidate
  rw [hpreamble]
  dsimp only [Option.bind_eq_bind, Option.bind_some]
  split
  · exact ⟨_, _, rfl, rfl, rfl, hs⟩
  · have halike : Alike modes tables garbage f { s with demod_preambles := s.demod_preambles + 1, best := none }
        { s' with demod_preambles := s'.demod_preambles + 1, best := none } := ⟨hs, hs', Option.Rel.none⟩
    obtain ⟨s₁, s₁', hphases, hphases', h₁⟩ :=
      foldlM_alike modes tables garbage f [4, 5, 6, 7, 8] m j halike
    obtain ⟨hreading, hstate⟩ := judge_alike modes tables garbage f h₁
    rw [hphases, hphases']
    exact ⟨_, _, rfl, rfl, hreading, hstate⟩

/-- **Main theorem.** Whatever the buffers hold, what is received at a position is a function of the filter and
the samples, and so is the filter afterwards. -/
theorem candidate_reading (m : Nat → Sample) (j : Nat) (s : Scan IcaoFilter ModesMessage) :
    ∃ c, candidate (modeSDecoder modes tables garbage) (init_bitsets modes) (View.into m j) s = some c ∧
      c.2.map readingOf = readingAt modes tables garbage s.state (View.into m j) ∧
      c.1.state = (readingAt modes tables garbage s.state (View.into m j)).elim s.state fun reading =>
        learn s.state reading.message := by
  obtain ⟨c, c', hc, hc', hreading, hstate⟩ :=
    @candidate_alike modes tables garbage s.state m j s (fresh s.state) rfl rfl
  have hfresh : readingAt modes tables garbage s.state (View.into m j) = c'.2.map readingOf := by
    rw [readingAt, hc']
    rfl
  rw [hfresh, ← hreading]
  exact ⟨c, hc, rfl, hstate⟩

end Readings

theorem foldlM_congr {α β : Type} {f g : α → β → Option α} {xs : List β} (h : ∀ a, ∀ x ∈ xs, f a x = g a x) (a : α) :
    xs.foldlM f a = xs.foldlM g a := by
  induction xs generalizing a with
  | nil => rfl
  | cons x xs ih =>
    rw [List.foldlM_cons, List.foldlM_cons, h a x List.mem_cons_self]
    exact congrArg _ (funext fun a' => ih (fun a y hy => h a y (List.mem_cons_of_mem x hy)) a')

/-- It is read from 290 samples. -/
theorem candidate_congr {σ μ : Type} (decoder : Decoder σ μ) (sets : Bitsets) {p p' : View} (h : p.Agree p' 290)
    (s : Scan σ μ) : candidate decoder sets p s = candidate decoder sets p' s := by
  have hpreamble : readSamples p 19 = readSamples p' 19 :=
    mapM_congr fun k hk => h k (Nat.lt_trans (List.mem_range.mp hk) (by decide))
  have hphase : ∀ s : Scan σ μ, ∀ t ∈ [4, 5, 6, 7, 8], tryPhase decoder sets p s t = tryPhase decoder sets p' s t := by
    intro s t ht
    have hle : t ≤ 8 := by
      simp only [List.mem_cons, List.not_mem_nil, or_false] at ht
      omega
    rw [tryPhase, tryPhase, sliceMessage_congr sets hle h]
  have hfold : ∀ s : Scan σ μ, [4, 5, 6, 7, 8].foldlM (tryPhase decoder sets p) s =
      [4, 5, 6, 7, 8].foldlM (tryPhase decoder sets p') s :=
    foldlM_congr hphase
  simp only [candidate, hpreamble, hfold]

end RbFeeder.Demod
