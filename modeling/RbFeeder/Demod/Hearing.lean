import RbFeeder.Demod.Borders
import RbFeeder.Demod.Waveform

/-! A message on the air is received.

Where a message is heard, the phases are tried in turn, and what is judged scores at least
as well as the message does (`tryPhases_leads`). So something is received there, and it is
the message unless another phase shows something else that scores as well
(`Heard.reading`). In a scan of the stream, only a message from in front of it can hide it
(`heard_received`). -/
namespace RbFeeder.Demod
open ModeS
open ModeS.ScoreRank
open Sdr (Sample)

section Phases
variable (modes : Modes) (tables : ErrorTables) (garbage : Buffer) (f : IcaoFilter) (p : View)

/-- What there is to score at a phase. -/
def phaseMessage (try_phase : Nat) : Option Buffer := do
  let bytes ← sliceMessage (init_bitsets modes) try_phase p
  if bytes.length = 1 then none else some (fill Buffer.zero bytes)

/-- The best of the phases tried so far. -/
structure Leads (tried : List Nat) (s : Scan IcaoFilter ModesMessage) : Prop where
  state : s.state = f
  best : ∀ t ∈ tried, ∀ msg, phaseMessage modes p t = some msg →
    ¬ (s.best.map Best.bestscore).getD SR_NOT_SET < scoreModesMessage modes tables f garbage msg
  found : ∀ b, s.best = some b → b.bestscore = scoreModesMessage modes tables f garbage b.bestmsg ∧
    ∃ t ∈ tried, ∃ msg, phaseMessage modes p t = some msg ∧ SameReceived modes b.bestmsg msg

variable {modes tables garbage f p}

theorem ScoreRank.not_lt_trans {a b c : ScoreRank} (h : ¬ b < a) (h' : b < c) : ¬ c < a :=
  fun h'' => h (Nat.lt_trans h' h'')

/-- One more phase. -/
theorem tryPhase_leads {tried : List Nat} {s : Scan IcaoFilter ModesMessage}
    (h : Leads modes tables garbage f p tried s) {t : Nat} {bytes : List Byte}
    (hbytes : sliceMessage (init_bitsets modes) t p = some bytes)
    (hlength : bytes.length = (init_bitsets modes).bytelen (byteAt bytes 0)) :
    ∃ s', tryPhase (modeSDecoder modes tables garbage) (init_bitsets modes) p s t = some s' ∧
      Leads modes tables garbage f p (t :: tried) s' := by
  unfold tryPhase
  rw [hbytes]
  dsimp only [Option.bind_eq_bind, Option.bind_some]
  by_cases hone : bytes.length = 1
  · have hnone : phaseMessage modes p t = none := by
      rw [phaseMessage, hbytes]
      exact if_pos hone
    rw [if_pos hone]
    refine ⟨_, rfl, h.state, fun t' ht' msg hmsg => ?_, fun b hb => ?_⟩
    · obtain rfl | ht' := List.mem_cons.mp ht'
      · cases hnone.symm.trans hmsg
      · exact h.best t' ht' msg hmsg
    · obtain ⟨hscore, t', ht', hfound⟩ := h.found b hb
      exact ⟨hscore, t', List.mem_cons_of_mem t ht', hfound⟩
  rw [if_neg hone]
  have hmessage : phaseMessage modes p t = some (fill Buffer.zero bytes) := by
    rw [phaseMessage, hbytes]
    exact if_neg hone
  have hsame := fill_sameReceived modes s.msg Buffer.zero hlength hone
  have hscore : (modeSDecoder modes tables garbage).scoreModesMessage s.state (fill s.msg bytes) =
      scoreModesMessage modes tables f garbage (fill s.msg bytes) := by
    rw [h.state]
    rfl
  have hscore' := hsame.score tables garbage f
  rw [hscore]
  split
  · next hlt =>
    refine ⟨_, rfl, h.state, fun t' ht' msg hmsg => ?_, fun b hb => ?_⟩
    · obtain rfl | ht' := List.mem_cons.mp ht'
      · obtain rfl := Option.some.inj (hmessage.symm.trans hmsg)
        exact fun hless => absurd (hscore' ▸ hless) (Nat.lt_irrefl _)
      · exact ScoreRank.not_lt_trans (h.best t' ht' msg hmsg) hlt
    · obtain rfl := Option.some.inj hb
      exact ⟨rfl, t, List.mem_cons_self, _, hmessage, hsame⟩
  · next hnot =>
    refine ⟨_, rfl, h.state, fun t' ht' msg hmsg => ?_, fun b hb => ?_⟩
    · obtain rfl | ht' := List.mem_cons.mp ht'
      · obtain rfl := Option.some.inj (hmessage.symm.trans hmsg)
        exact hscore' ▸ hnot
      · exact h.best t' ht' msg hmsg
    · obtain ⟨hscored, t', ht', hfound⟩ := h.found b hb
      exact ⟨hscored, t', List.mem_cons_of_mem t ht', hfound⟩

theorem tryPhases_leads (xs : List Nat) (m : Nat → Sample) (j : Nat) {tried : List Nat}
    {s : Scan IcaoFilter ModesMessage} (h : Leads modes tables garbage f (View.into m j) tried s) :
    ∃ s', xs.foldlM (tryPhase (modeSDecoder modes tables garbage) (init_bitsets modes) (View.into m j)) s = some s' ∧
      Leads modes tables garbage f (View.into m j) (xs.reverse ++ tried) s' := by
  induction xs generalizing tried s with
  | nil => exact ⟨s, rfl, h⟩
  | cons x xs ih =>
    obtain ⟨bytes, hbytes, -, hlength, -⟩ := slicing_exact (init_bitsets modes) m j x
    obtain ⟨s₁, hfirst, h₁⟩ := tryPhase_leads h hbytes hlength
    obtain ⟨s', hrest, h'⟩ := ih h₁
    refine ⟨s', ?_, ?_⟩
    · rw [List.foldlM_cons, hfirst]
      exact hrest
    · rwa [List.reverse_cons, List.append_assoc]

end Phases

theorem SameReceived.trans {modes : Modes} {a b c : Buffer} (h : SameReceived modes a b) (h' : SameReceived modes b c) :
    SameReceived modes a c := by
  obtain rfl | ⟨hshort, htake⟩ := h
  · exact h'
  · obtain rfl | ⟨-, htake'⟩ := h'
    · exact .inr ⟨hshort, htake⟩
    · exact .inr ⟨hshort, htake.trans htake'⟩


/-! ### One message -/

section Messages
variable (modes : Modes) (nfix : Fin 3) (garbage : Buffer) (f : IcaoFilter)

/-- The message as the decoder is handed it, when its bytes are these. -/
def sent (frame : List Byte) : Buffer := fill Buffer.zero frame

/-- It is good enough to be accepted, by the filter. -/
def Accepts (frame : List Byte) : Prop :=
  ¬ scoreModesMessage modes (modesChecksumInit nfix) f garbage (sent frame) < SR_ACCEPT_THRESHOLD

/-- Whatever else is seen at some phase scores less. -/
def Clearest (p : View) (frame : List Byte) : Prop :=
  ∀ t ∈ [4, 5, 6, 7, 8], ∀ msg, phaseMessage modes p t = some msg → SameReceived modes msg (sent frame) ∨
    scoreModesMessage modes (modesChecksumInit nfix) f garbage msg <
      scoreModesMessage modes (modesChecksumInit nfix) f garbage (sent frame)

/-- It is received as it would be on its own. -/
def ReceivedAs (reading : Reading) (frame : List Byte) : Prop :=
  ∃ mm, decodeModesMessage modes (modesChecksumInit nfix) f garbage zeroMessage (sent frame) = (0, mm) ∧
    reading.message = received mm

variable {modes nfix garbage f}

/-- A candidate that scores well enough is decoded. -/
theorem judge_accepts {s : Scan IcaoFilter ModesMessage} {b : Best} (hbest : s.best = some b) (hstate : s.state = f)
    (hscore : b.bestscore = scoreModesMessage modes (modesChecksumInit nfix) f garbage b.bestmsg)
    (haccept : ¬ b.bestscore < SR_ACCEPT_THRESHOLD) :
    ∃ mm, (judge (modeSDecoder modes (modesChecksumInit nfix) garbage) s).2 = some (b, mm) ∧
      decodeModesMessage modes (modesChecksumInit nfix) f garbage { zeroMessage with score := b.bestscore } b.bestmsg =
        (0, mm) := by
  have hzero := decodeModesMessage_accepts modes nfix f garbage b.bestmsg { zeroMessage with score := b.bestscore }
    (.inr hscore) ((scoreModesMessage_accepted modes nfix f garbage b.bestmsg).mp (hscore ▸ haccept))
  unfold judge
  rw [hbest]
  dsimp only
  rw [if_neg haccept, hstate]
  unfold modeSDecoder
  dsimp only
  generalize decodeModesMessage modes (modesChecksumInit nfix) f garbage { zeroMessage with score := b.bestscore }
    b.bestmsg = decoded at hzero ⊢
  obtain ⟨result, mm⟩ := decoded
  obtain rfl := hzero
  exact ⟨mm, rfl, rfl⟩

/-- It makes no difference whether the decoder scores the message itself. -/
theorem decode_scored (tables : ErrorTables) (msg : Buffer) :
    decodeModesMessage modes tables f garbage { zeroMessage with score := scoreModesMessage modes tables f garbage msg }
      msg = decodeModesMessage modes tables f garbage zeroMessage msg := by
  unfold decodeModesMessage
  by_cases hunset : scoreModesMessage modes tables f garbage msg = SR_NOT_SET
  · rw [hunset]
    rfl
  · dsimp only
    rw [if_neg hunset]
    rfl

/-- **Main theorem.** Where a message is heard that is good enough, something is received, and it is the message
unless another phase shows something else that scores as well. -/
theorem Heard.reading {m : Nat → Sample} {j try_phase base step : Nat} {frame : List Byte}
    (h : Heard m j try_phase frame base step) (hphase : try_phase ∈ [4, 5, 6, 7, 8]) (hbase : base ≤ 3 * step)
    (hlength : frame.length = (init_bitsets modes).bytelen (byteAt frame 0)) (hone : frame.length ≠ 1)
    (haccept : Accepts modes nfix garbage f frame) :
    ∃ reading, readingAt modes (modesChecksumInit nfix) garbage f (View.into m j) = some reading ∧
      (Clearest modes nfix garbage f (View.into m j) frame → ReceivedAs modes nfix garbage f reading frame) := by
  have hpositive : 0 < try_phase := by
    simp only [List.mem_cons, List.not_mem_nil, or_false] at hphase
    omega
  have hshown : phaseMessage modes (View.into m j) try_phase = some (sent frame) := by
    rw [phaseMessage, h.sliceMessage hpositive hlength]
    exact if_neg hone
  have hfresh : Leads modes (modesChecksumInit nfix) garbage f (View.into m j) []
      { fresh f with demod_preambles := (fresh f).demod_preambles + 1, best := none } :=
    ⟨rfl, fun t ht => absurd ht List.not_mem_nil, fun b hb => by cases hb⟩
  obtain ⟨s, hphases, hleads⟩ := tryPhases_leads [4, 5, 6, 7, 8] m j hfresh
  have hmem : ∀ t, t ∈ [4, 5, 6, 7, 8].reverse ++ [] ↔ t ∈ [4, 5, 6, 7, 8] := fun t => by
    rw [List.append_nil, List.mem_reverse]
  have hbest := hleads.best try_phase ((hmem try_phase).mpr hphase) _ hshown
  obtain ⟨b, hb⟩ : ∃ b, s.best = some b := by
    cases hnone : s.best with
    | some b => exact ⟨b, rfl⟩
    | none =>
      rw [hnone] at hbest
      refine absurd (Nat.lt_of_lt_of_le ?_ (Nat.not_lt.mp haccept)) hbest
      show SR_NOT_SET.value < SR_ACCEPT_THRESHOLD.value
      decide
  rw [hb, Option.map_some, Option.getD_some] at hbest
  obtain ⟨hscore, t, ht, msg, hmsg, hsame⟩ := hleads.found b hb
  have hgood : ¬ b.bestscore < SR_ACCEPT_THRESHOLD :=
    fun hlow => haccept (Nat.lt_of_le_of_lt (Nat.not_lt.mp hbest) hlow)
  obtain ⟨mm, hjudge, hdecode⟩ := judge_accepts hb hleads.state hscore hgood
  refine ⟨readingOf (b, mm), ?_, fun hclearest => ?_⟩
  · rw [readingAt, candidate, readSamples_into]
    dsimp only [Option.bind_eq_bind, Option.bind_some]
    rw [h.isPreamble hphase hbase (readSamples_into m j 19), if_neg (by decide), hphases]
    dsimp only [Option.bind_some]
    rw [hjudge]
    rfl
  · -- the best candidate has the bytes of the message
    have hframe : SameReceived modes b.bestmsg (sent frame) := by
      obtain hframe | hlow := hclearest t ((hmem t).mp ht) msg hmsg
      · exact hsame.trans hframe
      · rw [hscore, hsame.score (modesChecksumInit nfix) garbage f] at hbest
        exact absurd hlow hbest
    have halike : Best.Alike modes (modesChecksumInit nfix) garbage f b
        ⟨sent frame, scoreModesMessage modes (modesChecksumInit nfix) f garbage (sent frame), b.bestphase⟩ :=
      ⟨rfl, hframe, hscore, rfl⟩
    have hreceived := decode_alike modes (modesChecksumInit nfix) garbage f halike hgood
    have hzero := decodeModesMessage_accepts modes nfix f garbage (sent frame) zeroMessage (.inl rfl)
      ((scoreModesMessage_accepted modes nfix f garbage (sent frame)).mp haccept)
    unfold modeSDecoder at hreceived
    dsimp only at hreceived
    rw [hdecode, decode_scored] at hreceived
    generalize hframe : decodeModesMessage modes (modesChecksumInit nfix) f garbage zeroMessage (sent frame) = decoded
      at hreceived hzero
    obtain ⟨result, mm'⟩ := decoded
    obtain rfl := hzero
    exact ⟨mm', hframe, Option.some.inj hreceived⟩

end Messages

/-! ### A stream -/

section Streams
variable {modes : Modes} {nfix : Fin 3} {garbage : Buffer} {stream : Nat → Sample} {T : BitVec 64}

variable (modes nfix garbage stream T) in
/-- A message is received from in front of a position, and the search goes on behind it. -/
def Hidden (xs : List Reception) (j : Nat) : Prop :=
  ∃ f p reading, readingAt modes (modesChecksumInit nfix) garbage f (View.into stream p) = some reading ∧
    reading.reception T p ∈ xs ∧ p < j ∧ j < p + ((reading.msglen + 8) * 12 / 5 - 18)

variable (modes nfix garbage stream T) in
/-- A message is received at a position, by the filter of the time, and it is this one unless another phase shows
something else that scores as well. -/
def ReceivedAt (xs : List Reception) (j : Nat) (frame : List Byte) : Prop :=
  ∃ f reading, readingAt modes (modesChecksumInit nfix) garbage f (View.into stream j) = some reading ∧
    reading.reception T j ∈ xs ∧
    (Clearest modes nfix garbage f (View.into stream j) frame → ReceivedAs modes nfix garbage f reading frame)

/-- **Main theorem.** A message that is heard in front of where the buffers end and that any filter accepts is
received, unless one from in front of it hides it, from buffers at whose borders nothing is lost. -/
theorem listen_heard {ds : List Delivery} (hcarries : Carries stream T 0 ds) {r : Receiver IcaoFilter}
    (hstart : r.last_message_end = 0) (hsettled : Settled modes (modesChecksumInit nfix) garbage r ds)
    {j try_phase base step : Nat} {frame : List Byte} (h : Heard stream j try_phase frame base step)
    (hphase : try_phase ∈ [4, 5, 6, 7, 8]) (hbase : base ≤ 3 * step)
    (hlength : frame.length = (init_bitsets modes).bytelen (byteAt frame 0)) (hone : frame.length ≠ 1)
    (haccept : ∀ f, Accepts modes nfix garbage f frame) (hj : j < span ds) :
    ∃ r' xs, listen modes (modesChecksumInit nfix) garbage 0 r ds = some (r', xs) ∧
      (Hidden modes nfix garbage stream T xs j ∨ ReceivedAt modes nfix garbage stream T xs j frame) := by
  obtain ⟨r', items, hlisten, hscans⟩ := listen_scans hcarries hsettled
  refine ⟨r', _, hlisten, ?_⟩
  rw [hstart, Nat.zero_add] at hscans
  obtain ⟨x, hx, ⟨f, hfind⟩, hlt, hnext⟩ | ⟨f, hfind⟩ := hscans.reaches (Nat.zero_le j) hj
  · exact .inl ⟨f, x.1, x.2, hfind, List.mem_map_of_mem (f := fun x => x.2.reception T x.1) hx, hlt, hnext⟩
  · obtain ⟨reading, hreading, hclearest⟩ := h.reading hphase hbase hlength hone (haccept f)
    obtain hnone | ⟨item, hitem, hmem⟩ := hfind
    · cases hreading.symm.trans hnone
    · obtain rfl := Option.some.inj (hreading.symm.trans hitem)
      exact .inr ⟨f, reading, hreading, List.mem_map_of_mem (f := fun x => x.2.reception T x.1) hmem, hclearest⟩

end Streams

/-! ### A message on a quiet channel -/

/-- A good reply is accepted, whether its address is known or not. -/
theorem accepts_allCallReply (f : IcaoFilter) : Accepts plainModes 0 Buffer.zero f allCallReply := by
  have hzeros : ¬ AllZeros (sent allCallReply) := by
    decide +kernel
  have hcorrected : (downlinkFormat (correctMessage plainModes (modesChecksumInit 0) (sent allCallReply)
      Buffer.zero).out).toNat = 11 ∧
      (correctMessage plainModes (modesChecksumInit 0) (sent allCallReply) Buffer.zero).result = 0 ∧
      checkedSyndrome (correctMessage plainModes (modesChecksumInit 0) (sent allCallReply) Buffer.zero).short_syndrome
        (correctMessage plainModes (modesChecksumInit 0) (sent allCallReply) Buffer.zero).out shortMsgBits &&& 0x7F =
          0 := by
    decide +kernel
  obtain ⟨hdf, hresult, hiid⟩ := hcorrected
  have hscore : scoreModesMessage plainModes (modesChecksumInit 0) f Buffer.zero (sent allCallReply) =
      scoreCorrected plainModes f (correctMessage plainModes (modesChecksumInit 0) (sent allCallReply) Buffer.zero) :=
    if_neg hzeros
  rw [scoreCorrected_df11 hdf, hresult, hiid] at hscore
  show ¬ scoreModesMessage plainModes (modesChecksumInit 0) f Buffer.zero (sent allCallReply) < SR_ACCEPT_THRESHOLD
  rw [hscore]
  generalize icaoFilterTest f _ = recent
  cases recent <;> decide

theorem settled_alone : Settled plainModes (modesChecksumInit (0 : Fin 3)) Buffer.zero started
    (cut (alone allCallReply (startTick 0 4)) 0 [1]) :=
  ⟨lossless_of_zero (by decide) rfl, fun _ _ _ => trivial⟩

theorem listen_alone :
    ∃ r' xs, listen plainModes (modesChecksumInit (0 : Fin 3)) Buffer.zero 0 started
        (cut (alone allCallReply (startTick 0 4)) 0 [1]) = some (r', xs) ∧
      (Hidden plainModes 0 Buffer.zero (alone allCallReply (startTick 0 4)) 0 xs 0 ∨
        ReceivedAt plainModes 0 Buffer.zero (alone allCallReply (startTick 0 4)) 0 xs 0 allCallReply) :=
  listen_heard (carries_cut ..) rfl settled_alone (heard_alone allCallReply 0 4) (by decide) (by decide)
    bytelen_allCallReply (by decide) accepts_allCallReply Nat.one_pos

end RbFeeder.Demod
