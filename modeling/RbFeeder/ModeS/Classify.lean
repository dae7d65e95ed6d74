import RbFeeder.ModeS.ScoreProofs

/-! How the demodulator and the network handlers count the same message.

Both judge a message by its score. The demodulator compares the score with the two
thresholds itself; a network handler reads the return value of the decoder, which
is -1 below the lower threshold and -2 below the upper one. The handlers take -1
for an unknown address, so the two kinds of rejection are counted the other way
round than in the demodulator, and the counts agree only for accepted messages
(`classifiedAlike_iff`). -/
namespace RbFeeder.ModeS
open ScoreRank

/-- What became of a message. -/
inductive Verdict
  | bad
  | unknownIcao
  | accepted
deriving DecidableEq

/-- The thresholds, read off a score. -/
def verdictOf (score : ScoreRank) : Verdict :=
  if score < SR_UNKNOWN_THRESHOLD then .bad
  else if score < SR_ACCEPT_THRESHOLD then .unknownIcao
  else .accepted

theorem verdictOf_cases (score : ScoreRank) :
    (score < SR_UNKNOWN_THRESHOLD ∧ score < SR_ACCEPT_THRESHOLD ∧ verdictOf score = .bad) ∨
      (¬ score < SR_UNKNOWN_THRESHOLD ∧ score < SR_ACCEPT_THRESHOLD ∧
        verdictOf score = .unknownIcao) ∨
      (¬ score < SR_UNKNOWN_THRESHOLD ∧ ¬ score < SR_ACCEPT_THRESHOLD ∧
        verdictOf score = .accepted) := by
  have hle (h : score < SR_UNKNOWN_THRESHOLD) : score < SR_ACCEPT_THRESHOLD :=
    Nat.lt_trans h (show SR_UNKNOWN_THRESHOLD.value < SR_ACCEPT_THRESHOLD.value by decide)
  by_cases hunknown : score < SR_UNKNOWN_THRESHOLD
  · simp [verdictOf, hunknown, hle hunknown]
  · by_cases haccept : score < SR_ACCEPT_THRESHOLD <;> simp [verdictOf, hunknown, haccept]

section Counters
variable (modes : Modes) (f : Fin 3) (filter : IcaoFilter) (stats : Stats)

/-- The verdict on a message, from its score. -/
def verdict (garbage msg : Buffer) : Verdict :=
  verdictOf (scoreModesMessage modes (modesChecksumInit f) filter garbage msg)

/-- Which rejections the demodulator counts. -/
theorem demodulateMessage_counts (garbage msg : Buffer) :
    let s := (demodulateMessage modes (modesChecksumInit f) filter garbage stats msg).1
    s.demod_rejected_unknown_icao = stats.demod_rejected_unknown_icao +
        (if verdict modes f filter garbage msg = .unknownIcao then 1 else 0) ∧
      s.demod_rejected_bad = stats.demod_rejected_bad +
        (if verdict modes f filter garbage msg = .bad then 1 else 0) := by
  have hresult := decodeModesMessage_result modes f filter garbage msg
    { zeroMessage with score := scoreModesMessage modes (modesChecksumInit f) filter garbage msg }
    (.inr rfl)
  simp only [demodulateMessage, demodulateCandidate, verdict]
  generalize decodeModesMessage modes (modesChecksumInit f) filter garbage _ msg = decoded at hresult ⊢
  obtain ⟨result, mm⟩ := decoded
  rcases verdictOf_cases (scoreModesMessage modes (modesChecksumInit f) filter garbage msg) with
    ⟨hunknown, haccept, hverdict⟩ | ⟨hunknown, haccept, hverdict⟩ | ⟨hunknown, haccept, hverdict⟩
  all_goals
    simp only [hunknown, haccept, if_true, if_false] at hresult
    simp [hunknown, haccept, hverdict, hresult]

/-- Which rejections a network handler counts: the other ones. -/
theorem remoteMessage_counts (garbage msg : Buffer) :
    let s := (remoteMessage modes (modesChecksumInit f) filter garbage stats msg).1
    s.remote_rejected_unknown_icao = stats.remote_rejected_unknown_icao +
        (if verdict modes f filter garbage msg = .bad then 1 else 0) ∧
      s.remote_rejected_bad = stats.remote_rejected_bad +
        (if verdict modes f filter garbage msg = .unknownIcao then 1 else 0) := by
  have hresult := decodeModesMessage_result modes f filter garbage msg zeroMessage (.inl rfl)
  simp only [remoteMessage, verdict]
  generalize decodeModesMessage modes (modesChecksumInit f) filter garbage _ msg = decoded at hresult ⊢
  obtain ⟨result, mm⟩ := decoded
  rcases verdictOf_cases (scoreModesMessage modes (modesChecksumInit f) filter garbage msg) with
    ⟨hunknown, haccept, hverdict⟩ | ⟨hunknown, haccept, hverdict⟩ | ⟨hunknown, haccept, hverdict⟩
  all_goals
    simp only [hunknown, haccept, if_true, if_false] at hresult
    simp [hverdict, hresult]

theorem verdict_accepted (garbage msg : Buffer) :
    verdict modes f filter garbage msg = .accepted ↔ Acceptable modes f filter msg := by
  rw [← scoreModesMessage_accepted modes f filter garbage msg, verdict]
  rcases verdictOf_cases (scoreModesMessage modes (modesChecksumInit f) filter garbage msg) with
    ⟨-, haccept, hverdict⟩ | ⟨-, haccept, hverdict⟩ | ⟨-, haccept, hverdict⟩ <;>
    simp [hverdict, haccept]

theorem verdict_garbage (garbage garbage' msg : Buffer) :
    verdict modes f filter garbage msg = verdict modes f filter garbage' msg := by
  rw [verdict, verdict, scoreModesMessage_garbage modes f filter garbage garbage' msg]

/-- **When the two paths count alike.** The network handlers count a message as
from an unknown address exactly when the demodulator does, and as bad exactly when
the demodulator does, if and only if the message is accepted. -/
theorem classifiedAlike_iff (garbage garbage' msg : Buffer) :
    let demod := (demodulateMessage modes (modesChecksumInit f) filter garbage stats msg).1
    let remote := (remoteMessage modes (modesChecksumInit f) filter garbage' stats msg).1
    ((remote.remote_rejected_unknown_icao = stats.remote_rejected_unknown_icao + 1 ↔
        demod.demod_rejected_unknown_icao = stats.demod_rejected_unknown_icao + 1) ∧
      (remote.remote_rejected_bad = stats.remote_rejected_bad + 1 ↔
        demod.demod_rejected_bad = stats.demod_rejected_bad + 1)) ↔
      Acceptable modes f filter msg := by
  obtain ⟨hdemodUnknown, hdemodBad⟩ := demodulateMessage_counts modes f filter stats garbage msg
  obtain ⟨hremoteUnknown, hremoteBad⟩ := remoteMessage_counts modes f filter stats garbage' msg
  rw [verdict_garbage modes f filter garbage' garbage msg] at hremoteUnknown hremoteBad
  simp only [hdemodUnknown, hdemodBad, hremoteUnknown, hremoteBad]
  rw [← verdict_accepted modes f filter garbage msg]
  cases verdict modes f filter garbage msg <;> simp

end Counters

/-- A surveillance reply from an address that was never seen: the demodulator
counts the address, the network handlers count a bad message. -/
theorem classifiedAlike_reply :
    let stats : Stats := ⟨0, 0, fun _ => 0, 0, 0, 0, fun _ => 0⟩
    let reply : Buffer := Buffer.zero.flip 2
    let tables := modesChecksumInit 1
    let demod := (demodulateMessage ⟨1, true, false, false⟩ tables icaoFilterInit Buffer.zero stats
      reply).1
    let remote := (remoteMessage ⟨1, true, false, false⟩ tables icaoFilterInit Buffer.zero stats
      reply).1
    demod.demod_rejected_unknown_icao = 1 ∧ demod.demod_rejected_bad = 0 ∧
      remote.remote_rejected_unknown_icao = 0 ∧ remote.remote_rejected_bad = 1 := by
  decide +kernel

end RbFeeder.ModeS
