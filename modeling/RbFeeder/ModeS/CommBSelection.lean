import RbFeeder.ModeS.RangesProofs
import RbFeeder.Lib.BestOf

/-! Which register a Comm-B reply is taken for.

The scores decide, whatever the order of the decoders, and a decoder that is only asked
for its score changes nothing. `decodeCommB` means to leave messages with `DR`, `UM` or
corrected bits alone, but `UM` is not extracted yet when it looks (`commBSelection_iff`). -/
namespace RbFeeder.ModeS

/-- The formats that `decodeCommB` sets itself. -/
def CommBFormat.undecoded : List CommBFormat := [.unknown, .ambiguous, .notDecoded]

/-- A decoder changes the message only when it stores, and then it sets the format; the
score depends on neither. -/
structure CommBDecoder.Regular (decoder : CommBDecoder) : Prop where
  unchanged : ∀ d, (decoder false d).2 = d
  score : ∀ store d d', (decoder store d).1 = (decoder false d').1
  format : ∀ d, 0 < (decoder true d).1 → (decoder true d).2.commb_format ∉ CommBFormat.undecoded

namespace CommBDecoder.Regular

theorem reject : CommBDecoder.Regular fun _ d => (0, d) :=
  ⟨fun _ => rfl, fun _ _ _ => rfl, fun _ h => absurd h (lt_irrefl 0)⟩

theorem store {format : CommBFormat} (hformat : format ∉ CommBFormat.undecoded) (score : Int)
    {write : Decoded → Decoded} (hwrite : ∀ d, (write d).commb_format = format) :
    CommBDecoder.Regular fun store d => (score, if store then write d else d) := by
  refine ⟨fun _ => rfl, fun _ _ _ => rfl, fun d _ => ?_⟩
  rw [if_pos rfl, hwrite]
  exact hformat

theorem ite {c : Prop} [Decidable c] {accept : CommBDecoder} (h : accept.Regular) :
    CommBDecoder.Regular fun store d => if c then (0, d) else accept store d := by
  by_cases hc : c
  · simp only [if_pos hc]
    exact reject
  · simp only [if_neg hc]
    exact h

end CommBDecoder.Regular

section Registers
variable (msg : List Byte)
open CommBDecoder

theorem regular_decodeEmptyResponse : (decodeEmptyResponse msg).Regular :=
  Regular.ite (Regular.ite (Regular.store (by decide) _ fun _ => rfl))

theorem regular_decodeBDS10 : (decodeBDS10 msg).Regular :=
  Regular.ite (Regular.ite (Regular.store (by decide) _ fun _ => rfl))

theorem regular_decodeBDS20 : (decodeBDS20 msg).Regular :=
  Regular.ite (Regular.ite (Regular.store (by decide) _ fun _ => rfl))

theorem regular_decodeBDS30 : (decodeBDS30 msg).Regular :=
  Regular.ite (Regular.store (by decide) _ fun _ => rfl)

theorem regular_decodeBDS17 : (decodeBDS17 msg).Regular :=
  Regular.ite (Regular.store (by decide) _ fun _ => rfl)

theorem regular_decodeBDS40 : (decodeBDS40 msg).Regular := by
  refine Regular.ite ?_
  generalize (scoreAltitude _ _ >>= _ : Option Int) = likely
  cases likely with
  | none => exact Regular.reject
  | some score => exact Regular.store (by decide) _ fun _ => rfl

theorem regular_decodeBDS44 : (decodeBDS44 msg).Regular := by
  refine Regular.ite (Regular.ite (Regular.ite (Regular.ite (Regular.ite ?_))))
  extract_lets +underBinder rest likely
  clear_value likely
  cases likely with
  | none => exact Regular.reject
  | some score => exact Regular.store (by decide) _ fun _ => rfl

theorem regular_decodeBDS50 (math : MathLibrary) : (decodeBDS50 msg math).Regular := by
  refine Regular.ite ?_
  generalize (scoreValid _ _ _ _ >>= _ : Option Int) = likely
  cases likely with
  | none => exact Regular.reject
  | some score => exact Regular.store (by decide) _ fun _ => rfl

theorem regular_decodeBDS60 : (decodeBDS60 msg).Regular := by
  refine Regular.ite ?_
  generalize (scoreValid _ _ _ _ >>= _ : Option Int) = likely
  cases likely with
  | none => exact Regular.reject
  | some score => exact Regular.store (by decide) _ fun _ => rfl

theorem regular_decodeBDS05 (msgtype : Nat) (AC : BitVec 32) : (decodeBDS05 msg msgtype AC).Regular := by
  refine Regular.ite (Regular.ite (Regular.ite (Regular.ite (Regular.ite (Regular.ite ?_)))))
  exact Regular.store (by decide) _ fun _ => rfl

theorem regular_comm_b_decoders (math : MathLibrary) (msgtype : Nat) (AC : BitVec 32) :
    ∀ decoder ∈ comm_b_decoders msg math msgtype AC, decoder.Regular := by
  intro decoder hdecoder
  simp only [comm_b_decoders, List.mem_cons, List.not_mem_nil, or_false] at hdecoder
  obtain rfl | rfl | rfl | rfl | rfl | rfl | rfl | rfl | rfl | rfl := hdecoder
  · exact regular_decodeEmptyResponse msg
  · exact regular_decodeBDS10 msg
  · exact regular_decodeBDS20 msg
  · exact regular_decodeBDS30 msg
  · exact regular_decodeBDS17 msg
  · exact regular_decodeBDS40 msg
  · exact regular_decodeBDS50 msg math
  · exact regular_decodeBDS60 msg
  · exact regular_decodeBDS44 msg
  · exact regular_decodeBDS05 msg msgtype AC

end Registers

/-! ### The choice -/

/-- The score that decides, for a message as it is. -/
def CommBDecoder.scoreFor (d : Decoded) (decoder : CommBDecoder) : Int := (decoder false d).1

def Choice.toBest (c : Choice) : BestOf.Best CommBDecoder Int := ⟨c.bestScore, c.bestDecoder, c.ambiguous⟩

theorem toBest_consider (d : Decoded) (c : Choice) (decoder : CommBDecoder) :
    (c.consider d decoder).toBest = BestOf.consider (CommBDecoder.scoreFor d) c.toBest decoder := by
  by_cases hmore : c.bestScore < (decoder false d).1
  · have hchoice : c.consider d decoder = ⟨(decoder false d).1, some decoder, false⟩ := if_pos hmore
    have hbest : BestOf.consider (CommBDecoder.scoreFor d) c.toBest decoder =
        ⟨(decoder false d).1, some decoder, false⟩ := if_pos hmore
    rw [hchoice, hbest]
    rfl
  · by_cases hsame : (decoder false d).1 = c.bestScore
    · have hchoice : c.consider d decoder = { c with ambiguous := true } := (if_neg hmore).trans (if_pos hsame)
      have hbest : BestOf.consider (CommBDecoder.scoreFor d) c.toBest decoder = { c.toBest with tied := true } :=
        (if_neg hmore).trans (if_pos hsame)
      rw [hchoice, hbest]
      rfl
    · have hchoice : c.consider d decoder = c := (if_neg hmore).trans (if_neg hsame)
      have hbest : BestOf.consider (CommBDecoder.scoreFor d) c.toBest decoder = c.toBest :=
        (if_neg hmore).trans (if_neg hsame)
      rw [hchoice, hbest]

theorem toBest_foldl (d : Decoded) (decoders : List CommBDecoder) :
    (decoders.foldl (Choice.consider d) ⟨0, none, false⟩).toBest =
      BestOf.select (CommBDecoder.scoreFor d) 0 decoders :=
  (List.foldl_hom Choice.toBest fun c decoder => (toBest_consider d c decoder).symm).symm

/-- What becomes of a message whose register is to be found. -/
inductive Selects (decoders : List CommBDecoder) (d : Decoded) : Decoded → Prop
  | unknown (h : BestOf.NoneAbove (CommBDecoder.scoreFor d) 0 decoders) :
    Selects decoders d { d with commb_format := .unknown }
  | ambiguous (score : Int) (h : BestOf.SharedBest (CommBDecoder.scoreFor d) 0 decoders score) :
    Selects decoders d { d with commb_format := .ambiguous }
  | decoded (decoder : CommBDecoder) (h : BestOf.OnlyBest (CommBDecoder.scoreFor d) 0 decoders decoder) :
    Selects decoders d (decoder true d).2

namespace Selects
variable {decoders decoders' : List CommBDecoder} {d r r' : Decoded}

theorem decodeCommB (decoders : List CommBDecoder) (d : Decoded) :
    Selects decoders d (decodeCommB decoders false d) := by
  have hbest := toBest_foldl d decoders
  have hspec := BestOf.select_spec (CommBDecoder.scoreFor d) 0 decoders
  rw [← hbest] at hspec
  unfold ModeS.decodeCommB
  rw [if_neg Bool.false_ne_true]
  dsimp only
  generalize decoders.foldl (Choice.consider d) ⟨0, none, false⟩ = best at hspec ⊢
  obtain ⟨bestScore, bestDecoder, ambiguous⟩ := best
  obtain ⟨hitem, hnone⟩ | ⟨decoder, hitem, htied, hshared⟩ | ⟨decoder, hitem, htied, honly⟩ := hspec
  · obtain rfl : bestDecoder = none := hitem
    exact Selects.unknown hnone
  · obtain rfl : bestDecoder = some decoder := hitem
    obtain rfl : ambiguous = true := htied
    exact Selects.ambiguous _ hshared
  · obtain rfl : bestDecoder = some decoder := hitem
    obtain rfl : ambiguous = false := htied
    exact Selects.decoded decoder honly

/-- The outcome does not depend on the order of the decoders. -/
theorem perm (h : Selects decoders d r) (hperm : decoders.Perm decoders') : Selects decoders' d r := by
  cases h with
  | unknown h => exact Selects.unknown (h.perm hperm)
  | ambiguous score h => exact Selects.ambiguous score (h.perm hperm)
  | decoded decoder h => exact Selects.decoded decoder (h.perm hperm)

/-- There is only one outcome. -/
theorem unique (h : Selects decoders d r) (h' : Selects decoders d r') : r = r' := by
  cases h with
  | unknown h =>
    cases h' with
    | unknown => rfl
    | ambiguous score h' => exact absurd h' h.not_shared
    | decoded decoder h' => exact absurd h' h.not_only
  | ambiguous score h =>
    cases h' with
    | unknown h' => exact absurd h h'.not_shared
    | ambiguous => rfl
    | decoded decoder h' => exact absurd h' h.not_only
  | decoded decoder h =>
    cases h' with
    | unknown h' => exact absurd h h'.not_only
    | ambiguous score h' => exact absurd h h'.not_only
    | decoded decoder' h' => rw [h.unique h']

/-- It is not that of a message that was left alone. -/
theorem format_ne (h : Selects decoders d r) (hregular : ∀ decoder ∈ decoders, decoder.Regular) :
    r.commb_format ≠ .notDecoded := by
  cases h with
  | unknown => exact fun h => by cases h
  | ambiguous => exact fun h => by cases h
  | decoded decoder h =>
    intro hformat
    have hdecoder := hregular decoder h.mem
    have hpos : 0 < (decoder true d).1 := by
      rw [hdecoder.score true d d]
      exact h.above
    refine hdecoder.format d hpos ?_
    rw [hformat]
    decide

end Selects

section Message
variable (math : MathLibrary) (mm : ModesMessage)

/-- The decoders, looking at a message. -/
def messageDecoders : List CommBDecoder :=
  comm_b_decoders (bulkFields mm).MB math mm.msgtype (bulkFields mm).AC

/-- What `decodeCommB` is to do with a message. -/
structure CommBSelected (d : Decoded) : Prop where
  /-- Asking for a score changes nothing, and the score is that of storing. -/
  quiet : ∀ decoder ∈ messageDecoders math mm, (decoder false d).2 = d ∧ (decoder true d).1 = (decoder false d).1
  /-- The order of the decoders is irrelevant. -/
  order : ∀ decoders, decoders.Perm (messageDecoders math mm) →
    decodeCommB decoders (commBBlocked mm) d = decodeCommB (messageDecoders math mm) (commBBlocked mm) d
  blocked : (bulkFields mm).DR ≠ 0 ∨ (bulkFields mm).UM ≠ 0 ∨ mm.correctedbits > 0 →
    decodeCommB (messageDecoders math mm) (commBBlocked mm) d = { d with commb_format := .notDecoded }
  selected : ¬ ((bulkFields mm).DR ≠ 0 ∨ (bulkFields mm).UM ≠ 0 ∨ mm.correctedbits > 0) →
    Selects (messageDecoders math mm) d (decodeCommB (messageDecoders math mm) (commBBlocked mm) d)

/-- **Main theorem.** The selection is as it is meant to be, unless `UM` is the only sign that the message
is noise. -/
theorem commBSelected_iff (d : Decoded) : CommBSelected math mm d ↔
    ¬ ((bulkFields mm).UM ≠ 0 ∧ (bulkFields mm).DR = 0 ∧ mm.correctedbits = 0) := by
  have hregular := regular_comm_b_decoders (bulkFields mm).MB math mm.msgtype (bulkFields mm).AC
  have hselects : commBBlocked mm = false →
      Selects (messageDecoders math mm) d (decodeCommB (messageDecoders math mm) (commBBlocked mm) d) := by
    intro hopen
    rw [hopen]
    exact Selects.decodeCommB _ d
  constructor
  · intro h hnoise
    obtain ⟨hUM, hDR, hcorrected⟩ := hnoise
    have hopen : commBBlocked mm = false := decide_eq_false fun hblocked =>
      hblocked.elim (fun hne => hne hDR) fun hpos => absurd hcorrected hpos.ne'
    refine (hselects hopen).format_ne hregular ?_
    rw [h.blocked (Or.inr (Or.inl hUM))]
  · intro hnoise
    refine ⟨fun decoder hdecoder => ?_, fun decoders hperm => ?_, fun hblocked => ?_, fun hclear => ?_⟩
    · have hdecoder := hregular decoder hdecoder
      exact ⟨hdecoder.unchanged d, hdecoder.score true d d⟩
    · cases hopen : commBBlocked mm with
      | true => rfl
      | false =>
        have hsame := (Selects.decodeCommB decoders d).perm hperm
        exact hsame.unique (Selects.decodeCommB _ d)
    · have hset : commBBlocked mm = true := by
        refine decide_eq_true ?_
        obtain hDR | hUM | hcorrected := hblocked
        · exact Or.inl hDR
        · by_contra hopen
          obtain ⟨hDR, hcorrected⟩ := not_or.mp hopen
          exact hnoise ⟨hUM, not_not.mp hDR, Nat.eq_zero_of_not_pos hcorrected⟩
        · exact Or.inr hcorrected
      rw [hset]
      rfl
    · obtain ⟨hDR, hrest⟩ := not_or.mp hclear
      exact hselects (decide_eq_false fun hblocked => hblocked.elim hDR fun hpos => (not_or.mp hrest).2 hpos)

end Message

/-! ### A message with `UM` set -/

/-- A DF20 reply without errors, with an empty register and `UM` 1. -/
def utilityReply : Buffer :=
  ⟨[0xA0, 0x00, 0x20, 0x00, 0x00, 0x00, 0x00, 0x00, 0x00, 0x00, 0x00, 0x65, 0x33, 0xC4], rfl⟩

/-- The reply is decoded, as an empty response. -/
theorem utilityReply_decoded :
    let decoded := decodeModesMessage ⟨0, false, false, false⟩ (modesChecksumInit 0)
      (icaoFilterAdd icaoFilterInit 0x4840D6) Buffer.zero zeroMessage utilityReply
    decoded.1 = 0 ∧ decoded.2.msgtype = 20 ∧ (bulkFields decoded.2).UM = 1 ∧
      (decodeBulk someMath decoded.2 false).commb_format = .emptyResponse ∧
      ¬ CommBSelected someMath decoded.2 (decodeHead decoded.2) := by
  intro decoded
  have hfields : decoded.1 = 0 ∧ decoded.2.msgtype = 20 ∧ (bulkFields decoded.2).UM = 1 ∧
      (decodeBulk someMath decoded.2 false).commb_format = .emptyResponse ∧
      (bulkFields decoded.2).UM ≠ 0 ∧ (bulkFields decoded.2).DR = 0 ∧ decoded.2.correctedbits = 0 := by
    decide +kernel +zetaReduce
  obtain ⟨hresult, htype, hUM, hformat, hmisread⟩ := hfields
  exact ⟨hresult, htype, hUM, hformat, fun h => (commBSelected_iff _ _ _).mp h hmisread⟩

end RbFeeder.ModeS
