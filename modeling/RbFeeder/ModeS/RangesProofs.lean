import RbFeeder.ModeS.Ranges
import RbFeeder.ModeS.ShortFrame

/-! Every field that is marked valid is in its range, whichever decoder has set it.

The decoders of Comm-B replies keep to the ranges because they only store values that
they find plausible. `decoded_inRange_iff` says for a whole message which target state
is the exception. -/
namespace RbFeeder.ModeS
open Tracker (HeadingType)

/-- What a decoder of Comm-B replies stores is in range. -/
def CommBDecoder.KeepsRange (decoder : CommBDecoder) : Prop :=
  ∀ d, InRange d → InRange (decoder true d).2

section Registers
variable (msg : List Byte)

/-- A reply that does not fit is left alone. -/
theorem inRange_snd_ite {c : Prop} [Decidable c] {reject accept : Int × Decoded}
    (hreject : InRange reject.2) (haccept : InRange accept.2) : InRange (if c then reject else accept).2 := by
  split
  · exact hreject
  · exact haccept

theorem keepsRange_decodeEmptyResponse : (decodeEmptyResponse msg).KeepsRange := by
  intro d h
  exact inRange_snd_ite h (inRange_snd_ite h { h with })

theorem keepsRange_decodeBDS10 : (decodeBDS10 msg).KeepsRange := by
  intro d h
  exact inRange_snd_ite h (inRange_snd_ite h { h with })

theorem keepsRange_decodeBDS17 : (decodeBDS17 msg).KeepsRange := by
  intro d h
  exact inRange_snd_ite h { h with }

theorem keepsRange_decodeBDS20 : (decodeBDS20 msg).KeepsRange := by
  intro d h
  refine inRange_snd_ite h (inRange_snd_ite h ?_)
  exact { h with
    callsign := forall_mem_ite (fun hvalid => ⟨length_callsignAt msg, hvalid⟩) h.callsign }

theorem keepsRange_decodeBDS30 : (decodeBDS30 msg).KeepsRange := by
  intro d h
  exact inRange_snd_ite h { h with }

/-- An altitude that has a score is plausible. -/
theorem scoreAltitude_le {valid : Bool} {raw : BitVec 32} {score : Int}
    (h : scoreAltitude valid raw = some score) (hvalid : valid = true) : (raw * 16).toNat ≤ 101300 := by
  unfold scoreAltitude scoreNonzero at h
  rw [hvalid] at h
  split_ifs at h with hraw hplausible hother
  · have hle : raw * 16 ≤ 50000 := (of_decide_eq_true hplausible).2
    have hnat : (raw * 16).toNat ≤ (50000 : BitVec 32).toNat := BitVec.le_def.mp hle
    have hconst : (50000 : BitVec 32).toNat = 50000 := rfl
    omega
  · simp only [Bool.not_true, Bool.false_and, Bool.false_eq_true] at hother

theorem keepsRange_decodeBDS40 : (decodeBDS40 msg).KeepsRange := by
  intro d h
  refine inRange_snd_ite h ?_
  split
  · exact h
  · next score hplausible =>
    obtain ⟨mcp, hmcp, hplausible⟩ := Option.bind_eq_some_iff.mp hplausible
    obtain ⟨fms, hfms, -⟩ := Option.bind_eq_some_iff.mp hplausible
    exact { h with
      mcp_altitude := forall_mem_ite (scoreAltitude_le hmcp) h.mcp_altitude
      fms_altitude := forall_mem_ite (scoreAltitude_le hfms) h.fms_altitude }

/-- A direction with ten bits and a sign. -/
theorem degrees_direction {raw : Nat} (hraw : raw < 2 ^ 10) (sign : Bool) : Degrees (direction sign raw) := by
  have hlt : (raw : ℚ) < 1024 := by exact_mod_cast hraw
  have hnonneg : (0 : ℚ) ≤ raw := Nat.cast_nonneg raw
  unfold direction Degrees
  cases sign
  · constructor <;> norm_num <;> linarith
  · constructor <;> norm_num <;> linarith

theorem keepsRange_decodeBDS50 (math : MathLibrary) : (decodeBDS50 msg math).KeepsRange := by
  have htrack := degrees_direction (field_lt msg (show 0 < 14 by decide) (show 14 ≤ 23 by decide)) (isSet msg 13)
  intro d h
  refine inRange_snd_ite h ?_
  split
  · exact h
  · exact { h with heading := forall_mem_ite (fun _ => htrack) h.heading }

theorem keepsRange_decodeBDS60 : (decodeBDS60 msg).KeepsRange := by
  have hheading := degrees_direction (field_lt msg (show 0 < 3 by decide) (show 3 ≤ 12 by decide)) (isSet msg 2)
  intro d h
  refine inRange_snd_ite h ?_
  split
  · exact h
  · exact { h with heading := forall_mem_ite (fun _ => hheading) h.heading }

theorem keepsRange_decodeBDS44 : (decodeBDS44 msg).KeepsRange := by
  intro d h
  refine inRange_snd_ite h (inRange_snd_ite h (inRange_snd_ite h (inRange_snd_ite h (inRange_snd_ite h ?_))))
  extract_lets rest likely
  clear_value likely
  cases likely with
  | none => exact h
  | some score => exact { h with }

theorem keepsRange_decodeBDS05 (msgtype : Nat) (AC : BitVec 32) :
    (decodeBDS05 msg msgtype AC).KeepsRange := by
  intro d h
  refine inRange_snd_ite h (inRange_snd_ite h (inRange_snd_ite h (inRange_snd_ite h ?_)))
  exact inRange_snd_ite h (inRange_snd_ite h { h with })

theorem keepsRange_comm_b_decoders (math : MathLibrary) (msgtype : Nat) (AC : BitVec 32) :
    ∀ decoder ∈ comm_b_decoders msg math msgtype AC, decoder.KeepsRange := by
  intro decoder hdecoder
  simp only [comm_b_decoders, List.mem_cons, List.not_mem_nil, or_false] at hdecoder
  obtain rfl | rfl | rfl | rfl | rfl | rfl | rfl | rfl | rfl | rfl := hdecoder
  · exact keepsRange_decodeEmptyResponse msg
  · exact keepsRange_decodeBDS10 msg
  · exact keepsRange_decodeBDS20 msg
  · exact keepsRange_decodeBDS30 msg
  · exact keepsRange_decodeBDS17 msg
  · exact keepsRange_decodeBDS40 msg
  · exact keepsRange_decodeBDS50 msg math
  · exact keepsRange_decodeBDS60 msg
  · exact keepsRange_decodeBDS44 msg
  · exact keepsRange_decodeBDS05 msg msgtype AC

end Registers

/-- The decoder that is chosen is one of the list. -/
theorem bestDecoder_mem (d : Decoded) (decoders : List CommBDecoder) (best : Choice) (decoder : CommBDecoder)
    (h : (decoders.foldl (Choice.consider d) best).bestDecoder = some decoder) :
    decoder ∈ decoders ∨ best.bestDecoder = some decoder := by
  induction decoders generalizing best with
  | nil => exact Or.inr h
  | cons first rest ih =>
    obtain hrest | hbest := ih (best.consider d first) h
    · exact Or.inl (List.mem_cons_of_mem first hrest)
    · unfold Choice.consider at hbest
      dsimp only at hbest
      split_ifs at hbest
      · exact Or.inl (List.mem_cons.mpr (Or.inl (Option.some.inj hbest).symm))
      · exact Or.inr hbest
      · exact Or.inr hbest

theorem InRange.decodeCommB {d : Decoded} (h : InRange d) {decoders : List CommBDecoder}
    (hdecoders : ∀ decoder ∈ decoders, decoder.KeepsRange) (blocked : Bool) :
    InRange (decodeCommB decoders blocked d) := by
  unfold ModeS.decodeCommB
  dsimp only
  split
  · exact { h with }
  · split
    · exact { h with }
    · next decoder hbest =>
      split
      · exact { h with }
      · obtain hmem | hnone := bestDecoder_mem d decoders _ decoder hbest
        · exact hdecoders decoder hmem d h
        · cases hnone

/-! ### The message -/

/-- A message of which nothing is decoded yet. -/
theorem InRange.empty : InRange {} where
  heading h hmem := by cases hmem
  nav_heading h hmem := by cases hmem
  mcp_altitude altitude hmem := by cases hmem
  fms_altitude altitude hmem := by cases hmem
  cpr hvalid := by cases hvalid
  squawk code hmem := by cases hmem
  callsign s hmem := by cases hmem

/-- In range, and without a target state. -/
structure InRangeNoTarget (d : Decoded) : Prop where
  range : InRange d
  nav : d.nav = {}

namespace InRangeNoTarget
variable {d : Decoded} (mm : ModesMessage)

theorem checksumDecoded : InRangeNoTarget (checksumDecoded mm) := by
  unfold ModeS.checksumDecoded
  split
  · exact ⟨{ InRange.empty with }, rfl⟩
  · exact ⟨{ InRange.empty with }, rfl⟩
  · exact ⟨{ InRange.empty with }, rfl⟩
  · exact ⟨{ InRange.empty with }, rfl⟩

theorem ite {c : Prop} [Decidable c] {changed : Decoded} (h : InRangeNoTarget d)
    (hchanged : InRangeNoTarget changed) : InRangeNoTarget (if c then changed else d) := by
  split
  · exact hchanged
  · exact h

theorem setAltitude (h : InRangeNoTarget d) (AC : BitVec 32) : InRangeNoTarget (setAltitude AC d) := by
  unfold ModeS.setAltitude
  split
  · split
    · exact h
    · exact ⟨{ h.range with }, h.nav⟩
  · exact h

theorem airgroundOfCA (h : InRangeNoTarget d) (CA : BitVec 32) : InRangeNoTarget (airgroundOfCA CA d) := by
  unfold ModeS.airgroundOfCA
  split
  all_goals first
    | exact h
    | exact ⟨{ h.range with }, h.nav⟩

theorem statusOfFS (h : InRangeNoTarget d) (FS : BitVec 32) : InRangeNoTarget (statusOfFS FS d) := by
  unfold ModeS.statusOfFS
  split
  all_goals first
    | exact h
    | exact ⟨{ h.range with }, h.nav⟩

theorem setSquawk (h : InRangeNoTarget d) (ID13Field : BitVec 32) :
    InRangeNoTarget (setSquawk ID13Field d) := by
  refine ⟨h.range.setSquawk ID13Field, ?_⟩
  unfold ModeS.setSquawk
  split
  · exact h.nav
  · exact h.nav

theorem setAddr (h : InRangeNoTarget d) (addr : BitVec 32) : InRangeNoTarget { d with addr := addr } :=
  ⟨{ h.range with }, h.nav⟩

theorem decodeHead : InRangeNoTarget (decodeHead mm) := by
  have haddr := (checksumDecoded mm).ite (c := mm.msgtype ∈ [11, 17, 18])
    ((checksumDecoded mm).setAddr (bulkFields mm).AA)
  have haltitude := haddr.ite (c := mm.msgtype ∈ [0, 4, 16, 20]) (haddr.setAltitude (bulkFields mm).AC)
  have hairground := haltitude.ite (c := mm.msgtype ∈ [11, 17]) (haltitude.airgroundOfCA (bulkFields mm).CA)
  have hstatus := hairground.ite (c := mm.msgtype ∈ [4, 5, 20, 21]) (hairground.statusOfFS (bulkFields mm).FS)
  exact hstatus.ite (c := mm.msgtype ∈ [5, 21]) (hstatus.setSquawk (bulkFields mm).ID)

end InRangeNoTarget

section Message
variable (math : MathLibrary)

/-- The one target state that is not checked, in a message. -/
def TargetMessage (msg : Buffer) : Prop :=
  (downlinkFormat msg = 17 ∨
      downlinkFormat msg = 18 ∧ (getbits msg.bytes 6 8).toNat ∈ [0, 1, 2, 5, 6]) ∧
    TargetOutOfRange ((msg.bytes.drop 4).take 7)

/-- After `MB` and `ME`, only the air/ground state and the source are set. -/
theorem decodeBulk_inRange_iff (mm : ModesMessage) (mlat : Bool) :
    InRange (decodeBulk math mm mlat) ↔
      ¬ (mm.msgtype ∈ [17, 18] ∧ SquitterCF mm.msgtype (bulkFields mm).CF ∧
        TargetOutOfRange (bulkFields mm).ME) := by
  have hhead := InRangeNoTarget.decodeHead mm
  have hcommB : InRange (decodeCommB (comm_b_decoders (bulkFields mm).MB math mm.msgtype (bulkFields mm).AC)
      (commBBlocked mm) (decodeHead mm)) :=
    hhead.range.decodeCommB (keepsRange_comm_b_decoders _ math _ _) _
  have hlast : ∀ d : Decoded, InRange (if mlat then { d with source := .mlat } else d) ↔ InRange d := by
    intro d
    split
    · exact ⟨fun h => { h with }, fun h => { h with }⟩
    · exact Iff.rfl
  have hground : ∀ (d : Decoded) (airground : Tracker.AirGround),
      InRange { d with airground := airground } ↔ InRange d := by
    intro d airground
    exact ⟨fun h => { h with }, fun h => { h with }⟩
  unfold decodeBulk
  dsimp only
  rw [hlast]
  by_cases hsquitter : mm.msgtype ∈ [17, 18]
  · have hnotCommB : mm.msgtype ∉ [20, 21] := by
      simp only [List.mem_cons, List.not_mem_nil, or_false] at hsquitter ⊢
      omega
    have hnotShort : mm.msgtype ∉ [0, 16] := by
      simp only [List.mem_cons, List.not_mem_nil, or_false] at hsquitter ⊢
      omega
    rw [if_neg hnotCommB, if_pos hsquitter, if_neg hnotShort, and_iff_right hsquitter]
    exact decodeExtendedSquitter_inRange_iff _ math hhead.range hhead.nav _ _
  · refine iff_of_true ?_ fun hout => hsquitter hout.1
    rw [if_neg hsquitter]
    split
    · rw [hground]
      split
      · exact hcommB
      · exact hhead.range
    · split
      · exact hcommB
      · exact hhead.range

/-- Type, control field and message of the checked message are those of the corrected one. -/
theorem targetMessage_checked (mm : ModesMessage) (inp : Buffer) (c : Corrected) :
    let mm' := (mm.corrected inp c).checked
    (mm'.msgtype ∈ [17, 18] ∧ SquitterCF mm'.msgtype (bulkFields mm').CF ∧
      TargetOutOfRange (bulkFields mm').ME) ↔ TargetMessage c.out := by
  intro mm'
  have hlt := downlinkFormat_lt c.out
  have htype : mm'.msgtype = if 24 ≤ (downlinkFormat c.out).toNat then 24 else (downlinkFormat c.out).toNat :=
    rfl
  have hmsg : mm'.msg = c.out := rfl
  have hformat : ∀ df : BitVec 32, downlinkFormat c.out = df ↔ (downlinkFormat c.out).toNat = df.toNat :=
    fun df => BitVec.toNat_inj.symm
  simp only [TargetMessage, SquitterCF, bulkFields, hformat, hmsg]
  simp only [BitVec.reduceToNat]
  generalize (downlinkFormat c.out).toNat = df at htype hlt ⊢
  by_cases h17 : df = 17
  · subst h17
    rw [htype]
    simp
  · by_cases h18 : df = 18
    · subst h18
      rw [htype]
      simp
    · have hother : ¬ (df = 17 ∨ df = 18 ∧ (getbits c.out.bytes 6 8).toNat ∈ [0, 1, 2, 5, 6]) := by
        intro hdf
        exact hdf.elim h17 fun h => h18 h.1
      have hnot : mm'.msgtype ∉ [17, 18] := by
        rw [htype]
        simp only [List.mem_cons, List.not_mem_nil, or_false]
        split <;> omega
      exact iff_of_false (fun h => hnot h.1) (fun h => hother h.1)

/-- **Main theorem.** Every field that is marked valid is in its range, whichever decoder has set
it, unless the message as it was corrected is a target state of version 1 whose target is not in range. -/
theorem decoded_inRange_iff (modes : Modes) (tables : ErrorTables) (filter : IcaoFilter) (garbage : Buffer)
    (mm : ModesMessage) (inp : Buffer) (mlat : Bool)
    (h : (decodeModesMessage modes tables filter garbage mm inp).1 = 0) :
    InRange (decodeBulk math (decodeModesMessage modes tables filter garbage mm inp).2 mlat) ↔
      ¬ TargetMessage (correctMessage modes tables inp mm.msg).out := by
  have haccepted : ¬ (decodeModesMessage modes tables filter garbage mm inp).1 < 0 := by
    rw [h]
    exact lt_irrefl 0
  obtain ⟨score, hfields⟩ := decodeModesMessage_corrected haccepted
  rw [checksumFields_eq hfields, decodeBulk_inRange_iff]
  exact not_congr (targetMessage_checked _ inp _)

/-! ### A target below 0 ft -/

/-- An extended squitter without errors: a selected altitude of -1000 ft. -/
def targetSquitter : Buffer :=
  ⟨[0x8D, 0x48, 0x40, 0xD6, 0xE8, 0x80, 0x00, 0x00, 0x00, 0x00, 0x00, 0x70, 0x1C, 0xB6], rfl⟩

/-- A library none of whose functions a target state calls. -/
def someMath : MathLibrary where
  sqrtf x := x
  atan2 _ _ := 0
  tan x := x
  pi := 355 / 113
  pi_pos := by norm_num
  neg_pi_lt _ _ := by norm_num
  le_pi _ _ := by norm_num

theorem decoded_targetSquitter :
    let decoded := decodeModesMessage ⟨0, false, false, false⟩ (modesChecksumInit 0) icaoFilterInit
      Buffer.zero zeroMessage targetSquitter
    InRange (decodeBulk someMath decoded.2 false) ↔
      ¬ TargetMessage (correctMessage ⟨0, false, false, false⟩ (modesChecksumInit 0) targetSquitter
        zeroMessage.msg).out :=
  decoded_inRange_iff someMath ⟨0, false, false, false⟩ (modesChecksumInit 0) icaoFilterInit Buffer.zero
    zeroMessage targetSquitter false (by decide +kernel)

/-- The selected altitude of the target wraps around to 4294966296 ft. -/
theorem target_altitude_wraps :
    let decoded := decodeModesMessage ⟨0, false, false, false⟩ (modesChecksumInit 0) icaoFilterInit
      Buffer.zero zeroMessage targetSquitter
    decoded.1 = 0 ∧ (decodeBulk someMath decoded.2 false).nav.mcp_altitude = some 4294966296 ∧
      ¬ InRange (decodeBulk someMath decoded.2 false) := by
  have haltitude : (decodeBulk someMath (decodeModesMessage ⟨0, false, false, false⟩ (modesChecksumInit 0)
      icaoFilterInit Buffer.zero zeroMessage targetSquitter).2 false).nav.mcp_altitude = some 4294966296 := by
    decide +kernel
  refine ⟨by decide +kernel, haltitude, fun hrange => ?_⟩
  exact absurd (hrange.mcp_altitude _ haltitude) (by decide)

end Message

end RbFeeder.ModeS
