import RbFeeder.ModeS.ShortFrame
import RbFeeder.Net.Beast

/-! AVR lines, `decodeHexMessage` of `net_io.c`, and the short frames of both formats.

A line is a message in hexadecimal digits between a leading character, which says
what else precedes the digits, and a semicolon. Like a Beast frame of type '2', a
line of fourteen digits fills seven bytes of a local buffer, and fourteen are
decoded; `shortFrame_iff` says for which frames that shows. -/
namespace RbFeeder.Net
open ModeS (Byte Buffer Modes IcaoFilter Stats Received overlay remoteReceived TailMatters)

/-! ### Reading a line -/

/-- `isspace`, in the C locale. -/
def isspace (c : Byte) : Bool := c = 0x20 ∨ 0x09 ≤ c ∧ c ≤ 0x0d

def tolower (c : Byte) : Byte := if 0x41 ≤ c ∧ c ≤ 0x5a then c + 0x20 else c

/-- `hexDigitVal(c)`, an `int` that is -1 for other characters. -/
def hexDigitVal (c : Byte) : BitVec 32 :=
  let c := tolower c
  if 0x30 ≤ c ∧ c ≤ 0x39 then c.setWidth 32 - 0x30
  else if 0x61 ≤ c ∧ c ≤ 0x66 then c.setWidth 32 - 0x61 + 10
  else -1

/-- What a leading character means: the signal level, and how many characters
precede the digits. -/
def avrHeader (hex : List Byte) : Option (BitVec 32 × Nat) :=
  let c := hex.headD 0
  if c = 0x3c then some (hexDigitVal (hex.getD 13 0) <<< 4 ||| hexDigitVal (hex.getD 14 0), 15)
  else if c = 0x40 ∨ c = 0x25 then some (0, 13)
  else if c = 0x2a ∨ c = 0x3a then some (0, 1)
  else none

/-- The loop over the digits, two at a time. -/
def hexBytes : List Byte → Option (List Byte)
  | hi :: lo :: hex =>
    let high := hexDigitVal hi
    let low := hexDigitVal lo
    if high = -1 ∨ low = -1 then none
    else (hexBytes hex).map ((high <<< 4 ||| low).setWidth 8 :: ·)
  | _ => some []

/-- What `decodeHexMessage` reads from a line: the signal level as the number that is
divided by 255, and the message. -/
inductive HexMessage
  | modeAC (signal : BitVec 32) (msg : List Byte)
  | modeS (signal : BitVec 32) (msg : List Byte)
  | ignored
deriving DecidableEq

/-- `decodeHexMessage(c, hex)` up to the call of a decoder. The length `l` is an `int`
that may be negative; then the line is too short, as it is for `l = 0`. -/
def decodeHexMessage (mode_ac : Bool) (hex : List Byte) : HexMessage :=
  let hex := (hex.rdropWhile isspace).dropWhile isspace
  if hex.getLast? ≠ some 0x3b then .ignored
  else
    match avrHeader hex with
    | none => .ignored
    | some (signal, skip) =>
      let l := hex.length - (skip + 1)
      if l ≠ 2 * modeacMsgBytes ∧ l ≠ 2 * ModeS.shortMsgBytes ∧ l ≠ 2 * ModeS.longMsgBytes then .ignored
      else if ¬ mode_ac ∧ l = 2 * modeacMsgBytes then .ignored
      else
        match hexBytes ((hex.drop skip).take l) with
        | none => .ignored
        | some msg => if l = 2 * modeacMsgBytes then .modeAC signal msg else .modeS signal msg

def hexDigit (n : Byte) : Byte := if n < 10 then n + 0x30 else n + 0x37

/-- A message written in digits, most significant first. -/
def hexDigits (msg : List Byte) : List Byte :=
  msg.flatMap fun b : Byte => [hexDigit (b >>> 4), hexDigit (b &&& 0xf)]

theorem hexBytes_hexDigits (msg : List Byte) : hexBytes (hexDigits msg) = some msg := by
  have hbyte : ∀ b : Byte, hexBytes (hexDigits [b]) = some [b] := by decide +kernel
  induction msg with
  | nil => rfl
  | cons b msg ih =>
    have hb := hbyte b
    have hcons : hexDigits (b :: msg) =
      hexDigit (b >>> 4) :: hexDigit (b &&& 0xf) :: hexDigits msg := rfl
    change hexBytes [hexDigit (b >>> 4), hexDigit (b &&& 0xf)] = _ at hb
    rw [hcons]
    simp only [hexBytes, ih] at hb ⊢
    split at hb
    · exact absurd hb (by simp)
    · next hdigits =>
      rw [if_neg hdigits]
      simpa using hb

theorem length_hexDigits (msg : List Byte) : (hexDigits msg).length = 2 * msg.length := by
  simp [hexDigits, List.length_flatMap, Nat.mul_comm]

/-- The line `*…;` of a Mode S message gives back its bytes. -/
theorem decodeHexMessage_line (mode_ac : Bool) {msg : List Byte}
    (hlen : msg.length = ModeS.shortMsgBytes ∨ msg.length = ModeS.longMsgBytes) :
    decodeHexMessage mode_ac (0x2a :: (hexDigits msg ++ [0x3b])) = .modeS 0 msg := by
  have hright : List.rdropWhile isspace (0x2a :: (hexDigits msg ++ [0x3b])) =
      0x2a :: (hexDigits msg ++ [0x3b]) := by
    rw [← List.cons_append, List.rdropWhile_concat_neg _ _ _ (by decide)]
  have hleft : List.dropWhile isspace (0x2a :: (hexDigits msg ++ [0x3b])) =
      0x2a :: (hexDigits msg ++ [0x3b]) := List.dropWhile_cons_of_neg (by decide)
  have hlast : (0x2a :: (hexDigits msg ++ [0x3b])).getLast? = some (0x3b : Byte) := by
    rw [← List.cons_append, List.getLast?_concat]
  have hheader : avrHeader (0x2a :: (hexDigits msg ++ [0x3b])) = some (0, 1) := rfl
  have hl : (0x2a :: (hexDigits msg ++ [0x3b])).length - (1 + 1) = 2 * msg.length := by
    simp [length_hexDigits]
  have hdigits : ((0x2a :: (hexDigits msg ++ [0x3b])).drop 1).take (2 * msg.length) = hexDigits msg := by
    rw [List.drop_succ_cons, List.drop_zero, ← length_hexDigits, List.take_left]
  simp only [decodeHexMessage, hright, hleft, hlast, hheader, hl, hdigits, hexBytes_hexDigits]
  rcases hlen with h | h <;> rw [h] <;> simp [ModeS.shortMsgBytes, ModeS.longMsgBytes, modeacMsgBytes]

/-! ### Short frames -/

section Handlers
variable (modes : Modes) (f : Fin 3) (filter : IcaoFilter) (garbage : Buffer) (stats : Stats)

/-- The Mode S part of `decodeBinMessage(c, p)`, with `stack` what its local buffer
holds before: the timestamp, the signal byte and the message that it passes on. -/
def receiveBin (stack : Buffer) (p : List Byte) : Option ((BitVec 64 × Byte) × Received) :=
  match decodeBinMessage modes.mode_ac p with
  | .modeS timestampMsg signal msg =>
    (remoteReceived modes f filter garbage stats (overlay msg stack)).map fun r =>
      ((timestampMsg, signal), r)
  | _ => none

/-- The Mode S part of `decodeHexMessage(c, hex)`. -/
def receiveHex (stack : Buffer) (hex : List Byte) : Option (BitVec 32 × Received) :=
  match decodeHexMessage modes.mode_ac hex with
  | .modeS signal msg =>
    (remoteReceived modes f filter garbage stats (overlay msg stack)).map fun r => (signal, r)
  | _ => none

end Handlers

/-- What a handler receives does not depend on what its buffer held before, and it
is never a long message. -/
def TailInvisible {α : Type} (receive : Buffer → Option (α × Received)) : Prop :=
  (∀ stack stack', receive stack = receive stack') ∧
    ∀ stack a r, receive stack = some (a, r) → r.msgbits = 56

theorem tailInvisible_iff (modes : Modes) (f : Fin 3) (filter : IcaoFilter) (garbage : Buffer)
    (stats : Stats) {head : List Byte} (hlen : head.length = 7) {α : Type} (a : α) :
    TailInvisible (fun stack =>
        (remoteReceived modes f filter garbage stats (overlay head stack)).map fun r => (a, r)) ↔
      ¬ TailMatters modes f filter (overlay head Buffer.zero) := by
  rw [← ModeS.tail_invisible_iff modes f filter garbage stats hlen]
  have hinj : Function.Injective (Option.map fun r : Received => (a, r)) :=
    Option.map_injective fun r r' h => (Prod.mk.inj h).2
  constructor
  · exact fun h stack stack' => hinj (h.1 stack stack')
  · intro hsame
    refine ⟨fun stack stack' => congrArg _ (hsame stack stack'), fun stack b r hr => ?_⟩
    obtain ⟨r', hr', heq⟩ := Option.map_eq_some_iff.mp hr
    obtain rfl := (Prod.mk.inj heq).2
    rcases ModeS.remoteReceived_msgbits garbage stats hr' with hbits | hbits
    · exact hbits
    · obtain ⟨stack', hne⟩ := ModeS.visible_of_long modes f filter garbage stats hlen hbits
      exact absurd ((hsame stack' stack).trans hr') hne

theorem length_readBytes (n : Nat) (p : List Byte) : (readBytes n p).1.length = n := by
  induction n generalizing p with
  | zero => rfl
  | succ n ih => exact congrArg (· + 1) (ih _)

/-- **When a short frame is decoded from its own bytes alone**: exactly if its seven
bytes cannot pass for the first half of a long message. -/
theorem shortFrame_iff (modes : Modes) (f : Fin 3) (filter : IcaoFilter) (garbage : Buffer)
    (stats : Stats) :
    (∀ p : List Byte, TailInvisible (fun stack => receiveBin modes f filter garbage stats stack (0x32 :: p)) ↔
      ¬ TailMatters modes f filter
        (overlay (readFields ModeS.shortMsgBytes p).2.2 Buffer.zero)) ∧
    ∀ (hex : List Byte) (signal : BitVec 32) (head : List Byte),
      decodeHexMessage modes.mode_ac hex = .modeS signal head → head.length = ModeS.shortMsgBytes →
        (TailInvisible (fun stack => receiveHex modes f filter garbage stats stack hex) ↔
          ¬ TailMatters modes f filter (overlay head Buffer.zero)) := by
  refine ⟨fun p => ?_, fun hex signal head hdecode hlen => ?_⟩
  · have hdecode : decodeBinMessage modes.mode_ac (0x32 :: p) =
        .modeS (readFields ModeS.shortMsgBytes p).1 (readFields ModeS.shortMsgBytes p).2.1
          (readFields ModeS.shortMsgBytes p).2.2 := by
      simp [decodeBinMessage, ModeS.shortMsgBytes, modeacMsgBytes]
    simp only [receiveBin, hdecode]
    exact tailInvisible_iff modes f filter garbage stats (length_readBytes ..) _
  · simp only [receiveHex, hdecode]
    exact tailInvisible_iff modes f filter garbage stats hlen signal

/-- The first seven bytes of an extended squitter. -/
def squitterHead : List Byte := [0x8D, 0x48, 0x40, 0xD6, 0x20, 0x2C, 0xC3]

theorem tailMatters_squitterHead (modes : Modes) (filter : IcaoFilter) :
    TailMatters modes 0 filter (overlay squitterHead Buffer.zero) := by
  refine ⟨by decide, ?_, .inl ⟨[], ⟨by simp, .inl rfl, by decide⟩, .inl (by simp)⟩⟩
  intro hgiven
  obtain hvalid | ⟨-, i, hi⟩ := hgiven
  · exact absurd hvalid.1 (by decide)
  · exact absurd hi.correctable.pattern.light (by simp)

/-- Both formats, with these bytes: the frame and the line of the same message. -/
theorem shortFrame_iff_squitterHead :
    (TailInvisible (fun stack => receiveBin ⟨0, true, false, false⟩ 0 ModeS.icaoFilterInit Buffer.zero
        ⟨0, 0, fun _ => 0, 0, 0, 0, fun _ => 0⟩ stack (0x32 :: (List.replicate 7 0 ++ squitterHead))) ↔
      ¬ TailMatters ⟨0, true, false, false⟩ 0 ModeS.icaoFilterInit (overlay squitterHead Buffer.zero)) ∧
    (TailInvisible (fun stack => receiveHex ⟨0, true, false, false⟩ 0 ModeS.icaoFilterInit Buffer.zero
        ⟨0, 0, fun _ => 0, 0, 0, 0, fun _ => 0⟩ stack (0x2a :: (hexDigits squitterHead ++ [0x3b]))) ↔
      ¬ TailMatters ⟨0, true, false, false⟩ 0 ModeS.icaoFilterInit (overlay squitterHead Buffer.zero)) :=
  ⟨(shortFrame_iff ⟨0, true, false, false⟩ 0 ModeS.icaoFilterInit Buffer.zero
      ⟨0, 0, fun _ => 0, 0, 0, 0, fun _ => 0⟩).1 _,
    (shortFrame_iff ⟨0, true, false, false⟩ 0 ModeS.icaoFilterInit Buffer.zero
      ⟨0, 0, fun _ => 0, 0, 0, 0, fun _ => 0⟩).2 _ 0 squitterHead (by decide) rfl⟩

/-- Without any error correction, a frame of type '2' with the first half of an
extended squitter: the rest of the buffer can complete the message. -/
theorem shortFrame_reads_tail :
    ¬ TailInvisible (fun stack => receiveBin ⟨0, true, false, false⟩ 0 ModeS.icaoFilterInit Buffer.zero
      ⟨0, 0, fun _ => 0, 0, 0, 0, fun _ => 0⟩ stack (0x32 :: (List.replicate 7 0 ++ squitterHead))) := by
  have hdecode : decodeBinMessage false (0x32 :: (List.replicate 7 0 ++ squitterHead)) =
      .modeS 0 0 squitterHead := by decide
  simp only [receiveBin, hdecode]
  rw [tailInvisible_iff _ _ _ _ _ rfl, not_not]
  exact tailMatters_squitterHead _ _

end RbFeeder.Net
