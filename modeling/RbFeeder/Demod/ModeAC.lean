import RbFeeder.Demod.Demodulate
import RbFeeder.Lib.Scanner
import RbFeeder.ModeS.Altitude
import RbFeeder.Tracker.Record
import Mathlib.Data.Nat.Sqrt

/-! The demodulator of Mode A/C replies, `demodulate2400AC`.

A reply has 20 places of 1.45 us, 87 ticks of 60 MHz; the pulses F1 and F2 at the places
0 and 14 are always there. The demodulator looks for a pulse at every sample of a buffer
but the first one and the overlap, estimates where in the sample it starts, looks for the
other pulse 14 places behind, and slices the places between two thresholds.

It uses one message for the whole buffer, which `decodeModeAMessage` does not clear: a
reply that is no altitude keeps the altitude of the one before (`getElem_messages`). It
reads nothing outside the valid samples when there is an overlap of 69
(`demodulate2400AC_reads`). -/
namespace RbFeeder.Demod
open ModeS (Byte setIf modeAToModeC invalidAltitude)
open Sdr (Sample Block)
open Track (Source AltitudeUnit)
open Tracker (AddrType)

/-! ### Floating point -/

/-- What is computed in floating point. The clock of F1 is the one of the start of its sample, and at most 25 ticks
more: `fraction` is at most 1, and the sums and products are exact at both ends. -/
structure Floats where
  /-- `(unsigned) (25 * (f1_sample + fraction * fraction) + 0.5)`, from the samples of the pulse. -/
  f1_clock : Nat → Sample → Sample → Nat
  /-- `(unsigned) (sqrtf(x) * M_SQRT2 + 0.5)`. -/
  signal_threshold : BitVec 32 → Nat
  /-- `(unsigned) (sqrtf(x) / M_SQRT2 + 0.5)`. -/
  noise_threshold : BitVec 32 → Nat
  clock_within : ∀ f1_sample < 2 ^ 19, ∀ a b, 0 < a.toNat →
    25 * f1_sample ≤ f1_clock f1_sample a b ∧ f1_clock f1_sample a b ≤ 25 * (f1_sample + 1)

/-! ### Replies -/

/-- The tests on a framing pulse, and its level. -/
def framingLevel (noise_level : BitVec 32) (before first second third : Sample) : Option Nat :=
  if ¬ before.toNat < first.toNat then none -- not a rising edge
  else if third.toNat > first.toNat ∨ third.toNat > second.toNat then none
  else if (noise_level * 2).toNat > (first.toNat + second.toNat) / 2 then none
  else some ((first.toNat + second.toNat) / 2)

/-- They are made with the samples at `k`; the source reads them one by one, until a test fails. -/
def framing (noise_level : BitVec 32) (m : View) (k : Nat) : Option (Option Nat) := do
  let before ← m (k - 1)
  let first ← m k
  let second ← m (k + 1)
  let third ← m (k + 2)
  some (framingLevel noise_level before first second third)

/-- What the loop over the places keeps. -/
structure Slices where
  bits : BitVec 32
  noisy_bits : BitVec 32
  uncertain_bits : BitVec 32

/-- One round of it. -/
def sliceBit (signal_threshold noise_threshold : Nat) (m : View) (s : Slices) (clock : Nat) : Option Slices := do
  let first ← m (clock / 25)
  let second ← m (clock / 25 + 1)
  let third ← m (clock / 25 + 2)
  let on := first.toNat ≥ signal_threshold ∨ second.toNat ≥ signal_threshold
  let uncertain := ¬ on ∧ first.toNat > noise_threshold ∧ second.toNat > noise_threshold
  some {
    bits := s.bits <<< 1 ||| if on then 1 else 0
    noisy_bits := s.noisy_bits <<< 1 ||| if third.toNat ≥ signal_threshold then 1 else 0
    uncertain_bits := s.uncertain_bits <<< 1 ||| if uncertain then 1 else 0 }

/-- Where the places go: 00 A4 A2 A1 00 B4 B2 B1 SPI C4 C2 C1 00 D4 D2 D1. -/
def replyBits : List (BitVec 32 × BitVec 32) :=
  [ (0x40000, 0x0010), (0x20000, 0x1000), (0x10000, 0x0020), (0x08000, 0x2000), (0x04000, 0x0040),
    (0x02000, 0x4000), (0x00800, 0x0100), (0x00400, 0x0001), (0x00200, 0x0200), (0x00100, 0x0002),
    (0x00080, 0x0400), (0x00040, 0x0004), (0x00004, 0x0080) ]

def modeacOf (bits : BitVec 32) : BitVec 32 :=
  replyBits.foldl (fun modeac places => setIf bits places.1 places.2 modeac) 0

/-- A reply: the sample of F1, the clock of F2, and the code. -/
structure Reply where
  f1_sample : Nat
  f2_clock : Nat
  modeac : BitVec 32
deriving DecidableEq

section Demodulate
variable (floats : Floats) (noise_level : BitVec 32) (m : View)

/-- What the slices are, when they are those of a reply. -/
def accepted (s : Slices) : Option (BitVec 32) :=
  -- framing bits must be on, quiet bits must be off
  if s.bits &&& 0x80020 ≠ 0x80020 then none
  else if s.bits &&& 0x0101B ≠ 0 then none
  else if s.noisy_bits ≠ 0 ∨ s.uncertain_bits ≠ 0 then none
  else some (modeacOf s.bits)

/-- One round of the loop over the samples. -/
def replyAt (f1_sample : Nat) : Option (Option Reply) := do
  match ← framing noise_level m f1_sample with
  | none => some none
  | some f1_level =>
    let first ← m f1_sample
    let second ← m (f1_sample + 1)
    let f1_clock := floats.f1_clock f1_sample first second
    let f2_clock := f1_clock + 87 * 14
    match ← framing noise_level m (f2_clock / 25) with
    | none => some none
    | some f2_level =>
      let midpoint := noise_level * BitVec.ofNat 32 (max f1_level f2_level)
      let s ← ((List.range 20).map fun bit => f1_clock + 87 * bit).foldlM
        (sliceBit (floats.signal_threshold midpoint) (floats.noise_threshold midpoint) m) ⟨0, 0, 0⟩
      some ((accepted s).map fun modeac => ⟨f1_sample, f2_clock, modeac⟩)

end Demodulate

/-! ### Messages -/

/-- What `decodeModeAMessage` and the demodulator set of a `struct modesMessage`. -/
structure ModeACMessage where
  timestampMsg : BitVec 64
  sysTimestampMsg : BitVec 64
  source : Source
  addrtype : AddrType
  msgtype : Nat
  msgbits : Nat
  /-- `msg[0]` and `msg[1]`, and so `verbatim`. -/
  msg : Byte × Byte
  addr : BitVec 32
  squawk : BitVec 32
  squawk_valid : Bool
  spi : Bool
  spi_valid : Bool
  altitude_baro : Option (Int × AltitudeUnit)
  correctedbits : Nat
deriving DecidableEq

/-- `memset(&mm, 0, sizeof(mm))`. -/
def ModeACMessage.zero : ModeACMessage :=
  ⟨0, 0, .invalid, .adsbIcao, 0, 0, (0, 0), 0, 0, false, false, false, none, 0⟩

/-- `decodeModeAMessage(mm, ModeA)`. -/
def decodeModeAMessage (mm : ModeACMessage) (ModeA : BitVec 32) : ModeACMessage :=
  let spi := decide (ModeA &&& 0x0080 ≠ 0)
  { mm with
    source := .modeAC
    addrtype := .modeA
    msgtype := 32
    msgbits := 16
    msg := ((ModeA >>> 8).setWidth 8, ModeA.setWidth 8)
    addr := ModeA &&& 0x0000FF7F ||| 1 <<< 24
    squawk := ModeA &&& 0x7777
    squawk_valid := true
    spi := spi
    spi_valid := true
    altitude_baro :=
      if ¬ spi then
        if modeAToModeC ModeA ≠ invalidAltitude then some (modeAToModeC ModeA * 100, .feet) else mm.altitude_baro
      else mm.altitude_baro
    correctedbits := 0 }

/-- The message of a reply. -/
def submit (mag : Block) (mm : ModeACMessage) (reply : Reply) : ModeACMessage :=
  let timestamp := mag.sampleTimestamp + BitVec.ofNat 64 (reply.f2_clock / 5)
  decodeModeAMessage { mm with
    timestampMsg := timestamp
    sysTimestampMsg := mag.sysTimestamp + receiveclock_ms_elapsed mag.sampleTimestamp timestamp } reply.modeac

/-- The loop over the samples, with the calls of `useModesMessage`. -/
def scanAC (floats : Floats) (noise_level : BitVec 32) (mag : Block) (mlen : Nat) :
    Nat → Nat → ModeACMessage → Option (List ModeACMessage)
  | 0, f1_sample, _ => if f1_sample < mlen then none else some []
  | fuel + 1, f1_sample, mm =>
    if f1_sample < mlen then do
      match ← replyAt floats noise_level (samplesAt mag 0) f1_sample with
      | none => scanAC floats noise_level mag mlen fuel (f1_sample + 1) mm
      | some reply =>
        let mm := submit mag mm reply
        let rest ← scanAC floats noise_level mag mlen fuel (f1_sample + 20 * 87 / 25 + 1) mm
        some (mm :: rest)
    else some []

/-- The demodulator; `noise_level` is what it computes from the mean level and power of the buffer. -/
def demodulate2400AC (floats : Floats) (noise_level : BitVec 32) (mag : Block) : Option (List ModeACMessage) :=
  -- `mlen` must not wrap around
  if mag.validLength < mag.overlap then none
  else
    let mlen := mag.validLength - mag.overlap
    scanAC floats noise_level mag mlen mlen 1 .zero

/-- The messages of the replies of a buffer. -/
def messages (mag : Block) : ModeACMessage → List Reply → List ModeACMessage
  | _, [] => []
  | mm, reply :: replies => submit mag mm reply :: messages mag (submit mag mm reply) replies

/-! ### Altitudes -/

/-- The altitude of a reply, unless it identifies itself or is none. -/
def Reply.altitude (reply : Reply) : Option (Int × AltitudeUnit) :=
  if reply.modeac &&& 0x0080 ≠ 0 then none
  else if modeAToModeC reply.modeac = invalidAltitude then none
  else some (modeAToModeC reply.modeac * 100, .feet)

/-- Nothing but an altitude is left of the message before. -/
theorem submit_eq (mag : Block) (mm : ModeACMessage) (reply : Reply) :
    submit mag mm reply =
      { submit mag .zero reply with altitude_baro := reply.altitude.or mm.altitude_baro } := by
  unfold submit decodeModeAMessage Reply.altitude
  by_cases hspi : reply.modeac &&& 128#32 = 0#32
  · by_cases haltitude : modeAToModeC reply.modeac = invalidAltitude
    · simp [hspi, haltitude]
    · simp [hspi, haltitude]
  · simp [hspi]

theorem altitude_submit (mag : Block) (mm : ModeACMessage) (reply : Reply) :
    (submit mag mm reply).altitude_baro = reply.altitude.or mm.altitude_baro := by
  rw [submit_eq]

/-- The last altitude of some replies, or else the one from before. -/
def lastAltitude (before : Option (Int × AltitudeUnit)) (replies : List Reply) : Option (Int × AltitudeUnit) :=
  (replies.filterMap Reply.altitude).getLast?.or before

theorem lastAltitude_cons (before : Option (Int × AltitudeUnit)) (reply : Reply) (replies : List Reply) :
    lastAltitude before (reply :: replies) = lastAltitude (reply.altitude.or before) replies := by
  unfold lastAltitude
  cases haltitude : reply.altitude with
  | none => rw [List.filterMap_cons_none haltitude, Option.none_or]
  | some altitude =>
    rw [List.filterMap_cons_some haltitude, List.getLast?_cons, Option.some_or, Option.some_or]
    cases (replies.filterMap Reply.altitude).getLast? <;> rfl

theorem getElem?_messages_from (mag : Block) (mm : ModeACMessage) (replies : List Reply) (n : Nat) :
    (messages mag mm replies)[n]? = replies[n]?.map fun reply =>
      { submit mag .zero reply with altitude_baro := lastAltitude mm.altitude_baro (replies.take (n + 1)) } := by
  induction replies generalizing mm n with
  | nil => rfl
  | cons reply replies ih =>
    rw [messages]
    cases n with
    | zero =>
      rw [List.getElem?_cons_zero, List.getElem?_cons_zero, Option.map_some, submit_eq, List.take_succ_cons,
        List.take_zero, lastAltitude_cons]
      rfl
    | succ n =>
      rw [List.getElem?_cons_succ, List.getElem?_cons_succ, ih, altitude_submit, List.take_succ_cons,
        lastAltitude_cons]

/-- The messages of a buffer: `mm` is cleared once. -/
theorem getElem?_messages (mag : Block) (replies : List Reply) (n : Nat) :
    (messages mag .zero replies)[n]? = replies[n]?.map fun reply =>
      { submit mag .zero reply with
        altitude_baro := ((replies.take (n + 1)).filterMap Reply.altitude).getLast? } := by
  rw [getElem?_messages_from]
  simp only [lastAltitude, ModeACMessage.zero, Option.or_none]

/-! ### Reads -/

section Reads
variable {floats : Floats} {noise_level : BitVec 32} {m : View} {valid : Nat}

/-- A view with so many samples. -/
def Long (m : View) (valid : Nat) : Prop := ∀ k < valid, ∃ x, m k = some x

theorem long_samplesAt (mag : Block) : Long (samplesAt mag 0) mag.validLength := fun _ hk =>
  ⟨_, samplesAt_of_valid (by omega)⟩

variable (noise_level) in
theorem framing_total (hm : Long m valid) {k : Nat} (hk : k + 3 ≤ valid) :
    ∃ level, framing noise_level m k = some level ∧
      (level ≠ none → ∃ first second, m k = some first ∧ m (k + 1) = some second ∧ 0 < first.toNat) := by
  obtain ⟨before, hbefore⟩ := hm (k - 1) (by omega)
  obtain ⟨first, hfirst⟩ := hm k (by omega)
  obtain ⟨second, hsecond⟩ := hm (k + 1) (by omega)
  obtain ⟨third, hthird⟩ := hm (k + 2) (by omega)
  refine ⟨framingLevel noise_level before first second third, ?_, fun hlevel => ⟨first, second, hfirst, hsecond, ?_⟩⟩
  · rw [framing, hbefore, hfirst, hsecond, hthird]
    rfl
  · unfold framingLevel at hlevel
    split at hlevel
    · exact absurd rfl hlevel
    · next hrise => omega

theorem sliceBit_total (hm : Long m valid) (signal_threshold noise_threshold : Nat) {clock : Nat}
    (hclock : clock / 25 + 3 ≤ valid) (s : Slices) :
    ∃ s', sliceBit signal_threshold noise_threshold m s clock = some s' := by
  obtain ⟨first, hfirst⟩ := hm (clock / 25) (by omega)
  obtain ⟨second, hsecond⟩ := hm (clock / 25 + 1) (by omega)
  obtain ⟨third, hthird⟩ := hm (clock / 25 + 2) (by omega)
  unfold sliceBit
  rw [hfirst, hsecond, hthird]
  exact ⟨_, rfl⟩

variable (floats noise_level) in
/-- A reply takes up 70 samples, from F1 on. -/
theorem replyAt_total (hm : Long m valid) {f1_sample : Nat} (hvalid : f1_sample + 70 ≤ valid)
    (hlt : f1_sample < 2 ^ 19) :
    ∃ found, replyAt floats noise_level m f1_sample = some found ∧ ∀ reply, found = some reply →
      reply.f1_sample = f1_sample ∧ 25 * f1_sample + 1218 ≤ reply.f2_clock ∧
        reply.f2_clock ≤ 25 * f1_sample + 1243 := by
  unfold replyAt
  obtain ⟨f1_level, hf1, hsamples⟩ := framing_total noise_level hm (show f1_sample + 3 ≤ valid by omega)
  rw [hf1, Option.bind_eq_bind, Option.bind_some]
  cases f1_level with
  | none => exact ⟨none, rfl, fun _ h => by cases h⟩
  | some f1_level =>
    obtain ⟨first, second, hfirst, hsecond, hpos⟩ := hsamples (Option.some_ne_none _)
    obtain ⟨hlow, hhigh⟩ := floats.clock_within f1_sample hlt first second hpos
    simp only [hfirst, hsecond, Option.bind_eq_bind, Option.bind_some]
    generalize floats.f1_clock f1_sample first second = f1_clock at hlow hhigh ⊢
    obtain ⟨f2_level, hf2, -⟩ := framing_total noise_level hm (show (f1_clock + 87 * 14) / 25 + 3 ≤ valid by omega)
    rw [hf2, Option.bind_some]
    cases f2_level with
    | none => exact ⟨none, rfl, fun _ h => by cases h⟩
    | some f2_level =>
      dsimp only
      generalize noise_level * BitVec.ofNat 32 (max f1_level f2_level) = midpoint
      have hround : ∀ s : Slices, True → ∀ clock ∈ (List.range 20).map fun bit => f1_clock + 87 * bit,
          ∃ s', sliceBit (floats.signal_threshold midpoint) (floats.noise_threshold midpoint) m s clock = some s' ∧
            True := by
        intro s _ clock hclock
        obtain ⟨bit, hbit, rfl⟩ := List.mem_map.mp hclock
        have hlast := List.mem_range.mp hbit
        obtain ⟨s', hs'⟩ := sliceBit_total hm (floats.signal_threshold midpoint) (floats.noise_threshold midpoint)
          (show (f1_clock + 87 * bit) / 25 + 3 ≤ valid by omega) s
        exact ⟨s', hs', trivial⟩
      obtain ⟨s, hs, -⟩ := foldlM_total hround (a := ⟨0, 0, 0⟩) trivial
      rw [hs, Option.bind_some]
      refine ⟨_, rfl, fun reply hreply => ?_⟩
      obtain ⟨modeac, -, rfl⟩ := Option.map_eq_some_iff.mp hreply
      exact ⟨rfl, by dsimp only; omega, by dsimp only; omega⟩

variable (floats noise_level m) in
/-- The scan of a buffer for replies. -/
def acScanner : Scanner Unit Reply where
  find _ f1_sample := (replyAt floats noise_level m f1_sample).join
  next f1_sample _ := f1_sample + 70
  after s _ := s
  lt_next _ _ := Nat.lt_add_of_pos_right (by decide)

/-- These are the replies in the first `mlen` samples but the first one. -/
def Replies (floats : Floats) (noise_level : BitVec 32) (mag : Block) (mlen : Nat) (replies : List Reply) : Prop :=
  ∃ stop, (acScanner floats noise_level (samplesAt mag 0)).Scans mlen 1 ()
    (replies.map fun reply => (reply.f1_sample, reply)) stop ()

variable (floats noise_level) in
/-- The loop is the scan. -/
theorem scanAC_scans {mag : Block} {mlen : Nat} (hvalid : mlen + 69 ≤ mag.validLength) (hshort : mlen ≤ 2 ^ 19)
    {fuel f1_sample : Nat} (hfuel : mlen ≤ f1_sample + fuel) (mm : ModeACMessage) :
    ∃ replies stop, scanAC floats noise_level mag mlen fuel f1_sample mm = some (messages mag mm replies) ∧
      (acScanner floats noise_level (samplesAt mag 0)).Scans mlen f1_sample ()
        (replies.map fun reply => (reply.f1_sample, reply)) stop () := by
  induction fuel generalizing f1_sample mm with
  | zero =>
    rw [scanAC, if_neg (by omega)]
    exact ⟨[], f1_sample, rfl, .stop (by omega)⟩
  | succ fuel ih =>
    rw [scanAC]
    split
    · next hlt =>
      obtain ⟨found, hfound, hplace⟩ := replyAt_total floats noise_level (long_samplesAt mag)
        (show f1_sample + 70 ≤ mag.validLength by omega) (by omega)
      have hfind : (acScanner floats noise_level (samplesAt mag 0)).find () f1_sample = found := by
        show (replyAt floats noise_level (samplesAt mag 0) f1_sample).join = found
        rw [hfound]
        rfl
      rw [hfound, Option.bind_eq_bind, Option.bind_some]
      cases found with
      | none =>
        obtain ⟨replies, stop, hrest, hscans⟩ := ih (show mlen ≤ f1_sample + 1 + fuel by omega) mm
        exact ⟨replies, stop, hrest, .skip hlt hfind hscans⟩
      | some reply =>
        obtain ⟨rfl, -⟩ := hplace reply rfl
        obtain ⟨replies, stop, hrest, hscans⟩ := ih
          (show mlen ≤ reply.f1_sample + 20 * 87 / 25 + 1 + fuel by omega) (submit mag mm reply)
        dsimp only
        rw [hrest]
        exact ⟨reply :: replies, stop, rfl, .item hlt hfind hscans⟩
    · exact ⟨[], f1_sample, rfl, .stop (by omega)⟩

/-- What is known of the replies of a buffer: where they are, and that each takes up its samples and its time. -/
structure Spaced (mlen : Nat) (replies : List Reply) : Prop where
  within : ∀ reply ∈ replies, 1 ≤ reply.f1_sample ∧ reply.f1_sample < mlen
  apart : replies.Pairwise fun a b => a.f1_sample + 70 ≤ b.f1_sample ∧ a.f2_clock / 5 + 345 ≤ b.f2_clock / 5

theorem Replies.spaced {mag : Block} {mlen : Nat} (hvalid : mlen + 69 ≤ mag.validLength) (hshort : mlen ≤ 2 ^ 19)
    {replies : List Reply} (h : Replies floats noise_level mag mlen replies) : Spaced mlen replies := by
  obtain ⟨stop, hscans⟩ := h
  have hwithin : ∀ reply ∈ replies, 1 ≤ reply.f1_sample ∧ reply.f1_sample < mlen := fun reply hreply =>
    hscans.between.2 (reply.f1_sample, reply) (List.mem_map_of_mem hreply)
  have hclock : ∀ reply ∈ replies, 25 * reply.f1_sample + 1218 ≤ reply.f2_clock ∧
      reply.f2_clock ≤ 25 * reply.f1_sample + 1243 := by
    intro reply hreply
    have hlt := (hwithin reply hreply).2
    obtain ⟨_, hfind⟩ := hscans.found (reply.f1_sample, reply) (List.mem_map_of_mem hreply)
    obtain ⟨found, hfound, hplace⟩ := replyAt_total floats noise_level (long_samplesAt mag)
      (show reply.f1_sample + 70 ≤ mag.validLength by omega) (by omega)
    have hjoin : (replyAt floats noise_level (samplesAt mag 0) reply.f1_sample).join = some reply := hfind
    rw [hfound] at hjoin
    exact (hplace reply hjoin).2
  refine ⟨hwithin, (List.pairwise_map.mp hscans.spaced).imp_of_mem fun {a b} ha hb hapart => ?_⟩
  have hnext : a.f1_sample + 70 ≤ b.f1_sample := hapart
  have hfirst := hclock a ha
  have hsecond := hclock b hb
  omega

variable (floats noise_level) in
/-- **Main theorem.** All that the demodulator reads are valid samples of the buffer, and F2 is one of them. The replies
that it finds do not overlap, and their times increase. A message says what its reply says, but for the altitude: it has
the last one that a reply of the buffer had so far. -/
theorem demodulate2400AC_reads {mag : Block} (hoverlap : 69 ≤ mag.overlap) (hvalid : mag.overlap ≤ mag.validLength)
    (hshort : mag.validLength ≤ mag.overlap + 2 ^ 19) :
    ∃ replies mms, demodulate2400AC floats noise_level mag = some mms ∧
      Replies floats noise_level mag (mag.validLength - mag.overlap) replies ∧
      Spaced (mag.validLength - mag.overlap) replies ∧
      ∀ n, mms[n]? = replies[n]?.map fun reply =>
        { submit mag .zero reply with
          altitude_baro := ((replies.take (n + 1)).filterMap Reply.altitude).getLast? } := by
  have hlong : mag.validLength - mag.overlap + 69 ≤ mag.validLength := by omega
  obtain ⟨replies, stop, hrun, hscans⟩ := scanAC_scans floats noise_level hlong (by omega)
    (show mag.validLength - mag.overlap ≤ 1 + (mag.validLength - mag.overlap) by omega) .zero
  refine ⟨replies, _, ?_, ⟨stop, hscans⟩, Replies.spaced hlong (by omega) ⟨stop, hscans⟩, getElem?_messages mag replies⟩
  rw [demodulate2400AC, if_neg (by omega)]
  exact hrun

end Reads

/-- `fraction * fraction` of these powers, in ticks and rounded. -/
def exactClock (f1_sample : Nat) (a b : Sample) : Nat :=
  (50 * f1_sample * (a.toNat ^ 2 + b.toNat ^ 2) ^ 2 + 50 * (b.toNat ^ 2) ^ 2 + (a.toNat ^ 2 + b.toNat ^ 2) ^ 2) /
    (2 * (a.toNat ^ 2 + b.toNat ^ 2) ^ 2)

theorem exactClock_within (f1_sample : Nat) (a b : Sample) (ha : 0 < a.toNat) :
    25 * f1_sample ≤ exactClock f1_sample a b ∧ exactClock f1_sample a b ≤ 25 * (f1_sample + 1) := by
  unfold exactClock
  have hpos : 0 < a.toNat ^ 2 + b.toNat ^ 2 := Nat.add_pos_left (Nat.pow_pos ha) _
  have hle : (b.toNat ^ 2) ^ 2 ≤ (a.toNat ^ 2 + b.toNat ^ 2) ^ 2 := Nat.pow_le_pow_left (Nat.le_add_left _ _) 2
  have hsquare : 0 < (a.toNat ^ 2 + b.toNat ^ 2) ^ 2 := Nat.pow_pos hpos
  generalize (a.toNat ^ 2 + b.toNat ^ 2) ^ 2 = total at hle hsquare ⊢
  have hproduct : 50 * f1_sample * total = 25 * f1_sample * (2 * total) := by ring
  constructor
  · rw [Nat.le_div_iff_mul_le (by omega)]
    omega
  · rw [← Nat.lt_succ_iff, Nat.div_lt_iff_lt_mul (by omega)]
    have hnext : (25 * (f1_sample + 1)).succ * (2 * total) = 25 * f1_sample * (2 * total) + 52 * total := by
      rw [Nat.succ_eq_add_one]
      ring
    omega

/-- Floating point without its errors. -/
def exactFloats : Floats where
  f1_clock := exactClock
  signal_threshold x := (Nat.sqrt (8 * x.toNat) + 1) / 2
  noise_threshold x := (Nat.sqrt (2 * x.toNat) + 1) / 2
  clock_within f1_sample _ a b ha := exactClock_within f1_sample a b ha

/-- The replies 0410, an altitude, and 1200, which is none, 75 samples apart. -/
def pairBlock : Block where
  data := List.flatten [[0, 2500, 200, 0, 1300, 1400], List.replicate 36 0, [600, 2100], List.replicate 5 0, [700, 2000],
    List.replicate 25 0, [2500, 200], List.replicate 4 0, [100, 2500, 100], List.replicate 25 0, [500, 2200],
    List.replicate 12 0, [700, 2000], List.replicate 24 0]
  totalLength := 150
  validLength := 150
  overlap := 70
  sampleTimestamp := 0
  sysTimestamp := 0
  flags := 0
  length_data := rfl

/-- Both are read, and the second one has the altitude of the first. -/
theorem demodulate2400AC_reads_pair :
    (∃ replies mms, demodulate2400AC exactFloats 400 pairBlock = some mms ∧
      Replies exactFloats 400 pairBlock (pairBlock.validLength - pairBlock.overlap) replies ∧
      Spaced (pairBlock.validLength - pairBlock.overlap) replies ∧
      ∀ n, mms[n]? = replies[n]?.map fun reply =>
        { submit pairBlock .zero reply with
          altitude_baro := ((replies.take (n + 1)).filterMap Reply.altitude).getLast? }) ∧
    (demodulate2400AC exactFloats 400 pairBlock).map (fun mms => mms.map fun mm => (mm.squawk, mm.altitude_baro)) =
      some [(0x0410, some (-700, .feet)), (0x1200, some (-700, .feet))] :=
  ⟨demodulate2400AC_reads exactFloats 400 (by decide) (by decide) (by decide), by decide +kernel⟩

end RbFeeder.Demod
