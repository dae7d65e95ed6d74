import Mathlib

/-! `struct stats`, and what `add_stats` makes of two of them.

Every call has its target as the second argument too, so the new start is already there
when the newer of the two is chosen. -/
namespace RbFeeder.Statistics

/-- The counters of 32 bits. -/
inductive Counter32 where
  | demodPreambles
  | demodRejectedBad
  | demodRejectedUnknownIcao
  | demodAccepted (errors : Fin 3)
  | demodModeac
  | strongSignalCount
  | remoteReceivedModeac
  | remoteReceivedModes
  | remoteRejectedBad
  | remoteRejectedUnknownIcao
  | remoteAccepted (errors : Fin 3)
  | messagesTotal
  | messagesByDf (df : Fin 32)
  | cprSurface
  | cprAirborne
  | cprGlobalOk
  | cprGlobalBad
  | cprGlobalSkipped
  | cprGlobalRangeChecks
  | cprGlobalSpeedChecks
  | cprLocalOk
  | cprLocalAircraftRelative
  | cprLocalReceiverRelative
  | cprLocalSkipped
  | cprLocalRangeChecks
  | cprLocalSpeedChecks
  | cprFiltered
  | suppressedAltitudeMessages
  | uniqueAircraft
  | singleMessageAircraft
  | unreliableAircraft
  | rangeHistogram (bucket : Fin 76)
  | adaptiveGainSeconds (gain : Fin 64)
  | adaptiveLoudUndecoded
  | adaptiveLoudDecoded
  | adaptiveGainChanges
deriving DecidableEq

/-- The counters of 64 bits. -/
inductive Counter64 where
  | samplesProcessed
  | samplesDropped
  | noisePowerCount
  | signalPowerCount
deriving DecidableEq

/-- The processor times. -/
inductive Cpu where
  | demod
  | reader
  | background
deriving DecidableEq

structure Timespec where
  sec : ℤ
  nsec : ℤ
deriving DecidableEq

def addTimespecs (x y : Timespec) : Timespec where
  sec := x.sec + y.sec + (x.nsec + y.nsec).tdiv 1000000000
  nsec := (x.nsec + y.nsec).tmod 1000000000

structure Stats (F : Type) where
  start : ℕ
  /-- `end`. -/
  stop : ℕ
  count32 : Counter32 → UInt32
  count64 : Counter64 → UInt64
  cpu : Cpu → Timespec
  noisePowerSum : F
  signalPowerSum : F
  peakSignalPower : F
  adaptiveValid : Bool
  adaptiveGain : ℤ
  adaptiveNoiseDbfs : F
  adaptiveRangeGainLimit : ℤ

section
variable {F : Type} [Add F] [LinearOrder F]

/-- `st_zero`. -/
def zeroStats [Zero F] : Stats F where
  start := 0
  stop := 0
  count32 _ := 0
  count64 _ := 0
  cpu _ := ⟨0, 0⟩
  noisePowerSum := 0
  signalPowerSum := 0
  peakSignalPower := 0
  adaptiveValid := false
  adaptiveGain := 0
  adaptiveNoiseDbfs := 0
  adaptiveRangeGainLimit := 0

/-- A start of 0 counts as none. -/
def addStart (a b : ℕ) : ℕ :=
  if a = 0 then b else if b = 0 then a else if a < b then a else b

/-- `add_stats(st1, st2, st2)`. -/
def addStats (st1 st2 : Stats F) : Stats F :=
  let start := addStart st1.start st2.start
  let newer := if st1.stop > st2.stop ∨ st1.stop = st2.stop ∧ st1.start > start then st1 else st2
  let adaptiveBest :=
    if st1.adaptiveValid ∧ st2.adaptiveValid then newer else if st1.adaptiveValid then st1 else st2
  { start
    stop := newer.stop
    count32 := fun k => st1.count32 k + st2.count32 k
    count64 := fun k => st1.count64 k + st2.count64 k
    cpu := fun k => addTimespecs (st1.cpu k) (st2.cpu k)
    noisePowerSum := st1.noisePowerSum + st2.noisePowerSum
    signalPowerSum := st1.signalPowerSum + st2.signalPowerSum
    peakSignalPower := if st1.peakSignalPower > st2.peakSignalPower then st1.peakSignalPower else st2.peakSignalPower
    adaptiveValid := adaptiveBest.adaptiveValid
    adaptiveGain := adaptiveBest.adaptiveGain
    adaptiveNoiseDbfs := adaptiveBest.adaptiveNoiseDbfs
    adaptiveRangeGainLimit := adaptiveBest.adaptiveRangeGainLimit }

/-- What becomes of a record between two calls: counters and processor times go up by those of `d`,
the rest but the times becomes that of `d`. -/
def Stats.count (s d : Stats F) : Stats F :=
  { d with
    start := s.start
    stop := s.stop
    count32 := fun k => s.count32 k + d.count32 k
    count64 := fun k => s.count64 k + d.count64 k
    cpu := fun k => addTimespecs (s.cpu k) (d.cpu k) }

/-! ### What is added -/

/-- The nanoseconds of a time. -/
def Timespec.total (t : Timespec) : ℤ := t.sec * 1000000000 + t.nsec

theorem addTimespecs_total (x y : Timespec) : (addTimespecs x y).total = x.total + y.total := by
  have := Int.tmod_add_mul_tdiv (x.nsec + y.nsec) 1000000000
  unfold addTimespecs Timespec.total
  dsimp only
  omega

theorem addStats_stop (st1 st2 : Stats F) : (addStats st1 st2).stop = max st1.stop st2.stop := by
  unfold addStats
  dsimp only
  split_ifs with h
  · rw [max_eq_left]
    omega
  · rw [max_eq_right]
    omega

theorem addStart_comm (a b : ℕ) : addStart a b = addStart b a := by
  unfold addStart
  split_ifs <;> omega

theorem addStart_assoc (a b c : ℕ) : addStart (addStart a b) c = addStart a (addStart b c) := by
  unfold addStart
  split_ifs <;> omega

theorem addStart_zero (a : ℕ) : addStart 0 a = a := if_pos rfl

end

end RbFeeder.Statistics
