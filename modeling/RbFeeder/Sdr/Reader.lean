import RbFeeder.Sdr.Overlap

/-! The reader thread and the main loop.

The driver hands the samples of the device to `rtlsdrCallback`, one buffer after the
other; the callback passes them on in a buffer of the queue, or drops them when there is
none. The main loop takes the buffers off the queue. Between the callback's
`fifo_acquire` and its `fifo_enqueue` anything can happen in the main loop, so a call is
two steps here (`Station.step`); a step that is not the next one of its thread changes
nothing. -/
namespace RbFeeder.Sdr
open Runs

/-- A sample of the device. -/
abbrev Iq := BitVec 8 × BitVec 8

/-- The samples of a buffer of the driver, `len/2` of them. -/
def iqSamples : List (BitVec 8) → List Iq
  | i :: q :: buf => (i, q) :: iqSamples buf
  | _ => []

/-- `memcpy(&data[start], src, …)`. -/
def overwriteAt (data : List Sample) (start : Nat) (src : List Sample) : List Sample :=
  (data.take start ++ src ++ data.drop (start + src.length)).take data.length

theorem length_overwriteAt (data : List Sample) (start : Nat) (src : List Sample) :
    (overwriteAt data start src).length = data.length := by
  simp [overwriteAt]
  omega

/-- The new samples of a block, behind its overlap region. -/
def Block.append (b : Block) (src : List Sample) : Block :=
  { b with
    data := overwriteAt b.data b.overlap src
    validLength := b.overlap + src.length
    length_data := (length_overwriteAt b.data b.overlap src).trans b.length_data }

/-- The queue, the `dropped` of its buffers, the static variables of the callback, its call that has a buffer, and
the counts of the main loop. Beside them, what has arrived so far and how much of it is in no block, and for each
block that was enqueued its buffer and the `dropped` of its call. -/
structure Station (n : Nat) where
  system : System n
  noted : Fin n → BitVec 32
  dropped : BitVec 32
  sampleCounter : BitVec 64
  exit : Bool
  call : Option (Fin n × List Iq)
  samples_processed : BitVec 64
  samples_dropped : BitVec 64
  arrived : List Iq
  lost : Nat
  drops : List (Fin n × BitVec 32)

inductive Action
  | callback (buf : List (BitVec 8))
  | deliver (sysTimestamp : BitVec 64)
  | dequeue
  | finish
  | halt
  | exit

namespace Station
variable {n : Nat}

def create (buffer_count buffer_size overlap : Nat) : Station buffer_count where
  system := .create buffer_count buffer_size overlap
  noted _ := 0
  dropped := 0
  sampleCounter := 0
  exit := false
  call := none
  samples_processed := 0
  samples_dropped := 0
  arrived := []
  lost := 0
  drops := []

/-- `rtlsdrCallback(buf, len, ctx)`, up to its `fifo_acquire`. -/
def callback (s : Station n) (buf : List (BitVec 8)) : Except Fault (Station n) :=
  let iq := iqSamples buf
  if s.call.isSome ∨ s.exit ∨ iq = [] then .ok s
  else
    (s.system.step .acquire).map fun system =>
      match (fifoAcquire s.system.fifo).1 with
      | none =>
        { s with
          system := system
          dropped := s.dropped + BitVec.ofNat 32 iq.length
          sampleCounter := s.sampleCounter + BitVec.ofNat 64 iq.length
          arrived := s.arrived ++ iq
          lost := s.lost + iq.length }
      | some outbuf =>
        { s with
          system := system
          call := some (outbuf, iq)
          arrived := s.arrived ++ iq }

/-- `to_convert`. -/
def to_convert (block : Block) (samples_read : Nat) : Nat :=
  if samples_read + block.overlap > block.totalLength then block.totalLength - block.overlap else samples_read

variable (magnitude : Iq → Sample) (clock : BitVec 64 → BitVec 64)

/-- The block of a call. The converter is `magnitude`, sample by sample, and the clock is
`sampleCounter * 12e6 / Modes.sample_rate`. -/
def filled (s : Station n) (block : Block) (iq : List Iq) (sysTimestamp : BitVec 64) : Block :=
  { block.append ((iq.take (to_convert block iq.length)).map magnitude) with
    flags := if s.dropped ≠ 0 then magbufDiscontinuous else 0
    sampleTimestamp := clock s.sampleCounter
    sysTimestamp := sysTimestamp }

/-- The rest of the call. -/
def deliver (s : Station n) (sysTimestamp : BitVec 64) : Except Fault (Station n) :=
  match s.call with
  | none => .ok s
  | some (outbuf, iq) =>
    let block := (s.system.fifo.heap outbuf).block
    let converted := to_convert block iq.length
    (run System.step s.system
        [.write .producer outbuf (s.filled magnitude clock block iq sysTimestamp), .enqueue outbuf]).map
      fun system =>
        { s with
          system := system
          noted := if s.dropped ≠ 0 then Function.update s.noted outbuf s.dropped else s.noted
          dropped := BitVec.ofNat 32 (iq.length - converted)
          sampleCounter := s.sampleCounter + BitVec.ofNat 64 iq.length
          call := none
          lost := s.lost + if s.system.fifo.fifo_halted then iq.length else iq.length - converted
          drops := if s.system.fifo.fifo_halted then s.drops else s.drops ++ [(outbuf, s.dropped)] }

/-- The main loop takes the next buffer. -/
def dequeue (s : Station n) : Except Fault (Station n) :=
  if s.system.hands .consumer = [] then
    (s.system.step .dequeue).map fun system => { s with system := system }
  else .ok s

/-- It has demodulated the buffer, counts it and releases it. -/
def finish (s : Station n) : Except Fault (Station n) :=
  match s.system.hands .consumer with
  | [] => .ok s
  | buf :: _ =>
    let block := (s.system.fifo.heap buf).block
    (s.system.step (.release .consumer buf)).map fun system =>
      { s with
        system := system
        samples_processed := s.samples_processed + BitVec.ofNat 64 (block.validLength - block.overlap)
        samples_dropped := s.samples_dropped + (s.noted buf).setWidth 64 }

def step (s : Station n) : Action → Except Fault (Station n)
  | .callback buf => s.callback buf
  | .deliver sysTimestamp => s.deliver magnitude clock sysTimestamp
  | .dequeue => s.dequeue
  | .finish => s.finish
  | .halt => (s.system.step .halt).map fun system => { s with system := system }
  | .exit => .ok { s with exit := true }

/-- The samples of the call that has a buffer. -/
def pending (s : Station n) : List Iq := (s.call.map Prod.snd).getD []

end Station

end RbFeeder.Sdr
