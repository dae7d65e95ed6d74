import RbFeeder.Lib.Runs

/-! The buffer queue between the receiver thread and the demodulator, `fifo.c`.

A fixed number of buffers circulates: the producer takes one from the freelist,
fills it and puts it on the queue; the consumer takes it from the queue and returns
it to the freelist. Both lists are linked through the buffers. Every function holds
the mutex from its first access to the lists to its last, except while it waits for
a condition, so what can happen is a sequence of the steps below (`System.step`). A
wait changes nothing: a call that goes on waiting and one that gives up are the same
step. -/
namespace RbFeeder.Sdr

/-- `uint16_t`. -/
abbrev Sample := BitVec 16

/-- `MAGBUF_DISCONTINUOUS`. -/
def magbufDiscontinuous : BitVec 32 := 1

/-- A `struct mag_buf` without its link. -/
structure Block where
  data : List Sample
  totalLength : Nat
  validLength : Nat
  overlap : Nat
  sampleTimestamp : BitVec 64
  sysTimestamp : BitVec 64
  flags : BitVec 32
  length_data : data.length = totalLength
deriving DecidableEq

/-- Whether `flags & MAGBUF_DISCONTINUOUS`. -/
def Block.discontinuous (b : Block) : Bool := b.flags &&& magbufDiscontinuous ≠ 0

/-- `struct mag_buf`, one of `n`. A pointer to one is its number. -/
structure MagBuf (n : Nat) where
  block : Block
  next : Option (Fin n)

/-- The static variables of `fifo.c` and the buffers. -/
structure Fifo (n : Nat) where
  heap : Fin n → MagBuf n
  fifo_head : Option (Fin n)
  fifo_tail : Option (Fin n)
  fifo_freelist : Option (Fin n)
  fifo_halted : Bool
  overlap_length : Nat
  overlap_buffer : List Sample

/-- How a run can go wrong: a caller that does not keep to its buffers, an `assert`,
a null pointer followed, a loop without end. -/
inductive Fault
  | misuse
  | assertion
  | nullPointer
  | endless
deriving DecidableEq

/-- `memcpy(data, src, …)`, over the first samples. -/
def overwrite (data src : List Sample) : List Sample := (src ++ data.drop src.length).take data.length

theorem length_overwrite (data src : List Sample) : (overwrite data src).length = data.length := by
  simp [overwrite]
  omega

def Block.setData (b : Block) (src : List Sample) : Block :=
  { b with
    data := overwrite b.data src
    length_data := (length_overwrite b.data src).trans b.length_data }

namespace Fifo
variable {n : Nat}

/-- The links. -/
def next (s : Fifo n) (b : Fin n) : Option (Fin n) := (s.heap b).next

/-- `b->next = next`. -/
def setNext (s : Fifo n) (b : Fin n) (next : Option (Fin n)) : Fifo n :=
  { s with heap := Function.update s.heap b { s.heap b with next := next } }

def setBlock (s : Fifo n) (b : Fin n) (block : Block) : Fifo n :=
  { s with heap := Function.update s.heap b { s.heap b with block := block } }

/-- `buf->next = fifo_freelist; fifo_freelist = buf`. -/
def free (s : Fifo n) (buf : Fin n) : Fifo n :=
  { s.setNext buf s.fifo_freelist with fifo_freelist := some buf }

end Fifo

/-- A buffer from `calloc`. -/
def zeroBlock (buffer_size : Nat) : Block :=
  ⟨List.replicate buffer_size 0, buffer_size, 0, 0, 0, 0, 0, List.length_replicate⟩

/-- `fifo_create(buffer_count, buffer_size, overlap)`, when there is memory enough. -/
def fifoCreate (buffer_count buffer_size overlap : Nat) : Fifo buffer_count :=
  (List.finRange buffer_count).foldl Fifo.free
    ⟨fun _ => ⟨zeroBlock buffer_size, none⟩, none, none, none, false, overlap, List.replicate overlap 0⟩

section Functions
variable {n : Nat}

/-- The loop of `fifo_halt`. -/
def drainToFreelist : Nat → Fifo n → Except Fault (Fifo n)
  | steps, s =>
    match s.fifo_head with
    | none => .ok s
    | some freebuf =>
      match steps with
      | 0 => .error .endless
      | steps + 1 =>
        drainToFreelist steps (Fifo.free { s with fifo_head := s.next freebuf } freebuf)

/-- `fifo_halt()`. A list without a cycle takes at most `n` turns. -/
def fifoHalt (s : Fifo n) : Except Fault (Fifo n) :=
  (drainToFreelist n s).map fun s => { s with fifo_tail := none, fifo_halted := true }

/-- `fifo_acquire(timeout_ms)`. -/
def fifoAcquire (s : Fifo n) : Option (Fin n) × Fifo n :=
  if s.fifo_halted then (none, s)
  else
    match s.fifo_freelist with
    | none => (none, s)
    | some result =>
      let s := { s with fifo_freelist := s.next result }
      let s := s.setBlock result
        { (s.heap result).block with
          overlap := s.overlap_length
          validLength := s.overlap_length
          sampleTimestamp := 0
          sysTimestamp := 0
          flags := 0 }
      (some result, s.setNext result none)

/-- The overlap region of a buffer, and its tail saved for the next one. -/
def populateOverlap (s : Fifo n) (buf : Fin n) : Fifo n :=
  let block := (s.heap buf).block
  let block := block.setData
    (if block.discontinuous then List.replicate s.overlap_length 0
      else s.overlap_buffer.take s.overlap_length)
  { s.setBlock buf block with
    overlap_buffer := (block.data.drop (block.validLength - s.overlap_length)).take s.overlap_length }

/-- `fifo_enqueue(buf)`. -/
def fifoEnqueue (s : Fifo n) (buf : Fin n) : Except Fault (Fifo n) :=
  let block := (s.heap buf).block
  if ¬ (block.validLength ≤ block.totalLength ∧ s.overlap_length ≤ block.validLength) then
    .error .assertion
  else if s.fifo_halted then .ok (s.free buf)
  else
    let s := (populateOverlap s buf).setNext buf none
    match s.fifo_head with
    | none => .ok { s with fifo_head := some buf, fifo_tail := some buf }
    | some _ =>
      match s.fifo_tail with
      | none => .error .nullPointer
      | some tail => .ok { s.setNext tail (some buf) with fifo_tail := some buf }

/-- `fifo_dequeue(timeout_ms)`. -/
def fifoDequeue (s : Fifo n) : Option (Fin n) × Fifo n :=
  if s.fifo_halted then (none, s)
  else
    match s.fifo_head with
    | none => (none, s)
    | some result =>
      let s := { s with fifo_head := s.next result }
      let s := s.setNext result none
      (some result, if s.fifo_head = none then { s with fifo_tail := none } else s)

/-- `fifo_release(buf)`. -/
def fifoRelease (s : Fifo n) (buf : Fin n) : Fifo n := s.free buf

end Functions

/-! ### The two threads -/

inductive Party
  | producer
  | consumer
deriving DecidableEq

/-- A step of one of the threads. A party can write to a buffer that it holds, and
either can give one back unused. -/
inductive Event (n : Nat)
  | acquire
  | write (party : Party) (buf : Fin n) (block : Block)
  | enqueue (buf : Fin n)
  | dequeue
  | release (party : Party) (buf : Fin n)
  | halt

/-- The queue, the buffers that the parties hold, and what has been acquired, enqueued
and dequeued so far, with the contents at that time. -/
structure System (n : Nat) where
  fifo : Fifo n
  hands : Party → List (Fin n)
  acquired : List (Fin n)
  enqueued : List (Fin n × Block)
  dequeued : List (Fin n × Block)

namespace System
variable {n : Nat}

def create (buffer_count buffer_size overlap : Nat) : System buffer_count :=
  ⟨fifoCreate buffer_count buffer_size overlap, fun _ => [], [], [], []⟩

def take (s : System n) (party : Party) (buf : Fin n) : Party → List (Fin n) :=
  Function.update s.hands party (buf :: s.hands party)

def drop (s : System n) (party : Party) (buf : Fin n) : Party → List (Fin n) :=
  Function.update s.hands party ((s.hands party).erase buf)

def step (s : System n) : Event n → Except Fault (System n)
  | .acquire =>
    match fifoAcquire s.fifo with
    | (none, fifo) => .ok { s with fifo := fifo }
    | (some buf, fifo) =>
      .ok { s with fifo := fifo, hands := s.take .producer buf, acquired := s.acquired ++ [buf] }
  | .write party buf block =>
    if buf ∈ s.hands party ∧ block.totalLength = (s.fifo.heap buf).block.totalLength then
      .ok { s with fifo := s.fifo.setBlock buf block }
    else .error .misuse
  | .enqueue buf =>
    if buf ∈ s.hands .producer then
      (fifoEnqueue s.fifo buf).map fun fifo =>
        { s with
          fifo := fifo
          hands := s.drop .producer buf
          enqueued := if s.fifo.fifo_halted then s.enqueued
            else s.enqueued ++ [(buf, (fifo.heap buf).block)] }
    else .error .misuse
  | .dequeue =>
    match fifoDequeue s.fifo with
    | (none, fifo) => .ok { s with fifo := fifo }
    | (some buf, fifo) =>
      .ok { s with
        fifo := fifo
        hands := s.take .consumer buf
        dequeued := s.dequeued ++ [(buf, (fifo.heap buf).block)] }
  | .release party buf =>
    if buf ∈ s.hands party then
      .ok { s with fifo := fifoRelease s.fifo buf, hands := s.drop party buf }
    else .error .misuse
  | .halt => (fifoHalt s.fifo).map fun fifo => { s with fifo := fifo }

end System

end RbFeeder.Sdr
