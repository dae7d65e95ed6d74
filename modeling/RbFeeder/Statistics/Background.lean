import RbFeeder.Lib.Ring
import RbFeeder.Statistics.Record

/-! The statistics in `backgroundTasks`.

Every minute the current record is completed: it goes into the ring of the last 15 records,
is added to the totals, and a new one starts. The main program sets no start for the first
record; the memory of `Modes` is zero. Times are natural numbers: milliseconds in `uint64_t`
do not wrap around. -/
namespace RbFeeder.Statistics

structure State (F : Type) where
  nextStatsUpdate : ℕ
  current : Stats F
  alltime : Stats F
  periodic : Stats F
  fiveMin : Stats F
  fifteenMin : Stats F
  /-- `stats_1min` and `stats_newest_1min`. -/
  oneMin : Ring (Stats F)

/-- One call: what is counted before the clock is read, twice. -/
structure Call (F : Type) where
  counted : Stats F
  now : ℕ
  stop : ℕ

section
variable {F : Type} [Zero F] [Add F] [LinearOrder F]

/-- `Modes` after the `memset`. -/
def initial : State F where
  nextStatsUpdate := 0
  current := zeroStats
  alltime := zeroStats
  periodic := zeroStats
  fiveMin := zeroStats
  fifteenMin := zeroStats
  oneMin := ⟨0, fun _ => zeroStats⟩

/-- The current record is complete. -/
def completePeriod (now : ℕ) (s : State F) : State F :=
  let oneMin := s.oneMin.push 15 s.current
  { nextStatsUpdate := s.nextStatsUpdate + 60000
    current := { zeroStats with start := now, stop := now }
    alltime := addStats s.current s.alltime
    periodic := addStats s.current s.periodic
    fiveMin := Ring.folded addStats zeroStats ((List.range 5).map (oneMin.recent 15))
    fifteenMin := Ring.folded addStats zeroStats ((List.range 15).map oneMin.slots)
    oneMin }

def backgroundTasks (s : State F) (call : Call F) : State F :=
  let s := { s with current := { s.current.count call.counted with stop := call.stop } }
  if call.now ≥ s.nextStatsUpdate then
    -- The first call only sets the time of the next update.
    if s.nextStatsUpdate = 0 then { s with nextStatsUpdate := call.now + 60000 }
    else completePeriod call.now s
  else s

/-! ### What is said of it -/

/-- A period: what was counted in it, the last first, and its times. `record` is what was kept of it. -/
structure Period (F : Type) where
  events : List (Stats F)
  start : ℕ
  stop : ℕ
  record : Stats F

/-- The periods completed so far, the last first, and the one that is open. -/
structure History (F : Type) where
  completed : List (Period F)
  events : List (Stats F)
  start : ℕ

def Completes (s : State F) (now : ℕ) : Prop := s.nextStatsUpdate ≠ 0 ∧ s.nextStatsUpdate ≤ now

instance (s : State F) (now : ℕ) : Decidable (Completes s now) := inferInstanceAs (Decidable (_ ∧ _))

def History.next (s : State F) (call : Call F) (h : History F) : History F :=
  if Completes s call.now then
    { completed :=
        { events := call.counted :: h.events, start := h.start, stop := call.stop
          record := { s.current.count call.counted with stop := call.stop } } :: h.completed
      events := []
      start := call.now }
  else { h with events := call.counted :: h.events }

def step (r : State F × History F) (call : Call F) : State F × History F :=
  (backgroundTasks r.1 call, r.2.next r.1 call)

/-- The calls of a process that started at `begun`. -/
def run (begun : ℕ) (calls : List (Call F)) : State F × History F :=
  calls.foldl step (initial, ⟨[], [], begun⟩)

/-- The clock does not go back. -/
def Clock : ℕ → List (Call F) → Prop
  | _, [] => True
  | t, call :: calls => t ≤ call.now ∧ call.now ≤ call.stop ∧ Clock call.stop calls

/-- The start of a record is that of the earliest period. -/
def StartRight (record : Stats F) (periods : List (Period F)) : Prop :=
  ∀ p, periods.getLast? = some p → record.start = p.start

/-- The end of a record is that of the latest period. -/
def EndRight (record : Stats F) (periods : List (Period F)) : Prop :=
  ∀ p, periods.head? = some p → record.stop = p.stop

/-- The sum of a counter over what was counted in the periods. -/
def total {M : Type} [AddCommMonoid M] (φ : Stats F → M) (periods : List (Period F)) : M :=
  ((periods.flatMap Period.events).map φ).sum

/-- The records count what they are to count. -/
structure CountsExact {M : Type} [AddCommMonoid M] (φ : Stats F → M) (calls : List (Call F))
    (r : State F × History F) : Prop where
  alltime : φ r.1.alltime + φ r.1.current = (calls.map fun call => φ call.counted).sum
  fiveMin : φ r.1.fiveMin = total φ (r.2.completed.take 5)
  fifteenMin : φ r.1.fifteenMin = total φ (r.2.completed.take 15)

end

end RbFeeder.Statistics
