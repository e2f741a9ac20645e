import MetricsAgent.Run.Cycle

/-!
# The schedule of cycles

After a random delay the first cycle begins, and from then on one cycle begins each time an interval
has passed.  A cycle that takes longer than the interval is not interrupted: the ticks it misses are
left out, and the schedule starts anew from its end.  The request to stop is heeded between cycles
only, and there at once.
-/

namespace MetricsAgent

open Script

/-- The interval between the beginnings of cycles, and the longest delay before the first. -/
structure Schedule (T : Type) where
  interval : T
  maxDelay : T

/-- How a run has ended. -/
inductive RunEnd
  | beforeFirst
  | stopped
  | unfinished
  deriving DecidableEq, Repr

namespace Schedule

variable {T : Type} [Seconds T]

/-- The longest delay before the first cycle unless another is asked for. -/
def defaultDelay : Number := .float (Binary64.ofInt 5)

/-- A schedule: its interval has to be positive and its delay must not be negative. -/
def make (interval maxDelay : T) : Except Fault (Schedule T) :=
  let refused (what : String) (t : T) : Fault :=
    .foreign "ValueError" (some (what ++ ", got " ++ (Seconds.toNumber t).text)) none
  if Seconds.le interval Seconds.zero then .error (refused "interval must be positive" interval)
  else if Seconds.lt maxDelay Seconds.zero then
    .error (refused "max_jitter must not be negative" maxDelay)
  else .ok ⟨interval, maxDelay⟩

/-- The delay before the first cycle: a share of the longest one. -/
def delay (s : Schedule T) (w : World T) : T :=
  if Seconds.isPositive s.maxDelay then Seconds.mul s.maxDelay w.jitterFraction else Seconds.zero

/-- The tick after a tick at which a cycle begins: one interval later, counted from now if that has
passed already. -/
def tickAfter (s : Schedule T) (tick now : T) : T :=
  let next := Seconds.add tick s.interval
  if Seconds.le next now then Seconds.add now s.interval else next

/-- Waits for a tick; tells whether the agent was asked to stop instead.  A tick that has come
already is not waited for. -/
def awaitTick (tick : T) : Script T Bool := do
  let w ← world
  let remaining := Seconds.sub tick w.now
  if Seconds.isPositive remaining then waitForStop remaining else return w.isStopping

/-- Runs a cycle of which any ordinary fault is logged and nothing more. -/
def absorb {R : Type} (cycle : Script T R) : Script T Unit := do
  match ← cycle.attempt with
  | .ok _ => return ()
  | .error f =>
    if f.isOrdinary then log .error .scheduler "Unexpected error in collection cycle" else throw f

/-- Runs cycles from a tick on, at most as many as given. -/
def runCycles {R : Type} (s : Schedule T) (cycle : Script T R) : Nat → T → Script T RunEnd
  | 0, _ => return .unfinished
  | left + 1, tick => do
    if ← awaitTick tick then return .stopped
    let next := s.tickAfter tick (← world).now
    absorb cycle
    runCycles s cycle left next

/-- The course of a run: the delay, then cycles until the agent is asked to stop. -/
def course {R : Type} (s : Schedule T) (cycle : Script T R) (limit : Nat) : Script T RunEnd := do
  let delay := s.delay (← world)
  log .info .scheduler
    ("Scheduler starting (interval " ++ Decimal.general 6 false (Seconds.shown s.interval)
      ++ "s, startup jitter " ++ Decimal.fixed 2 (Seconds.shown delay) ++ "s)")
  if ← waitForStop delay then
    log .info .scheduler "Shutdown requested before first cycle"
    return .beforeFirst
  let reached ← s.runCycles cycle limit (← world).now
  if reached = .stopped then
    log .info .scheduler
      ("Scheduler stopped after " ++ decimalText (← world).cycles.total ++ " cycles")
  return reached

/-- Notes whether a run is going on. -/
def setRunning (running : Bool) : Script T Unit :=
  Cycle.changeTotals fun t => { t with running := running }

/-- Runs cycles until the agent is asked to stop, at most as many as given; only one run may be going
on at a time. -/
def run (s : Schedule T) (c : Collector T) (d : Option (Destination T)) (limit : Nat) :
    Script T RunEnd := do
  if (← world).cycles.running then
    throw (.scheduling "Scheduler is already running" none)
  setRunning true
  (s.course (Cycle.run c d) limit).ensuring (setRunning false)

end Schedule

end MetricsAgent
