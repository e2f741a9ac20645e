import MetricsAgent.Fault
import MetricsAgent.Run.World

/-!
# Activities

A course of action over a state either ends with a result or pauses until a time and goes on from
whatever the state is then.  A pause can be alert: then it also ends when the agent is asked to stop,
and it may have no other end.  While one activity pauses others may act, so an activity is given as
what it does between its pauses; and it may be abandoned instead of going on.  A script is an activity
over the world that may fail.
-/

namespace MetricsAgent

/-! ## Activities -/

/-- A course of action: ended, or paused, until a time if one is given.  It is told on resuming whether
the pause was cut short.  If it is abandoned in a pause it has its own way to go on. -/
inductive Activity (T S R : Type)
  | done (result : R) (state : S)
  | pause (due : Option T) (alert : Bool) (state : S) (resume : Bool → S → Activity T S R)
      (abandon : S → Activity T S R)

namespace Activity

variable {T S R Q : Type}

/-- Goes on with a further activity. -/
def andThen (f : R → S → Activity T S Q) : Activity T S R → Activity T S Q
  | .done r s => f r s
  | .pause t alert s k abandon =>
    .pause t alert s (fun early s => (k early s).andThen f) fun s => (abandon s).andThen f

/-- Carries an activity out that is not abandoned, given how pauses go by. -/
def finish (pass : Bool → S → Option T → Bool × S) : Activity T S R → R × S
  | .done r s => (r, s)
  | .pause t alert s k _ => (k (pass alert s t).1 (pass alert s t).2).finish pass

theorem finish_andThen (pass : Bool → S → Option T → Bool × S) (a : Activity T S R)
    (f : R → S → Activity T S Q) :
    (a.andThen f).finish pass = (f (a.finish pass).1 (a.finish pass).2).finish pass := by
  induction a with
  | done r s => rfl
  | pause t alert s k _ ih => exact ih (pass alert s t).1 (pass alert s t).2

end Activity

/-! ## Scripts -/

/-- An activity over the world that may fail. -/
def Script (T R : Type) := World T → Activity T (World T) (Except Fault R)

namespace Script

variable {T R Q : Type}

/-- Ends at once. -/
def succeed (r : R) : Script T R := fun w => .done (.ok r) w

/-- Fails at once. -/
def fail (f : Fault) : Script T R := fun w => .done (.error f) w

/-- Goes on with what a script found. -/
def bind (s : Script T R) (f : R → Script T Q) : Script T Q := fun w =>
  (s w).andThen fun r w =>
    match r with
    | .ok r => f r w
    | .error e => .done (.error e) w

/-- Goes on after a failure. -/
def recover (s : Script T R) (f : Fault → Script T R) : Script T R := fun w =>
  (s w).andThen fun r w =>
    match r with
    | .ok r => .done (.ok r) w
    | .error e => f e w

instance : Monad (Script T) where
  pure := succeed
  bind := bind

instance : MonadExceptOf Fault (Script T) where
  throw := fail
  tryCatch := recover

/-- Looks at the world. -/
def world : Script T (World T) := fun w => .done (.ok w) w

/-- Changes the world. -/
def change (f : World T → World T) : Script T Unit := fun w => .done (.ok ()) (f w)

/-- The outcome of a script, which itself does not fail. -/
def attempt (s : Script T R) : Script T (Except Fault R) := fun w =>
  (s w).andThen fun r w => .done (.ok r) w

/-- Does something in the end, whether or not the script fails. -/
def ensuring (s : Script T R) (last : Script T Unit) : Script T R := do
  let outcome ← s.attempt
  last
  match outcome with
  | .ok r => succeed r
  | .error e => fail e

/-- What a script fails with that is abandoned in a pause. -/
def abandoned : Fault := .foreign "CancelledError" none none

variable [Seconds T]

/-- Lets some seconds pass. -/
def sleep (duration : T) : Script T Unit := fun w =>
  if Seconds.isPositive duration then
    .pause (some (Seconds.add w.now duration)) false w (fun _ w => .done (.ok ()) w) (fail abandoned)
  else .done (.ok ()) w

/-- Waits for the request to stop, for some seconds at most; tells whether it was made. -/
def waitForStop (timeout : T) : Script T Bool := fun w =>
  if w.isStopping then .done (.ok true) w
  else if Seconds.le timeout Seconds.zero then .done (.ok false) w
  else
    .pause (some (Seconds.add w.now timeout)) true w (fun early w => .done (.ok early) w)
      (fail abandoned)

omit [Seconds T] in
/-- Waits for the request to stop for as long as it takes; tells that it was made. -/
def awaitStop : Script T Bool := fun w =>
  if w.isStopping then .done (.ok true) w
  else .pause none true w (fun early w => .done (.ok early) w) (fail abandoned)

/-- Records an event. -/
def record (e : Event) : Script T Unit :=
  change fun w => w.record e

/-- Adds a line to the log. -/
def log (level : LogLevel) (source : LogSource) (message : String) : Script T Unit :=
  change fun w => w.logLine level source message

/-- Tells a fault in words; what gets in the way of that is a fault itself. -/
def tell (f : Fault) : Script T String :=
  match f.silence? with
  | none => succeed f.text
  | some g => fail g

/-- Adds a line to the log that ends in the words of a fault. -/
def logFault (level : LogLevel) (source : LogSource) (message : String) (f : Fault) : Script T Unit :=
  change fun w => w.logFault level source message f

/-- Asks the agent to stop, if a reason is given. -/
def requestStop (reason : Option String) : Script T Unit :=
  match reason with
  | some r => change fun w => w.requestStop r
  | none => succeed ()

/-- Carries a script out while nothing else goes on. -/
def run (s : Script T R) (w : World T) : Except Fault R × World T :=
  (s w).finish World.pause

end Script

end MetricsAgent
