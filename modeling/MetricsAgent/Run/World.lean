import MetricsAgent.Calendar.Basic
import MetricsAgent.Fault
import MetricsAgent.Run.Seconds
import MetricsAgent.Run.Trace

/-!
# The world of a run

What the agent keeps while it runs, and what happens to it from outside: the clock, the request to
stop, appointments at which somebody will make that request, and counts of what was done so far.
The request to stop is made once: who asks first gives the reason, and later requests change nothing.
-/

namespace MetricsAgent

/-! ## Parts -/

/-- A time at which the agent will be asked to stop; of two at one time the lower ticket goes
first. -/
structure Appointment (T : Type) where
  due : T
  ticket : Nat
  reason : String

/-- Running totals of a collector. -/
structure CollectionTotals where
  total : Nat
  failures : Nat
  consecutiveFailures : Nat
  last : Option DateTime
  deriving DecidableEq

namespace CollectionTotals

def zero : CollectionTotals := ⟨0, 0, 0, none⟩

/-- One more collection has begun. -/
def begun (t : CollectionTotals) : CollectionTotals :=
  { t with total := t.total + 1 }

/-- The collection has failed. -/
def failed (t : CollectionTotals) : CollectionTotals :=
  { t with failures := t.failures + 1, consecutiveFailures := t.consecutiveFailures + 1 }

/-- The collection has succeeded at a time. -/
def succeeded (t : CollectionTotals) (at_ : DateTime) : CollectionTotals :=
  { t with consecutiveFailures := 0, last := some at_ }

/-- The share of collections that did not fail; zero before the first. -/
def successRate (t : CollectionTotals) : Number :=
  if t.total = 0 then .float 0
  else .float (Binary64.ofInt 1 - Binary64.ofRatio false t.failures t.total)

end CollectionTotals

/-- What a collector has been given and what it has done; `resets` is how often its running totals
were begun anew. -/
structure CollectorState where
  initialized : Bool
  config : Value
  totals : CollectionTotals
  calls : Nat
  resets : Nat

/-- A collector before its first use. -/
def CollectorState.fresh : CollectorState := ⟨false, .map [], .zero, 0, 0⟩

/-- The connection to the endpoint. -/
inductive Session
  | absent
  | opened
  | closed
  deriving DecidableEq, Repr

/-- Totals of the cycles of collecting and delivering. -/
structure CycleTotals (T : Type) where
  running : Bool
  total : Nat
  succeeded : Nat
  collectFailures : Nat
  uploadFailures : Nat
  last : Option DateTime
  lastSuccess : Option DateTime
  durations : List T

def CycleTotals.zero {T : Type} : CycleTotals T := ⟨false, 0, 0, 0, 0, none, none, []⟩

/-! ## The world -/

/-- The world of a run.  Trace and log have their newest entry first; `epoch` is the time of day, in
microseconds since 1970, at which the clock stands at zero.  `stop` is the reason of the request to
stop and `stopTime` when it was made.  The interpreter still has to run the handlers of the signals in
`pending`, and the loop to ask for the reasons in `deferred`, the first one first. -/
structure World (T : Type) where
  now : T
  epoch : Int
  trace : List (T × Event)
  log : List LogLine
  printed : List (Stream × String)
  stop : Option String
  stopTime : Option T
  agenda : List (Appointment T)
  tickets : Nat
  signals : List (StopSignal × T)
  handled : List StopSignal
  fallbackHandlers : Bool
  pending : List StopSignal
  deferred : List String
  jitterFraction : T
  session : Session
  ownsSession : Bool
  requests : Nat
  deliveries : Nat
  collector : CollectorState
  cycles : CycleTotals T
  reporting : Bool

namespace World

variable {T : Type} [Seconds T]

open Seconds

/-- The beginning of a run. -/
def start (epoch : Int) : World T :=
  { now := zero, epoch := epoch, trace := [], log := [], printed := [], stop := none,
    stopTime := none, agenda := [], tickets := 0, signals := [], handled := [],
    fallbackHandlers := false, pending := [], deferred := [], jitterFraction := zero,
    session := .absent, ownsSession := true, requests := 0, deliveries := 0, collector := .fresh,
    cycles := .zero, reporting := false }

/-- The time of day. -/
def clock (w : World T) : DateTime :=
  let seconds : Rat := ((toNumber w.now).toRat?).getD 0
  DateTime.ofLocalMicros (w.epoch + DateTime.microsOfSeconds seconds) (some 0)

/-- Whether the agent was asked to stop. -/
def isStopping (w : World T) : Bool :=
  w.stop.isSome

/-! ## What is recorded -/

/-- Something happens now. -/
def record (w : World T) (e : Event) : World T :=
  { w with trace := (w.now, e) :: w.trace }

/-- Adds a line to the log. -/
def logLine (w : World T) (level : LogLevel) (source : LogSource) (message : String) : World T :=
  { w with log := ⟨level, source, message⟩ :: w.log }

/-- Adds a line to the log that ends in the words of a fault; there is none if it cannot be told. -/
def logFault (w : World T) (level : LogLevel) (source : LogSource) (message : String) (f : Fault) :
    World T :=
  match f.silence? with
  | none => w.logLine level source (message ++ f.text)
  | some _ => w

/-- Prints a text. -/
def print (w : World T) (s : Stream) (text : String) : World T :=
  { w with printed := (s, text) :: w.printed }

/-! ## The request to stop -/

/-- Asks the agent to stop. -/
def requestStop (w : World T) (reason : String) : World T :=
  match w.stop with
  | some _ => w
  | none =>
    { w with stop := some reason, stopTime := some w.now }.logLine .info .shutdown
      ("Shutdown requested (" ++ reason ++ ")")

omit [Seconds T] in
theorem stop_requestStop (w : World T) (reason : String) :
    (w.requestStop reason).stop = some (w.stop.getD reason) := by
  unfold requestStop
  cases h : w.stop <;> simp [logLine, h]

/-! ## Appointments -/

/-- Whether the first of two appointments comes first. -/
def Appointment.before (a b : Appointment T) : Bool :=
  lt a.due b.due || (!lt b.due a.due && a.ticket < b.ticket)

/-- Puts an appointment in its place. -/
def insertAppointment (a : Appointment T) : List (Appointment T) → List (Appointment T)
  | [] => [a]
  | b :: rest => if Appointment.before a b then a :: b :: rest else b :: insertAppointment a rest

/-- Takes the next ticket. -/
def takeTicket (w : World T) : Nat × World T :=
  (w.tickets, { w with tickets := w.tickets + 1 })

/-- Makes an appointment. -/
def appoint (w : World T) (due : T) (reason : String) : World T :=
  let (ticket, w) := w.takeTicket
  { w with agenda := insertAppointment ⟨due, ticket, reason⟩ w.agenda }

/-- Moves the clock to a time that is not before now. -/
def moveTo (w : World T) (t : T) : World T :=
  { w with now := later w.now t }

/-- Keeps the first appointment. -/
def keepFirst (w : World T) : World T :=
  match w.agenda with
  | [] => w
  | a :: rest => ({ w with agenda := rest }.moveTo a.due).requestStop a.reason

/-- Keeps the appointments that satisfy a test, up to the first that does not. -/
def keepWhile (p : Appointment T → Bool) (w : World T) : World T :=
  (w.agenda.takeWhile p).foldl (fun w _ => w.keepFirst) w

/-- Lets time pass until a given time, keeping the appointments on the way. -/
def passTo (w : World T) (t : T) : World T :=
  (w.keepWhile fun a => le a.due t).moveTo t

/-- Keeps appointments one after the other until the agent is asked to stop. -/
def keepUntilStop : List (Appointment T) → World T → World T
  | [], w => w
  | _ :: rest, w => if w.isStopping then w else keepUntilStop rest w.keepFirst

/-- Waits for the request to stop, until a given time at most; says whether it was made in time.
Appointments at that very time count if their ticket is lower than that of the waiting. -/
def awaitStop (w : World T) (until_ : T) (ticket : Nat) : Bool × World T :=
  let inTime := w.agenda.takeWhile fun a => lt a.due until_ || (le a.due until_ && a.ticket < ticket)
  let w := keepUntilStop inTime w
  if w.isStopping then (true, w) else (false, w.passTo until_)

/-- Waits for the request to stop for as long as appointments remain. -/
def awaitRequest (w : World T) : World T :=
  keepUntilStop w.agenda w

/-- Lets a pause go by while nothing else is going on; says whether it was cut short.  Only a pause
that is alert to the request to stop is. -/
def pass (alert : Bool) (w : World T) (due : T) : Bool × World T :=
  let (ticket, w) := w.takeTicket
  if alert then w.awaitStop due ticket else (false, w.passTo due)

/-- Lets a pause go by that need not have a time at which it ends; then it ends with the request to
stop. -/
def pause (alert : Bool) (w : World T) (due : Option T) : Bool × World T :=
  match due with
  | some t => w.pass alert t
  | none =>
    let w := w.takeTicket.2.awaitRequest
    (w.isStopping, w)

/-! ## Signals -/

/-- Installs a handler for each signal that asks the agent to stop; signals that are on their way
become appointments. -/
def installHandlers (w : World T) : World T :=
  StopSignal.all.foldl (fun w s =>
    let w := w.record (if w.fallbackHandlers then .fallbackHandler s else .handler s)
    let w := { w with handled := w.handled ++ [s] }
    let w := (w.signals.filter (·.1 == s)).foldl (fun w (_, t) => w.appoint (later w.now t) s.name) w
    w.logLine .debug .shutdown ("Installed handler for " ++ s.name)) w

/-- A signal arrives.  A handler of the loop leaves the call to ask the agent to stop to it; where the
loop has none, the signal is marked for the interpreter to run the handler of it. -/
def receiveSignal (w : World T) (s : StopSignal) : World T :=
  if w.handled.contains s then
    if w.fallbackHandlers then { w with pending := s :: w.pending }
    else { w with deferred := w.deferred ++ [s.name] }
  else w

/-- The signals that are marked, in the order of their numbers; in which order they arrived, and how
often, has left no trace. -/
def marked (w : World T) : List StopSignal :=
  StopSignal.all.filter w.pending.contains

/-- The interpreter runs the handlers of the signals that are marked.  Each of them leaves a call to the
loop. -/
def runHandlers (w : World T) : World T :=
  { w with pending := [], deferred := w.deferred ++ w.marked.map StopSignal.name }

/-- The loop makes the first of the calls that were left to it. -/
def makeCall (w : World T) : World T :=
  match w.deferred with
  | [] => w
  | reason :: rest => { w with deferred := rest }.requestStop reason

/-- The loop makes all calls that were left to it. -/
def makeCalls (w : World T) : World T :=
  w.deferred.foldl (fun w _ => w.makeCall) w

/-- All handlers have run, and all calls were made. -/
def settle (w : World T) : World T :=
  w.runHandlers.makeCalls

/-- A signal arrives, and what comes of it is done before anything else. -/
def deliverSignal (w : World T) (s : StopSignal) : World T :=
  (w.receiveSignal s).settle

end World

end MetricsAgent
