import MetricsAgent.Payload.Document
import MetricsAgent.Run.Activity

/-!
# Collectors

A collector gathers the metrics of one database.  It is given by who it is and by what each call of
it does; the world keeps what it has been configured with and its running totals.  A collection that
fails in any ordinary way fails with a fault of collection.
-/

namespace MetricsAgent

open Script

/-- What one call for metrics does: after some time it may ask the agent to stop, and then it returns
what it has gathered by then or fails. -/
structure Collection (T : Type) where
  delay : T
  stopReason : Option String
  result : DateTime → Except Fault Collected

/-- A collector: who it is, and what happens when it is created, configured, tested and called. -/
structure Collector (T : Type) where
  className : String
  name : String
  provider : String
  version : Option String
  creationFault : Option Fault
  configurationFault : Option Fault
  connectionFault : Option Fault
  trackingFault : Option Fault
  collections : Nat → Collection T

namespace Collector

variable {T : Type} [Seconds T]

/-- Who the collector is, and its running totals. -/
def stats (c : Collector T) (t : CollectionTotals) : Value :=
  .record [("name", .text c.name), ("provider", .text c.provider),
    ("version", .ofOption .text c.version), ("total_collections", .int t.total),
    ("total_failures", .int t.failures), ("consecutive_failures", .int t.consecutiveFailures),
    ("last_collection", .ofOption .time t.last), ("success_rate", .ofNumber t.successRate)]

/-- Fails if there is a fault. -/
def failWith (f : Option Fault) : Script T Unit :=
  match f with
  | some f => fail f
  | none => succeed ()

/-- Changes what is kept of the collector. -/
def changeState (f : CollectorState → CollectorState) : Script T Unit :=
  change fun w => { w with collector := f w.collector }

/-- Changes the running totals. -/
def changeTotals (f : CollectionTotals → CollectionTotals) : Script T Unit :=
  changeState fun s => { s with totals := f s.totals }

/-- Changes the running totals unless they were begun anew since there were so many resets. -/
def changeTotalsSince (resets : Nat) (f : CollectionTotals → CollectionTotals) : Script T Unit :=
  changeState fun s => if s.resets = resets then { s with totals := f s.totals } else s

/-- Hands the settings of the database to the collector. -/
def configure (c : Collector T) (config : Value) : Script T Unit := do
  record (.configure config)
  changeState fun s => { s with initialized := true, config := config }
  failWith c.configurationFault

/-- Releases what the collector holds. -/
def close : Script T Unit := do
  record .close
  changeState fun s => { s with initialized := false }

/-- Checks that the database can be reached. -/
def testConnection (c : Collector T) : Script T Unit := do
  record .testConnection
  failWith c.connectionFault

/-- Calls for metrics. -/
def collect (c : Collector T) : Script T Collected := do
  record .collect
  let call := c.collections (← world).collector.calls
  changeState fun s => { s with calls := s.calls + 1 }
  sleep call.delay
  requestStop call.stopReason
  match call.result (← world).clock with
  | .ok p => return p
  | .error f => throw f

/-- A fault as a fault of collection: any that is not one already arose inside the collector.  What
gets in the way of telling it takes its place. -/
def asCollectionFault (f : Fault) : Fault :=
  if f.isCollection then f
  else
    match f.silence? with
    | none => (Fault.collection .internal f.named none).because f
    | some g => g

/-- Calls for metrics and keeps the running totals.  What the call comes to goes into the totals that
it began in.  A collector whose bookkeeping fails counts nothing. -/
def trackedCollect (c : Collector T) : Script T Collected := do
  if c.trackingFault.isSome then record .collect
  failWith c.trackingFault
  changeTotals CollectionTotals.begun
  let resets := (← world).collector.resets
  match ← c.collect.attempt with
  | .ok p =>
    let now := (← world).clock
    changeTotalsSince resets fun t => t.succeeded now
    return p
  | .error f =>
    if f.isOrdinary then
      changeTotalsSince resets CollectionTotals.failed
      throw (asCollectionFault f)
    else throw f

/-- Begins the running totals anew. -/
def resetTotals : Script T Unit :=
  changeState fun s => { s with totals := .zero, resets := s.resets + 1 }

end Collector

end MetricsAgent
