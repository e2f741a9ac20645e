import MetricsAgent.Collection.Collector
import MetricsAgent.Reporting

/-!
# Cycles

One cycle collects a payload and delivers it.  A cycle that fails in collecting or in delivering says
so in its result and is counted under the stage at which it failed; every cycle that comes to a
result is counted once, as a success or under one of the two stages.
-/

namespace MetricsAgent

open Script

/-! ## Results -/

/-- How far a cycle got. -/
inductive CycleStage
  | collect
  | upload
  | done
  deriving DecidableEq, Repr

def CycleStage.name : CycleStage → String
  | .collect => "collect"
  | .upload => "upload"
  | .done => "done"

/-- The result of a cycle: how far it got, why it got no further, and its times in milliseconds. -/
structure CycleResult (T : Type) where
  stage : CycleStage
  error : Option String
  collection : Option T
  duration : T
  started : DateTime

/-- A cycle has succeeded if it got through all stages. -/
def CycleResult.success {T : Type} (r : CycleResult T) : Bool :=
  r.stage == .done

/-- A result by its parts. -/
def CycleResult.toValue {T : Type} [Seconds T] (r : CycleResult T) : Value :=
  let number (t : T) : Value := .ofNumber (Seconds.toNumber t)
  .record [("success", .bool r.success), ("stage", .text r.stage.name),
    ("error", .ofOption .text r.error), ("collection_ms", .ofOption number r.collection),
    ("duration_ms", number r.duration), ("timestamp", .time r.started)]

/-- Where payloads are delivered to. -/
abbrev Destination (T : Type) := Collected → Script T Unit

namespace CycleTotals

variable {T : Type}

/-- A cycle has begun at a time. -/
def begun (t : CycleTotals T) (started : DateTime) : CycleTotals T :=
  { t with total := t.total + 1, last := some started }

/-- A cycle has ended at a stage. -/
def ended (t : CycleTotals T) (stage : CycleStage) (started : DateTime) : CycleTotals T :=
  match stage with
  | .collect => { t with collectFailures := t.collectFailures + 1 }
  | .upload => { t with uploadFailures := t.uploadFailures + 1 }
  | .done => { t with succeeded := t.succeeded + 1, lastSuccess := some started }

/-- How many durations are kept. -/
def keptDurations : Nat := 1000

/-- Keeps a duration; the oldest one goes when there are too many. -/
def lasted (t : CycleTotals T) (duration : T) : CycleTotals T :=
  let all := t.durations ++ [duration]
  { t with durations := all.drop (all.length - keptDurations) }

/-- The average of the durations that are kept. -/
def average [Seconds T] (t : CycleTotals T) : T :=
  match t.durations with
  | [] => Seconds.zero
  | all => Seconds.divNat (all.foldl Seconds.add Seconds.zero) all.length

/-- The totals by their names. -/
def toValue [Seconds T] (t : CycleTotals T) : Value :=
  .record [("running", .bool t.running), ("cycles_total", .int t.total),
    ("cycles_succeeded", .int t.succeeded), ("collect_failures", .int t.collectFailures),
    ("upload_failures", .int t.uploadFailures), ("last_cycle", .ofOption .time t.last),
    ("last_success", .ofOption .time t.lastSuccess),
    ("average_cycle_ms", .ofNumber (Seconds.toNumber t.average))]

end CycleTotals

/-! ## Cycles -/

namespace Cycle

variable {T : Type} [Seconds T]

/-- Changes the totals of the cycles. -/
def changeTotals (f : CycleTotals T → CycleTotals T) : Script T Unit :=
  change fun w => { w with cycles := f w.cycles }

/-- The milliseconds since a time. -/
def since (started : T) : Script T T := do
  return Seconds.milliseconds (Seconds.sub (← world).now started)

/-- Ends a cycle: its duration is kept and reported. -/
def conclude (started : T) (r : CycleResult T) : Script T (CycleResult T) := do
  let duration ← since started
  let r := { r with duration := duration }
  changeTotals (·.lasted duration)
  change (Reporting.recordCycle r.success r.stage.name (Seconds.toNumber duration)
    (r.collection.map Seconds.toNumber))
  return r

/-- Counts a cycle that got to a stage. -/
def count (stage : CycleStage) (stamp : DateTime) : Script T Unit :=
  changeTotals (·.ended stage stamp)

/-- Ends a cycle that failed at a stage: it is counted, and the fault is told, logged and reported.
The words of the fault give the line of the log and the error of the result. -/
def failed (stage : CycleStage) (f : Fault) (extra : Entries) (line error : String → String)
    (started : T) (r : CycleResult T) : Script T (CycleResult T) := do
  count stage r.started
  let words ← tell f
  log .error .scheduler (line words)
  change (Reporting.capture stage.name f extra)
  conclude started { r with error := some (error words) }

/-- What the line of the log begins with if a collection failed. -/
def collectionFailed (stage : CollectionStage) : String :=
  "Collection failed (" ++ stage.kind ++ "): "

/-- The part of a cycle in which the payload is delivered. -/
def deliver (d : Option (Destination T)) (payload : Collected) (started : T)
    (r : CycleResult T) : Script T (CycleResult T) := do
  match d with
  | none =>
    count .upload r.started
    log .error .scheduler "Upload skipped: no uploader configured"
    conclude started { r with error := some "No uploader configured" }
  | some send =>
    match ← (send payload).attempt with
    | .ok () =>
      count .done r.started
      let r ← conclude started { r with stage := .done }
      log .info .scheduler
        ("Metrics collected in "
          ++ Decimal.fixed 0 (Seconds.shown (r.collection.getD Seconds.zero))
          ++ "ms, cycle completed in " ++ Decimal.fixed 0 (Seconds.shown r.duration) ++ "ms")
      return r
    | .error f =>
      if f.isDelivery then failed .upload f [] ("Upload failed: " ++ ·) id started r
      else if f.isOrdinary then
        failed .upload f [] (fun _ => "Unexpected error during upload") (f.name ++ ": " ++ ·) started r
      else throw f

/-- One cycle.  Faults of collection and of delivery end up in its result, any other fault of the
collector's bookkeeping is passed on, and so is what gets in the way of telling a fault. -/
def run (c : Collector T) (d : Option (Destination T)) : Script T (CycleResult T) := do
  let w ← world
  let r : CycleResult T := ⟨.collect, none, none, Seconds.zero, w.clock⟩
  changeTotals (·.begun w.clock)
  change (Reporting.leaveNote "Collection cycle started" "scheduler" "info" .null)
  match ← c.trackedCollect.attempt with
  | .ok payload =>
    let collection ← since w.now
    deliver d payload w.now { r with stage := .upload, collection := some collection }
  | .error f =>
    match f.stage? with
    | some stage =>
      failed .collect f [(.text "kind", .text stage.kind)] (collectionFailed stage ++ ·) id w.now r
    | none => throw f

/-! ## Dry runs -/

/-- Collects once and prints the payload instead of delivering it. -/
def runOnce (c : Collector T) (out : Stream) : Script T Unit := do
  log .info .scheduler "Running single collection (dry run)"
  match ← c.trackedCollect.attempt with
  | .error f =>
    match f.stage? with
    | some stage =>
      logFault .error .scheduler (collectionFailed stage) f
      let words ← tell f
      throw ((Fault.scheduling ("Collection failed: " ++ words) none).because f)
    | none => throw f
  | .ok payload =>
    match payload.format Json.indented with
    | .ok text => change fun w => w.print out (text ++ "\n")
    | .error e =>
      throw ((Fault.scheduling ("Could not format payload: " ++ e.message) none).because
        e.toFault)

end Cycle

end MetricsAgent
