import MetricsAgent.Collection.Selection
import MetricsAgent.Console.Markup
import MetricsAgent.Delivery.Uploader
import MetricsAgent.Run.Schedule
import MetricsAgent.Settings.Load

/-!
# Modes

The agent works in one of three modes: it collects and delivers on its schedule until it is asked to
stop, or it collects once and prints the payload, or it tries out its connections.  In each of them
the collector is closed in the end, and so is the session.  A mode that fails in one of the ways that
the agent knows of says so on the console and ends with status one.
-/

namespace MetricsAgent

open Script

/-! ## The console -/

namespace Console

variable {T : Type}

/-- Prints a text with markup to the console, and an ending. -/
def sayThen (ending text : String) : Script T Unit :=
  match Markup.render text with
  | .ok shown => change fun w => w.print .console (shown ++ ending)
  | .error f => fail (.foreign "MarkupError" (some f.message) none)

/-- Prints a line with markup. -/
def say (text : String) : Script T Unit :=
  sayThen "\n" text

/-- Prints the beginning of a line with markup. -/
def begin (text : String) : Script T Unit :=
  sayThen "" text

end Console

/-! ## What is there to work with -/

/-- What the agent finds where it runs: the collectors that are installed, and what the endpoint
answers to each request. -/
structure Site (T : Type) where
  catalogue : Catalogue T
  replies : Nat → Reply T

/-- What the agent is to do. -/
inductive Mode
  | agent
  | dryRun
  | connectionTest
  deriving DecidableEq, Repr

namespace Mode

variable {T : Type} [Seconds T]

/-- The endpoint of the settings. -/
def endpoint (s : Settings) (site : Site T) : Endpoint T :=
  ⟨s.ingest.delivery, site.replies⟩

/-- The schedule of the settings. -/
def schedule (s : Settings) : Except Fault (Schedule T) :=
  Schedule.make (Seconds.ofNumber (.int s.collection.interval))
    (Seconds.ofNumber s.collection.jitter)

/-- Does something with a collector, which is closed in the end. -/
def closing {R : Type} (work : Script T R) : Script T R :=
  work.ensuring Collector.close

/-! ## Work on a schedule -/

/-- Cycles on the schedule of the settings, at most as many as given; the session is closed in the
end. -/
def cycles (s : Settings) (site : Site T) (c : Collector T) (limit : Nat) : Script T Unit :=
  let e := endpoint s site
  Endpoint.closing do
    match schedule s with
    | .ok plan =>
      let _ ← plan.run c (some e.upload) limit
      return ()
    | .error f => throw f

/-- Collects and delivers with a collector until the agent is asked to stop. -/
def serve (l : Settings.Loaded) (site : Site T) (c : Collector T) (limit : Nat) :
    Script T Unit := do
  let s := l.settings
  let engine ← Catalogue.engineName s
  log .info .runner
    ("Starting dbpulse " ++ agentVersion ++ " (database: " ++ engine ++ ", interval: "
      ++ signedText s.collection.interval ++ "s)")
  change (Reporting.describeAgent engine (some s.database.provider.name)
    (some (.int s.collection.interval)) (l.source.map FilePath.text))
  closing (cycles s site c limit)
  log .info .runner "dbpulse stopped"

/-! ## One collection -/

/-- Collects once with a collector and prints the payload. -/
def tryOut (c : Collector T) (out : Stream) : Script T Unit :=
  closing (Cycle.runOnce c out)

/-! ## Connections -/

/-- How a check that has failed and one that has not are marked. -/
def failedMark : String := "[red]FAILED[/red]"

def passedMark : String := "[green]OK[/green]"

/-- The version of the database as it is shown. -/
def shownVersion (v : Option String) : String :=
  (v.filter (!·.isEmpty)).getD "unknown"

/-- Checks the connection to the database. -/
def checkDatabase (engine : String) (c : Collector T) : Script T Unit := do
  Console.begin ("Testing " ++ engine ++ " connection... ")
  c.testConnection.recover fun f => do
    if f.isOrdinary then
      Console.say failedMark
      throw (Collector.asCollectionFault f)
    else throw f
  Console.say passedMark
  Console.say
    ("  Provider: " ++ c.provider ++ ", version: " ++ Markup.escape (shownVersion c.version))

/-- Checks the connection to the endpoint. -/
def checkEndpoint (e : Endpoint T) : Script T Unit := do
  Console.begin ("Testing ingestion endpoint " ++ Markup.escape e.settings.endpoint ++ "... ")
  Endpoint.closing <| e.probe.recover fun f => do
    if f.isDelivery then Console.say failedMark
    throw f
  Console.say passedMark

/-- Checks both connections; the first check that fails ends the test. -/
def checkConnections (s : Settings) (site : Site T) (c : Collector T) : Script T Unit := do
  closing do checkDatabase (← Catalogue.engineName s) c
  checkEndpoint (endpoint s site)

/-! ## Modes -/

/-- Works in a mode, at most as many cycles as given. -/
def work (m : Mode) (l : Settings.Loaded) (site : Site T) (limit : Nat) : Script T Unit := do
  let c ← site.catalogue.create l.settings
  match m with
  | .agent =>
    change World.installHandlers
    serve l site c limit
  | .dryRun => tryOut c .standard
  | .connectionTest =>
    checkConnections l.settings site c
    Console.say "[green]All checks passed[/green]"

/-- The status with which something ends: nought if it succeeds, one if it fails in a way that the
agent knows of.  Other faults are passed on. -/
def status (s : Script T Unit) : Script T Int := do
  match ← s.attempt with
  | .ok () => return 0
  | .error f =>
    if f.isForeign then throw f
    else if f.isLoading then
      Console.say ("[red]Collector error:[/red] " ++ Markup.escape (← tell f))
      return 1
    else
      change (Reporting.capture "oneshot" f [])
      Console.say ("[red]Error:[/red] " ++ Markup.escape (← tell f))
      return 1

/-- Works in a mode and tells the status. -/
def run (m : Mode) (l : Settings.Loaded) (site : Site T) (limit : Nat) : Script T Int :=
  status (m.work l site limit)

end Mode

end MetricsAgent
