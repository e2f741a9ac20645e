import MetricsAgent.Fault
import MetricsAgent.Host.Environment
import MetricsAgent.Payload.Basic
import MetricsAgent.Run.World

/-!
# Error reporting

The agent can report its own faults and the course of its cycles to a service.  Nothing is reported
until reporting was started; until then every function here leaves the world as it is.  Reporting
observes: it changes nothing but the trace.
-/

namespace MetricsAgent.Reporting

variable {T : Type} [Seconds T]

/-- Sends a message to the service. -/
def send (call : String) (positional : List Value) (named : List (String × Value)) (w : World T) :
    World T :=
  w.record (.report call positional named)

/-- Does something if reporting was started. -/
def ifStarted (f : World T → World T) (w : World T) : World T :=
  if w.reporting then f w else w

/-! ## Starting -/

/-- The machine that the agent runs on, as it is reported. -/
structure Machine where
  runtime : String
  system : String

/-- Where reports go: the setting, or else the variable of the environment. -/
def address? (s : ReportingSettings) (env : Environment) : Option String :=
  match s.dsn.filter (!·.isEmpty) with
  | some d => some d
  | none => (env.get? "SENTRY_DSN").filter (!·.isEmpty)

/-- The name of the deployment: the setting, or else the variable of the environment. -/
def deployment (s : ReportingSettings) (env : Environment) : String :=
  match s.environment.filter (!·.isEmpty) with
  | some e => e
  | none => (env.get? "DBPULSE_ENV").getD "production"

/-- Starts reporting if the settings ask for it and say where to; tells whether it was started. -/
def start (s : ReportingSettings) (env : Environment) (m : Machine) (w : World T) : Bool × World T :=
  if !s.enabled then (false, w)
  else
    match address? s env with
    | none =>
      (false, w.logLine .warning .reporting
        "Sentry is enabled but no DSN is configured; error reporting is off")
    | some dsn =>
      let w := send "sentry.init" []
        [("dsn", .text dsn),
          ("traces_sample_rate", Value.ofNumber s.sampleRate),
          ("send_default_pii", .bool false), ("environment", .text (deployment s env)),
          ("release", .text ("dbpulse@" ++ agentVersion)),
          ("integrations", .list [.text "AsyncioIntegration", .text "LoggingIntegration"])] w
      let w := send "sentry.set_tag" [.text "dbpulse.version", .text agentVersion] [] w
      let w := send "sentry.set_tag" [.text "runtime.python", .text m.runtime] [] w
      let w := send "sentry.set_tag" [.text "host.os", .text m.system] [] w
      (true, { w with reporting := true }.logLine .debug .reporting "Sentry initialized")

/-- Whether a report of a fault is kept: an interruption by the user is not. -/
def keeps (fault : Option Fault) : Bool :=
  match fault with
  | some f => f.name != "KeyboardInterrupt"
  | none => true

/-! ## Reports -/

/-- Attaches what is known of the agent to later reports. -/
def describeAgent (engine : String) (provider : Option String) (interval : Option Number)
    (source : Option String) : World T → World T :=
  ifStarted fun w =>
    let w := send "sentry.set_tag" [.text "dbpulse.database_type", .text engine] [] w
    let w := match provider with
      | some p => send "sentry.set_tag" [.text "dbpulse.provider", .text p] [] w
      | none => w
    let context : List (String × Value) :=
      [("database_type", .text engine)]
        ++ (provider.map fun p => ("provider", Value.text p)).toList
        ++ (interval.map fun i => ("interval", Value.ofNumber i)).toList
        ++ (source.map fun s => ("config_path", Value.text s)).toList
    send "sentry.set_context" [.text "dbpulse", .record context] [] w

/-- Reports a fault, with the stage at which it arose. -/
def capture (stage : String) (f : Fault) (extra : Entries) : World T → World T :=
  ifStarted fun w =>
    let context := Entries.ofList
      ([(.text "stage", .text stage), (.text "error_type", .text f.name)] ++ extra)
    let w := send "sentry.new_scope" [] [] w
    let w := send "sentry.scope.set_tag" [.text "cycle.stage", .text stage] [] w
    let w := send "sentry.scope.set_context" [.text "cycle_error", .map context] [] w
    send "sentry.capture_exception" [.text f.named] [] w

/-- Leaves a note that goes along with the next report. -/
def leaveNote (message category level : String) (data : Value) : World T → World T :=
  ifStarted <| send "sentry.add_breadcrumb" []
    [("message", .text message), ("category", .text category), ("level", .text level), ("data", data)]

/-- Reports the course of a cycle. -/
def recordCycle (success : Bool) (stage : String) (duration : Number) (collection : Option Number) :
    World T → World T :=
  ifStarted fun w =>
    let tags := Value.record
      [("success", .text (if success then "true" else "false")), ("stage", .text stage)]
    let unit := ("unit", Value.text "millisecond")
    let w := send "sentry.metrics.count" [.text "cycle.total", .int 1] [("attributes", tags)] w
    let w := send "sentry.metrics.distribution" [.text "cycle.duration_ms", Value.ofNumber duration]
      [unit, ("attributes", tags)] w
    let w := match collection with
      | some c => send "sentry.metrics.distribution" [.text "cycle.collect_ms", Value.ofNumber c] [unit] w
      | none => w
    if success then w
    else send "sentry.metrics.count" [.text "cycle.errors", .int 1]
      [("attributes", .record [("stage", .text stage)])] w

end MetricsAgent.Reporting
