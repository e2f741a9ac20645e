import MetricsAgent.Settings.Basic
import MetricsAgent.Value

/-!
# Traces

What the agent does to the world around it, and what it logs, in order.
-/

namespace MetricsAgent

/-! ## Signals -/

/-- The signals that ask the agent to stop. -/
inductive StopSignal
  | interrupt
  | terminate
  deriving DecidableEq, Repr

namespace StopSignal

/-- The number of a signal. -/
def number : StopSignal → Nat
  | .interrupt => 2
  | .terminate => 15

/-- The signals in the order of their numbers. -/
def all : List StopSignal := [.interrupt, .terminate]

def name : StopSignal → String
  | .interrupt => "SIGINT"
  | .terminate => "SIGTERM"

def ofName? (s : String) : Option StopSignal :=
  all.find? (·.name == s)

end StopSignal

/-! ## Events -/

/-- The fields in the head of a message, by their names. -/
abbrev Headers := List (String × String)

/-- Something that the agent does to the world around it. -/
inductive Event
  | configure (config : Value)
  | collect
  | testConnection
  | close
  | upload
  | sessionOpen (timeout : Number) (headers : Headers)
  | request (method url : String) (headers : Headers) (body : Option String)
  | sessionClose
  | sleep (duration : Number)
  | handler (s : StopSignal)
  | fallbackHandler (s : StopSignal)
  | report (call : String) (positional : List Value) (named : List (String × Value))

namespace Event

/-- The name of an event. -/
def name : Event → String
  | .configure _ => "initialize"
  | .collect => "collect"
  | .testConnection => "test_connection"
  | .close => "close"
  | .upload => "upload"
  | .sessionOpen _ _ => "session_open"
  | .request .. => "request"
  | .sessionClose => "session_close"
  | .sleep _ => "sleep"
  | .handler _ => "handler"
  | .fallbackHandler _ => "signal.signal"
  | .report call _ _ => call

/-- Headers as a value. -/
def headersValue (h : Headers) : Value :=
  .record (h.map fun (k, v) => (k, .text v))

/-- What is known of an event beside its name. -/
def details : Event → List Value
  | .configure c => [c]
  | .sessionOpen timeout headers => [.ofNumber timeout, headersValue headers]
  | .request method url headers body =>
    [.text method, .text url, headersValue headers, .ofOption .text body]
  | .sleep d => [.ofNumber d]
  | .handler s => [.text s.name]
  | .fallbackHandler s => [.text s.name]
  | .report _ positional named => [.list positional, .record named]
  | _ => []

/-- A message to the service that errors are reported to. -/
def isReport : Event → Bool
  | .report .. => true
  | _ => false

end Event

/-! ## Logs -/

/-- The parts of the agent that log. -/
inductive LogSource
  | shutdown
  | scheduler
  | registry
  | delivery
  | runner
  | reporting
  deriving DecidableEq, Repr

def LogSource.name : LogSource → String
  | .shutdown => "dbpulse.collectors.shutdown"
  | .scheduler => "dbpulse.collectors.scheduler"
  | .registry => "dbpulse.collectors.registry"
  | .delivery => "dbpulse.uploader.client"
  | .runner => "dbpulse.runner"
  | .reporting => "dbpulse.sentry"

/-- A line of the log. -/
structure LogLine where
  level : LogLevel
  source : LogSource
  message : String
  deriving DecidableEq, Repr

/-- Where the agent prints. -/
inductive Stream
  | standard
  | console
  | given
  deriving DecidableEq, Repr

end MetricsAgent
