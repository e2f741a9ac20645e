import MetricsAgent.Command.Mode
import MetricsAgent.Command.Options

/-!
# Jobs

A command line either makes a job, which is a mode to work in with the settings that were loaded for
it, or it comes to an end before that: it asks for words only, it cannot be understood, or there are
no usable settings.  What is wrong with the settings is told on the console.
-/

namespace MetricsAgent.Command

open Script

/-! ## Jobs -/

/-- What the command line says about settings goes over everything else. -/
def overrides (interval : Option Int) : Entries :=
  match interval with
  | none => []
  | some n => [(.text "collection", .map [(.text "interval", .int n)])]

/-- The mode that options ask for; nothing if they ask for two. -/
def Options.mode? (o : Options) : Option Mode :=
  match o.dryRun, o.testConnection with
  | true, true => none
  | true, false => some .dryRun
  | false, true => some .connectionTest
  | false, false => some .agent

/-- A mode to work in, with its settings and with what is asked for about the log. -/
structure Job where
  mode : Mode
  loaded : Settings.Loaded
  verbose : Bool
  jsonLogs : Bool

/-- Why there is no job. -/
inductive Stop
  | status (n : Int)
  | usage (f : UsageFault)
  | settings (f : LoadFailure)
  deriving DecidableEq

variable {T : Type}

/-- Says something on the console and ends with status one. -/
def giveUp (text : String) : Script T (Except Stop Job) := do
  Console.say text
  return .error (.status 1)

/-- The settings that options ask for. -/
def Options.load (o : Options) (h : Settings.Host) : Except LoadFailure Settings.Loaded :=
  Settings.load h (o.config.map fun name => (FilePath.ofText name).text) (overrides o.interval)

/-- The job that options ask for. -/
def Options.prepare (o : Options) (h : Settings.Host) : Script T (Except Stop Job) :=
  match o.mode? with
  | none => giveUp "[red]Error:[/red] --dry-run and --test-connection cannot be combined"
  | some mode =>
    match o.load h with
    | .ok l => return .ok ⟨mode, l, o.verbose, o.jsonLogs⟩
    | .error (.notFound name) =>
      giveUp ("[red]Error:[/red] " ++ Markup.escape (LoadFailure.notFound name).message)
    | .error (.settings e _) =>
      giveUp ("[red]Configuration error:[/red]\n" ++ Markup.escape e.render)
    | .error f => return .error (.settings f)

/-- The job that a command line makes. -/
def prepare (h : Settings.Host) (args : List String) : Script T (Except Stop Job) :=
  match readRequest args with
  | .error f => return .error (.usage f)
  | .ok .help => do
    change fun w => w.print .standard helpText
    return .error (.status 0)
  | .ok .version => do
    change fun w => w.print .standard ("dbpulse version " ++ agentVersion ++ "\n")
    return .error (.status 0)
  | .ok (.run o) => o.prepare h

/-! ## Work -/

variable [Seconds T]

/-- Starts reporting as the settings of a job ask for, and then does the work. -/
def Job.begin (j : Job) (env : Environment) (m : Reporting.Machine) (work : Script T Int) :
    Script T Int := do
  change fun w => (Reporting.start j.loaded.settings.reporting env m w).2
  work

/-! ## The status of the program -/

/-- The status after an interruption by the user. -/
def interruptedStatus : Int := 130

/-- The status that the program ends with when an exit was asked for: a number that was given, nought
for none, and one for anything else. -/
def exitStatus : Value → Int
  | .null => 0
  | .int n => n
  | .bool b => if b then 1 else 0
  | _ => 1

/-- The status of the program after a fault; some faults have none. -/
def faultStatus? : Fault → Option Int
  | .foreign "KeyboardInterrupt" _ _ => some interruptedStatus
  | .foreign "SystemExit" message _ => some (exitStatus (.ofOption .text message))
  | .mute f _ => faultStatus? f
  | _ => none

/-- The status of a command after a fault: the end of its input aborts it. -/
def abortStatus? : Fault → Option Int
  | .foreign "EOFError" _ _ => some 1
  | .mute f _ => abortStatus? f
  | f => faultStatus? f

end MetricsAgent.Command
