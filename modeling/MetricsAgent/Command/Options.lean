import MetricsAgent.Number.Reader
import MetricsAgent.Settings.Basic

/-!
# Options of the command line

Each argument is an option or the value of one.  A long option stands alone and takes its value from
behind an equals sign or from the next argument; short options can share an argument, and what
follows one that takes a value is that value.  Of an option that is given several times the last
value counts.  Two dashes end the options, and the agent takes no arguments beside them.
-/

namespace MetricsAgent.Command

/-! ## Options -/

/-- The options. -/
inductive Flag
  | config
  | dryRun
  | testConnection
  | verbose
  | jsonLogs
  | interval
  | version
  | help
  deriving DecidableEq, Repr

namespace Flag

def all : List Flag :=
  [.config, .dryRun, .testConnection, .verbose, .jsonLogs, .interval, .version, .help]

theorem mem_all (f : Flag) : f ∈ all := by
  cases f <;> decide

/-- The long form of an option. -/
def long : Flag → String
  | .config => "--config"
  | .dryRun => "--dry-run"
  | .testConnection => "--test-connection"
  | .verbose => "--verbose"
  | .jsonLogs => "--json-logs"
  | .interval => "--interval"
  | .version => "--version"
  | .help => "--help"

/-- The letter of an option that has a short form. -/
def letter? : Flag → Option Char
  | .config => some 'c'
  | .verbose => some 'v'
  | .interval => some 'i'
  | .version => some 'V'
  | _ => none

/-- Whether an option takes a value. -/
def takesValue : Flag → Bool
  | .config => true
  | .interval => true
  | _ => false

/-- What an option is for. -/
def purpose : Flag → String
  | .config => "Path to config file (default: DBPULSE_CONFIG_PATH, then standard locations)"
  | .dryRun => "Collect metrics once and print them without uploading"
  | .testConnection => "Check the database and ingestion endpoint, then exit"
  | .verbose => "Enable debug logging"
  | .jsonLogs => "Write logs as JSON lines regardless of config"
  | .interval => "Collection interval in seconds"
  | .version => "Show version and exit"
  | .help => "Show this message and exit"

def ofLong? (s : String) : Option Flag :=
  all.find? (·.long == s)

def ofLetter? (c : Char) : Option Flag :=
  all.find? (·.letter? == some c)

end Flag

/-- The options, one on each line. -/
def helpText : String :=
  String.join (Flag.all.map fun f =>
    "  " ++ f.long ++ (f.letter?.elim "" fun c => ", -" ++ c.toString) ++ "  " ++ f.purpose ++ "\n")

/-! ## Usage -/

/-- Why a command line cannot be understood. -/
inductive UsageFault
  | unknown (name : String)
  | valueMissing (f : Flag)
  | valueNotTaken (f : Flag)
  | intervalNotWhole (text : String)
  | intervalTooShort (n : Int)
  | extra (argument : String)
  deriving DecidableEq, Repr

/-- The wording of a fault. -/
def UsageFault.message : UsageFault → String
  | .unknown name => "No such option: " ++ name
  | .valueMissing f => "Option " ++ f.long ++ " requires an argument."
  | .valueNotTaken f => "Option " ++ f.long ++ " does not take a value."
  | .intervalNotWhole text => text ++ " is not a valid integer."
  | .intervalTooShort n => signedText n ++ " is less than " ++ signedText CollectionSettings.shortestInterval ++ "."
  | .extra argument => "Got unexpected extra argument (" ++ argument ++ ")"

/-- The status of a command line that cannot be understood. -/
def UsageFault.status : Int := 2

/-! ## Arguments -/

/-- An option that was given, with its value if it takes one. -/
structure Given where
  flag : Flag
  value : String
  deriving DecidableEq, Repr

/-- What one argument says: options that are complete, and one that waits for its value. -/
structure Reading where
  given : List Given
  waiting : Option Flag
  deriving DecidableEq, Repr

/-- An argument in which a letter stands for each option. -/
def readLetters : List Char → Except UsageFault Reading
  | [] => .ok ⟨[], none⟩
  | c :: rest =>
    match Flag.ofLetter? c with
    | none => .error (.unknown ("-" ++ c.toString))
    | some f =>
      if f.takesValue then
        .ok (if rest.isEmpty then ⟨[], some f⟩ else ⟨[⟨f, String.ofList rest⟩], none⟩)
      else (readLetters rest).map fun r => ⟨⟨f, ""⟩ :: r.given, r.waiting⟩

/-- A long option, with what stands behind its equals sign. -/
def readLong (f : Flag) (attached : Option String) : Except UsageFault Reading :=
  match f.takesValue, attached with
  | true, some v => .ok ⟨[⟨f, v⟩], none⟩
  | true, none => .ok ⟨[], some f⟩
  | false, some _ => .error (.valueNotTaken f)
  | false, none => .ok ⟨[⟨f, ""⟩], none⟩

/-- An argument that begins with a dash. -/
def readOption (arg : List Char) : Except UsageFault Reading :=
  let name := String.ofList (arg.takeWhile (· != '='))
  let attached := match arg.dropWhile (· != '=') with
    | [] => none
    | _ :: v => some (String.ofList v)
  match Flag.ofLong? name with
  | some f => readLong f attached
  | none =>
    match arg with
    | '-' :: '-' :: _ => .error (.unknown name)
    | _ => readLetters (arg.drop 1)

/-- Whether an argument is an option: more than a dash, and a dash first. -/
def isOption (arg : String) : Bool :=
  match arg.toList with
  | '-' :: _ :: _ => true
  | _ => false

/-- What a command line says: its options, and the arguments that are none. -/
structure Arguments where
  given : List Given
  others : List String
  deriving DecidableEq, Repr

/-- Reads arguments, of which the first belongs to the option that waits for a value. -/
def readArguments : Option Flag → List String → Except UsageFault Arguments
  | none, [] => .ok ⟨[], []⟩
  | some f, [] => .error (.valueMissing f)
  | some f, v :: rest =>
    (readArguments none rest).map fun a => { a with given := ⟨f, v⟩ :: a.given }
  | none, arg :: rest =>
    if arg == "--" then .ok ⟨[], rest⟩
    else if isOption arg then
      match readOption arg.toList with
      | .error e => .error e
      | .ok r => (readArguments r.waiting rest).map fun a => { a with given := r.given ++ a.given }
    else (readArguments none rest).map fun a => { a with others := arg :: a.others }

/-! ## Requests -/

/-- The options of a run. -/
structure Options where
  config : Option String
  dryRun : Bool
  testConnection : Bool
  verbose : Bool
  jsonLogs : Bool
  interval : Option Int
  deriving DecidableEq, Repr

/-- What the agent is asked for. -/
inductive Request
  | help
  | version
  | run (o : Options)
  deriving DecidableEq, Repr

namespace Arguments

/-- Whether an option was given. -/
def has (a : Arguments) (f : Flag) : Bool :=
  a.given.any (·.flag == f)

/-- The last value of an option. -/
def last? (a : Arguments) (f : Flag) : Option String :=
  (a.given.reverse.find? (·.flag == f)).map (·.value)

/-- The first option that asks for words about the agent instead of a run. -/
def question? (a : Arguments) : Option Request :=
  a.given.findSome? fun g =>
    match g.flag with
    | .help => some .help
    | .version => some .version
    | _ => none

end Arguments

/-- An interval from its text. -/
def readInterval (text : String) : Except UsageFault Int :=
  match NumberText.integer 10 text with
  | .error _ => .error (.intervalNotWhole text)
  | .ok n =>
    if n < CollectionSettings.shortestInterval then .error (.intervalTooShort n) else .ok n

/-- The interval that was asked for. -/
def interval? (a : Arguments) : Except UsageFault (Option Int) :=
  match a.last? .interval with
  | none => .ok none
  | some text => (readInterval text).map some

/-- The options of a run that was asked for. -/
def runOptions (a : Arguments) : Except UsageFault Options := do
  let interval ← interval? a
  match a.others with
  | other :: _ => throw (.extra other)
  | [] =>
    return {
      config := a.last? .config
      dryRun := a.has .dryRun
      testConnection := a.has .testConnection
      verbose := a.has .verbose
      jsonLogs := a.has .jsonLogs
      interval := interval }

/-- What a command line asks for.  Help and version come before everything that is wrong with the
values. -/
def readRequest (args : List String) : Except UsageFault Request := do
  let a ← readArguments none args
  match a.question? with
  | some q => return q
  | none => return .run (← runOptions a)

end MetricsAgent.Command
