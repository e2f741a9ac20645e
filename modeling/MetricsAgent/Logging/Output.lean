import MetricsAgent.Host.Files
import MetricsAgent.Logging.Record

/-!
# Log output

Which records are kept, and where their lines go: to the console, in one of two formats, and to a
file if one is named.  The libraries that log every request are held back unless the output is
verbose.
-/

namespace MetricsAgent

/-- What keeps records and where it puts them. -/
structure LogOutput where
  threshold : Int
  libraryThreshold : Int
  console : LogFormat
  file : Option FilePath
  deriving DecidableEq

namespace LogOutput

/-- The libraries that log every request. -/
def libraries : List String := ["aiohttp", "asyncio"]

/-- The output that the settings ask for; a verbose one keeps everything, and lines can be asked for
whatever the settings say.  Nothing if the file is in a home directory that is not known. -/
def make? (s : LogSettings) (verbose lines : Bool) (env : Environment) : Option LogOutput :=
  let threshold := if verbose then LogLevel.debug.number else s.level.number
  let libraryThreshold := if verbose then LogLevel.debug.number else LogLevel.warning.number
  let console := if lines then LogFormat.json else s.format
  match s.file.filter (!·.isEmpty) with
  | none => some ⟨threshold, libraryThreshold, console, none⟩
  | some name =>
    ((FilePath.ofText name).expandHome? env).map fun p =>
      ⟨threshold, libraryThreshold, console, some p⟩

/-- Whether a logger belongs to a library. -/
def isLibrary (logger : String) : Bool :=
  libraries.any fun l => logger == l || logger.startsWith (l ++ ".")

/-- The lowest level that is kept of a logger. -/
def thresholdOf (o : LogOutput) (logger : String) : Int :=
  if isLibrary logger then o.libraryThreshold else o.threshold

/-- Whether a record is kept. -/
def keeps (o : LogOutput) (r : LogRecord) : Bool :=
  o.thresholdOf r.logger ≤ r.level

/-- The lines of the records that are kept; a record that has no line leaves none. -/
def lines (o : LogOutput) (rs : List LogRecord) : String :=
  String.join ((rs.filter o.keeps).map fun r =>
    match r.line with
    | .ok s => s ++ "\n"
    | .error _ => "")

/-- What writes to the console, and what the lines are made by. -/
def consoleParts (o : LogOutput) : String × String :=
  match o.console with
  | .json => ("StreamHandler", "JsonLogFormatter")
  | .pretty => ("RichHandler", "Formatter")

/-- The places that records are written to. -/
def handlers (o : LogOutput) : List (String × String) :=
  o.consoleParts :: (o.file.map fun _ => ("FileHandler", "JsonLogFormatter")).toList

end LogOutput

end MetricsAgent
