import MetricsAgent.Fault
import MetricsAgent.Json.Basic
import MetricsAgent.Settings.Basic
import MetricsAgent.Text.Template

/-!
# Log records

A record becomes one line: a JSON object with the time, the level, the logger and the message, then
whatever was attached to the record, then the fault that it is about.  What is attached under the
name of an earlier member takes its place.
-/

namespace MetricsAgent

/-! ## Stories of faults -/

/-- A fault on lines of its own: the full name of its kind and, unless there is none, its text. -/
def Fault.headline (f : Fault) : String :=
  if f.text.isEmpty then f.fullName else f.fullName ++ ": " ++ f.text

/-- What stands between a fault and its consequence. -/
def Fault.consequence : String :=
  "\n\nThe above exception was the direct cause of the following exception:\n\n"

mutual

/-- What a fault is a consequence of, and what is told of the fault itself; `ahead` is what is told in
front of each. -/
def Fault.storyThen (ahead : Fault → String) (told : String) : Fault → String
  | .collection _ _ c => causeStory ahead c ++ told
  | .delivery _ c => causeStory ahead c ++ told
  | .scheduling _ c => causeStory ahead c ++ told
  | .loading _ _ _ c => causeStory ahead c ++ told
  | .foreign _ _ c => causeStory ahead c ++ told
  | .mute f _ => f.storyThen ahead told

def causeStory (ahead : Fault → String) : Option Fault → String
  | none => ""
  | some f => f.storyThen ahead (ahead f ++ f.headline) ++ Fault.consequence

end

/-- A fault, behind the faults that it is a consequence of. -/
def Fault.story (ahead : Fault → String) (f : Fault) : String :=
  f.storyThen ahead (ahead f ++ f.headline)

/-! ## Records -/

/-- The name of a level by its number. -/
def levelName (n : Int) : String :=
  if n = 0 then "NOTSET"
  else if n = 10 then "DEBUG"
  else if n = 20 then "INFO"
  else if n = 30 then "WARNING"
  else if n = 40 then "ERROR"
  else if n = 50 then "CRITICAL"
  else "Level " ++ signedText n

/-- The number of a level. -/
def LogLevel.number : LogLevel → Int
  | .debug => 10
  | .info => 20
  | .warning => 30
  | .error => 40

/-- Something that was logged.  `created` is a number of seconds since 1970; `ahead` is what is told in
front of a fault, such as where it was raised; a record may tell that there is no fault. -/
structure LogRecord where
  level : Int
  logger : String
  created : Number
  message : Value
  arguments : List Value
  fault : Option Fault
  attached : List (String × Value)
  ahead : Fault → String := fun _ => ""
  tellsNone : Bool := false

/-- Why a record has no line. -/
inductive LogFault
  | taken (name : String)
  | template (e : Template.FillError)
  | key (kind : String)
  | notATime
  | timeOverflow
  | timeTooLarge
  | year (y : Int)
  | print (e : Json.PrintError)
  deriving DecidableEq

namespace LogFault

/-- The name of a fault. -/
def name : LogFault → String
  | .taken _ => "KeyError"
  | .template e => e.name
  | .key _ => "TypeError"
  | .timeOverflow => "OverflowError"
  | .timeTooLarge => "OSError"
  | _ => "ValueError"

/-- The wording of a fault. -/
def message : LogFault → String
  | .taken name => Quoted.text ("Attempt to overwrite " ++ Quoted.text name ++ " in LogRecord")
  | .template e => e.message
  | .key kind => "keys must be str, int, float, bool or None, not " ++ kind
  | .notATime => "Invalid value NaN (not a number)"
  | .timeOverflow => "timestamp out of range for platform time_t"
  | .timeTooLarge => "[Errno 75] Value too large for defined data type"
  | .year y => "year " ++ signedText y ++ " is out of range"
  | .print e => e.message

end LogFault

/-! ## Times -/

/-- The year of a day that is counted from 1970, of any age. -/
def yearOfDay (days : Int) : Int :=
  let eras : Int := 100000000000
  ((Date.ofDays (days + 146097 * eras)).year : Int) - 400 * eras

/-- The time of day of a record. -/
def timeOfRecord (created : Number) : Except LogFault DateTime :=
  match created.toRat? with
  | none => .error (if created.toBinary64.isNaN then .notATime else .timeOverflow)
  | some q =>
    let micros := DateTime.microsOfSeconds q
    let seconds := micros.fdiv 1000000
    let year := yearOfDay (seconds.fdiv 86400)
    if seconds < -wordLimit 64 ∨ wordLimit 64 ≤ seconds then .error .timeOverflow
    else if year < -wordLimit 32 ∨ wordLimit 32 + 1900 ≤ year then .error .timeTooLarge
    else if year < 1 ∨ 9999 < year then .error (.year year)
    else .ok (DateTime.ofLocalMicros micros (some 0))

/-! ## Values -/

/-- A scalar in a line: what JSON has no form for is written as a text. -/
def Scalar.logged : Scalar → Except LogFault Json
  | .null => .ok .null
  | .bool b => .ok (.bool b)
  | .int n => ((Json.intText n).map fun _ => .int n).mapError .print
  | .float x => .ok (.float x)
  | s => .ok (.string s.display)

/-- The name that a key stands for. -/
def Scalar.loggedKey : Scalar → Except LogFault String
  | .text s => .ok s
  | .null => .ok "null"
  | .bool b => .ok (if b then "true" else "false")
  | .int n => (Json.intText n).mapError .print
  | .float x => .ok (Json.numberStyle.render x)
  | s => .error (.key (Value.scalar s).longKindName)

mutual

/-- A value in a line. -/
def Value.logged : Value → Except LogFault Json
  | .scalar s => s.logged
  | .list xs => (loggedItems xs).map .array
  | .tuple xs => (loggedItems xs).map .array
  | .set ss => ((Value.set ss).written.map .string).mapError .print
  | .map es => (loggedMembers es).map .object

def loggedItems : List Value → Except LogFault (List Json)
  | [] => .ok []
  | x :: xs => do
    let first ← x.logged
    return first :: (← loggedItems xs)

def loggedMembers : List (Scalar × Value) → Except LogFault (List (String × Json))
  | [] => .ok []
  | (k, v) :: rest => do
    let name ← k.loggedKey
    let first ← v.logged
    return (name, first) :: (← loggedMembers rest)

end

/-! ## Lines -/

namespace LogRecord

/-- The names of the parts of every record, which nothing can be attached under. -/
def parts : List String :=
  ["name", "msg", "args", "levelname", "levelno", "pathname", "filename", "module", "exc_info",
    "exc_text", "stack_info", "lineno", "funcName", "created", "msecs", "relativeCreated", "thread",
    "threadName", "processName", "process", "message", "asctime"]

/-- Whether what is attached under a name is shown. -/
def isShown (name : String) : Bool :=
  name != "taskName" && !name.startsWith "_"

/-- What is attached and shown. -/
def shown (r : LogRecord) : List (String × Value) :=
  r.attached.filter fun a => isShown a.1

/-- What the template of a record is filled in with: a single mapping that is not empty gives its
entries. -/
def templateArguments : List Value → Template.Arguments
  | [.map (e :: es)] => .mapping (e :: es)
  | vs => .sequence vs

/-- The message of a record. -/
def text (r : LogRecord) : Except LogFault String := do
  let message ← r.message.written.mapError .print
  if r.arguments.isEmpty then return message
  (Template.fill message (templateArguments r.arguments)).mapError .template

/-- What a record tells of its fault. -/
def story? (r : LogRecord) : Option String :=
  match r.fault with
  | some f => some (f.story r.ahead)
  | none => if r.tellsNone then some "NoneType: None" else none

/-- The members that every line has. -/
def own (r : LogRecord) (time : DateTime) (text : String) : Entries :=
  [(.text "timestamp", .text time.isoText), (.text "level", .text (levelName r.level)),
    (.text "logger", .text r.logger), (.text "message", .text text)]

/-- Adds what is attached under names. -/
def attach (es : Entries) (attached : List (String × Value)) : Entries :=
  attached.foldl (fun es a => es.put (.text a.1) a.2) es

/-- Adds the story of a fault. -/
def tell (es : Entries) (story : Option String) : Entries :=
  match story with
  | some s => es.put (.text "exception") (.text s)
  | none => es

/-- The entries of a line. -/
def entries (r : LogRecord) (time : DateTime) (text : String) : Entries :=
  tell (attach (r.own time text) r.shown) r.story?

/-- The entries of the line of a record, if nothing is attached under the name of a part. -/
def members (r : LogRecord) : Except LogFault Entries := do
  match r.attached.find? fun a => parts.contains a.1 with
  | some a => throw (.taken a.1)
  | none =>
    let time ← timeOfRecord r.created
    let text ← r.text
    return r.entries time text

/-- The document of a record. -/
def document (r : LogRecord) : Except LogFault Json := do
  (Value.map (← r.members)).logged

/-- The line of a record. -/
def line (r : LogRecord) : Except LogFault String := do
  (Json.print Json.spaced (← r.document)).mapError .print

end LogRecord

end MetricsAgent
