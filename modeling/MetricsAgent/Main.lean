import MetricsAgent.Command.Job
import MetricsAgent.Logging.Output
import Std.Time.DateTime.Timestamp

/-!
# The program

Reads the environment and the files that settings may be in, has the command line made into a job
and carries the job out in real time.  The program brings no collectors and no connection to the
endpoint of its own: collectors are looked for in vain, and every request fails.
-/

namespace MetricsAgent.Program

/-! ## What the machine says -/

/-- A variable as the system writes it: name, equals sign, value. -/
def readVariable (entry : String) : String × String :=
  CharClass.partition '=' entry

/-- The variables that the process was started with. -/
def readEnvironment : IO Environment := do
  match ← (IO.FS.readBinFile "/proc/self/environ").toBaseIO with
  | .error _ => return ⟨[]⟩
  | .ok bytes =>
    let entries := ((String.fromUTF8? bytes).getD "").splitOn "\x00"
    return ⟨(entries.filter (!·.isEmpty)).map readVariable⟩

/-- The files among the places where settings may be. -/
def readFiles (paths : List FilePath) : IO (List (FilePath × List UInt8)) :=
  paths.filterMapM fun p => do
    match ← (IO.FS.readBinFile p.text).toBaseIO with
    | .error _ => return none
    | .ok bytes => return some (p, bytes.toList)

/-- The file that a command line names. -/
def namedFile (args : List String) : Option String :=
  match Command.readRequest args with
  | .ok (.run o) => o.config
  | _ => none

/-- The machine, as far as settings are concerned. -/
def readHost (args : List String) : IO Settings.Host := do
  let env ← readEnvironment
  let files ← readFiles (Settings.places env Settings.systemPath (namedFile args))
  return ⟨env, ⟨[], [], files⟩, Settings.systemPath⟩

/-- Microseconds since 1970. -/
def readClock : IO Int := do
  return (← Std.Time.Timestamp.now).toNanosecondsSinceUnixEpoch.val / 1000

/-! ## Work -/

/-- A reply of an endpoint that is not reached. -/
def noReply : Reply Number :=
  ⟨.int 0, none, some (.foreign "ClientConnectionError" (some "no connection") none), 0, none, [],
    .ok ""⟩

/-- What the program finds to work with. -/
def site : Site Number :=
  ⟨⟨[], []⟩, fun _ => noReply⟩

/-- The machine, as it is reported. -/
def machine : Reporting.Machine := ⟨"native", "unix"⟩

/-- More cycles than any run comes to. -/
def limit : Nat := 1000000000

/-- Writes out what was printed. -/
def flush (w : World Number) : IO (World Number) := do
  for (s, text) in w.printed.reverse do
    if s == .console then IO.eprint text else IO.print text
  return { w with printed := [] }

/-- Carries out a course of action in real time; what it has printed and logged by then is written at
each pause and in the end. -/
partial def perform {R : Type} (write : World Number → IO (World Number))
    (a : Activity Number (World Number) R) : IO R := do
  match a with
  | .done r w =>
    let _ ← write w
    return r
  | .pause (some due) _ w resume _ =>
    let w ← write w
    let pause := (Number.sub due w.now).toBinary64 * Binary64.ofInt 1000
    IO.sleep (pause.toInt?.getD 0).toNat.toUInt32
    perform write (resume false (w.moveTo due))
  | .pause none alert w resume abandon =>
    let w ← write w
    IO.sleep 1000
    perform write (.pause none alert w resume abandon)

/-- A line of the log as a record. -/
def record (seconds : Number) (l : LogLine) : LogRecord :=
  { level := l.level.number
    logger := l.source.name
    created := seconds
    message := .text l.message
    arguments := []
    fault := none
    attached := [] }

/-- Writes out what was printed, and the log where an output wants it. -/
def flushAll (o : Option LogOutput) (w : World Number) : IO (World Number) := do
  if let some o := o then
    let seconds := Number.divNat (.int (← readClock)) 1000000
    let lines := o.lines (w.log.reverse.map (record seconds))
    IO.eprint lines
    if let some p := o.file then
      let _ ← (IO.FS.withFile p.text .append fun file => file.putStr lines).toBaseIO
  flush { w with log := [] }

/-- The status that a job ends with. -/
def work (h : Settings.Host) (j : Command.Job) (w : World Number) : IO Int := do
  let output := LogOutput.make? j.loaded.settings.logging j.verbose j.jsonLogs h.env
  let r ← perform (flushAll output) (j.begin h.env machine (j.mode.run j.loaded site limit) w)
  match r with
  | .ok n => return n
  | .error f =>
    match Command.abortStatus? f with
    | some n => return n
    | none =>
      IO.eprintln f.named
      return 1

/-- The status that a command line ends with. -/
def start (args : List String) : IO Int := do
  let h ← readHost args
  let w := World.start (← readClock)
  match ← perform flush (Command.prepare h args w) with
  | .ok (.ok j) => work h j w
  | .ok (.error (.status n)) => return n
  | .ok (.error (.usage f)) =>
    IO.eprintln f.message
    return Command.UsageFault.status
  | .ok (.error (.settings f)) =>
    IO.eprintln (f.name ++ ": " ++ f.message)
    return 1
  | .error f =>
    IO.eprintln f.named
    return 1

end MetricsAgent.Program

/-- The program. -/
def main (args : List String) : IO UInt32 := do
  return ((← MetricsAgent.Program.start args) % 256).toNat.toUInt32
