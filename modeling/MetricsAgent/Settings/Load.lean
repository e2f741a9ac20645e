import MetricsAgent.Host.Files
import MetricsAgent.Settings.Error
import MetricsAgent.Settings.Tree
import MetricsAgent.Json.Basic
import MetricsAgent.Yaml.Construct

/-!
# Loading settings

The settings file is the one that is named, or the one the environment names, or the user's, or that
of the system.  Its contents go over the defaults and what the command line says goes over both;
placeholders are replaced in the result, which is then validated.
-/

namespace MetricsAgent

/-! ## Failures -/

/-- What an error in settings follows from. -/
inductive SettingsCause
  | unreadable
  | document (level : Yaml.Level)
  | validation
  deriving DecidableEq, Repr

/-- The name of a cause. -/
def SettingsCause.name : SettingsCause → String
  | .unreadable => "ReaderError"
  | .document .token => "ScannerError"
  | .document .event => "ParserError"
  | .document .node => "ComposerError"
  | .document .value => "ConstructorError"
  | .validation => "ValidationError"

/-- Why there are no settings. -/
inductive LoadFailure
  | notFound (name : String)
  | noHome
  | nameTooLong (path : String)
  | isDirectory (path : String)
  | undecodable (fault : Utf8.Malformed) (bytes : List UInt8)
  | scalar (fault : Yaml.ScalarFault)
  | leftOut (omission : Yaml.Omission)
  | keyNotText
  | unprintable
  | settings (e : SettingsError) (cause : Option SettingsCause)
  deriving DecidableEq

namespace LoadFailure

/-- The name of a failure. -/
def name : LoadFailure → String
  | .notFound _ => "FileNotFoundError"
  | .noHome => "RuntimeError"
  | .nameTooLong _ => "OSError"
  | .isDirectory _ => "IsADirectoryError"
  | .undecodable _ _ => "UnicodeDecodeError"
  | .scalar fault => fault.name
  | .leftOut _ => "NotImplementedError"
  | .keyNotText => "TypeError"
  | .unprintable => "ValueError"
  | .settings e _ => e.kind.name

/-- The wording of a failure. -/
def message : LoadFailure → String
  | .notFound name => "Config file not found: " ++ name
  | .noHome => "Could not determine home directory."
  | .nameTooLong path => "[Errno 36] File name too long: " ++ Quoted.text path
  | .isDirectory path => "[Errno 21] Is a directory: " ++ Quoted.text path
  | .undecodable fault bytes => fault.message bytes
  | .scalar fault => fault.message
  | .leftOut o => o.message
  | .keyNotText => "keywords must be strings"
  | .unprintable => Json.PrintError.tooManyDigits.message
  | .settings e _ => e.render

/-- An error in the settings that whoever wrote them has to mend, or a file that is not there. -/
def isUserError : LoadFailure → Bool
  | .notFound _ => true
  | .settings _ _ => true
  | _ => false

end LoadFailure

/-! ## Discovery -/

namespace Settings

/-- The machine that settings are loaded on; `systemFile` is where the settings of the whole system
are. -/
structure Host where
  env : Environment
  files : FileTree
  systemFile : FilePath

/-- Where the settings of the whole system are unless the machine says otherwise. -/
def systemPath : FilePath := ⟨1, ["etc", "dbpulse", "config.yaml"]⟩

/-- Where the settings of a user are, below the home directory. -/
def userPath : List String := [".config", "dbpulse", "config.yaml"]

/-- Whether something is at a path. -/
def exists? (h : Host) (p : FilePath) : Except LoadFailure Bool :=
  match h.files.lookUp p with
  | .missing => .ok false
  | .nameTooLong => .error (.nameTooLong p.text)
  | _ => .ok true

/-- A path given as text, with a tilde replaced. -/
def givenPath (h : Host) (s : String) : Except LoadFailure FilePath :=
  match (FilePath.ofText s).expandHome? h.env with
  | some p => .ok p
  | none => .error .noHome

/-- The settings file to read, if there is one.  A file that is named must be there; one that the
environment names may be missing, and no other is looked for then. -/
def findFile (h : Host) (named : Option String) : Except LoadFailure (Option FilePath) := do
  match named.filter (!·.isEmpty), (h.env.get? "DBPULSE_CONFIG_PATH").filter (!·.isEmpty) with
  | some name, _ =>
    let p ← givenPath h name
    if ← exists? h p then return some p else throw (.notFound name)
  | none, some name =>
    let p ← givenPath h name
    return if ← exists? h p then some p else none
  | none, none =>
    match h.env.home? with
    | none => throw .noHome
    | some home =>
      let user := home.join userPath
      if ← exists? h user then return some user
      else return if ← exists? h h.systemFile then some h.systemFile else none

/-- The places where settings may be, with the file named. -/
def places (env : Environment) (systemFile : FilePath) (named : Option String) : List FilePath :=
  let given := [named, env.get? "DBPULSE_CONFIG_PATH"].filterMap fun name =>
    name.bind fun name => (FilePath.ofText name).expandHome? env
  given ++ (env.home?.map (·.join userPath)).toList ++ [systemFile]

/-! ## Files -/

/-- Every line end as a line feed. -/
def plainLines : List Char → List Char
  | '\r' :: '\n' :: rest => '\n' :: plainLines rest
  | '\r' :: rest => '\n' :: plainLines rest
  | c :: rest => c :: plainLines rest
  | [] => []

/-- The text of a file. -/
def readText (h : Host) (p : FilePath) : Except LoadFailure (List Char) :=
  match h.files.lookUp p with
  | .file bytes =>
    match Utf8.decode bytes with
    | .ok s => .ok (plainLines s.toList)
    | .error fault => .error (.undecodable fault bytes)
  | .directory => .error (.isDirectory p.text)
  | .nameTooLong => .error (.nameTooLong p.text)
  | .missing => .error (.notFound p.text)

/-- What an error of a document is. -/
def causeOfDocument : Yaml.Error → SettingsCause
  | .problem p => .document p.level
  | _ => .unreadable

/-- The mapping that a document writes. -/
def parseDocument (text : List Char) (file : String) : Except LoadFailure Entries :=
  match Yaml.read text with
  | .ok (.map es) => .ok es
  | .ok .null => .ok []
  | .ok v =>
    .error (.settings (.make .value ("Expected a mapping at the top level, got " ++ v.describe)
      (some file) (some "Start the file with sections such as 'ingest:' and 'database:'")) none)
  | .error (.scalar f) => .error (.scalar f)
  | .error (.leftOut o) => .error (.leftOut o)
  | .error e =>
    .error (.settings (.ofDocument e text (some file)) (some (causeOfDocument e)))

/-- The mapping in a settings file. -/
def readFile (h : Host) (p : FilePath) : Except LoadFailure Entries := do
  parseDocument (← readText h p) p.text

/-! ## Loading -/

/-- The settings that a mapping denotes; the names of sections are texts. -/
def ofEntries (es : Entries) (file : Option String) : Except LoadFailure Settings :=
  if es.all fun (k, _) => match k with | .text _ => true | _ => false then
    match Settings.check (.map es) with
    | .valid s => .ok s
    | .invalid i is =>
      match SettingsError.ofIssues (i :: is) (.map es) file with
      | some e => .error (.settings e (some .validation))
      | none => .error .unprintable
  else .error .keyNotText

/-- Settings, and the file that they were read from. -/
structure Loaded where
  settings : Settings
  source : Option FilePath
  deriving DecidableEq

/-- The layers below the command line: the defaults and the settings file. -/
def baseLayers (h : Host) (file : Option FilePath) : Except LoadFailure (List Entries) :=
  match file with
  | none => .ok [defaults]
  | some p => return [defaults, ← readFile h p]

/-- The settings of a machine, with the file named and the settings given on the command line. -/
def load (h : Host) (named : Option String) (overrides : Entries) : Except LoadFailure Loaded := do
  let file ← findFile h named
  let layers ← baseLayers h file
  let merged := Entries.mergeAll (layers ++ [overrides])
  let settings ← ofEntries (h.env.expandEntries merged) (file.map FilePath.text)
  return ⟨settings, file⟩

end Settings

end MetricsAgent
