import MetricsAgent.Settings.Defaults
import MetricsAgent.Text.Similarity
import MetricsAgent.Validation.Report
import MetricsAgent.Yaml.Error

/-!
# Errors in settings

An error says what is wrong, where it was found and how to mend it.  It is made from the first issue
of a validation or from the error of a document, and it is shown as a text of several lines.
-/

namespace MetricsAgent

/-- What sort of error it is. -/
inductive SettingsError.Kind
  | general
  | form
  | value
  | key
  deriving DecidableEq, Repr

/-- An error that whoever wrote the settings has to mend. -/
structure SettingsError where
  kind : SettingsError.Kind
  message : String
  file : Option String
  line : Option Int
  column : Option Int
  suggestion : Option String
  excerpt : Option (List String)
  deriving DecidableEq, Repr

namespace SettingsError

/-- The name of a sort of errors. -/
def Kind.name : Kind → String
  | .general => "ConfigError"
  | .form => "ConfigSyntaxError"
  | .value => "ConfigValidationError"
  | .key => "ConfigKeyError"

/-- The sort of errors that a name stands for; the general one if it stands for none. -/
def Kind.ofName (s : String) : Kind :=
  ([Kind.form, .value, .key].find? (·.name == s)).getD .general

/-- The parts of an error by their names. -/
def attributes (e : SettingsError) : List (String × Value) :=
  [("message", .text e.message), ("file_path", .ofOption .text e.file),
    ("line_number", .ofOption .int e.line), ("column", .ofOption .int e.column),
    ("suggestion", .ofOption .text e.suggestion),
    ("context_lines", .ofOption (fun ls => .list (ls.map .text)) e.excerpt)]

/-- An error of a kind found in a file, without a place in it. -/
def make (kind : Kind) (message : String) (file suggestion : Option String) : SettingsError :=
  ⟨kind, message, file, none, none, suggestion, none⟩

/-! ## Display -/

/-- The first line: where the error was found. -/
def header (e : SettingsError) : String :=
  match e.file with
  | none => "Configuration error:"
  | some file =>
    if file.isEmpty then "Configuration error:"
    else
      match e.line with
      | none => "Error in " ++ file ++ ":"
      | some n =>
        if n = 0 then "Error in " ++ file ++ ":"
        else "Error in " ++ file ++ " line " ++ signedText n ++ ":"

/-- The lines in which the error stands, and under them a pointer to its column. -/
def pointer (e : SettingsError) : List String :=
  match e.excerpt, e.column with
  | some (l :: ls), some c =>
    if c = 0 then []
    else
      "" :: (l :: ls).map ("    " ++ ·) ++ [String.ofList (List.replicate (c + 3).toNat ' ') ++ "^"]
  | _, _ => []

/-- The lines that say how to mend the error. -/
def advice (e : SettingsError) : List String :=
  match e.suggestion with
  | some s => if s.isEmpty then [] else ["", "  Suggestion: " ++ s]
  | none => []

/-- The error as it is shown. -/
def render (e : SettingsError) : String :=
  "\n".intercalate ([e.header, "  " ++ e.message] ++ e.pointer ++ e.advice)

end SettingsError

/-! ## Values in words -/

/-- The kind of a value in words. -/
def Value.describe : Value → String
  | .null => "null"
  | .text s => "string \"" ++ s ++ "\""
  | .bool _ => "boolean"
  | .int _ => "integer"
  | .float _ => "number"
  | .list _ => "list"
  | .map _ => "object"
  | v => v.kindName

/-- Whether a value holds a whole number that is too long to be written. -/
def Value.isUnprintable : Value → Bool
  | .int n => tenTo 4300 ≤ n.natAbs
  | _ => false

/-! ## Validation -/

namespace SettingsError

/-- The dotted name of a place. -/
def dotted (place : List Segment) : String :=
  ".".intercalate (place.map Segment.text)

/-- The name of a field that an unknown key in a section may have been meant for. -/
def closestKey? (unknown : String) (names : List String) : Option String :=
  (Settings.sectionFields.find? (·.1 == names)).bind fun (_, fields) =>
    Similarity.closest? unknown (fields.map (·.wire))

/-- The suggestion to use another name. -/
def didYouMean (name : String) : String :=
  "Did you mean '" ++ name ++ "'?"

/-- What was expected in place of a value of the wrong type, and how to write it. -/
def wrongType? : Cause → Option (String × String)
  | .integerText => some ("a number", "Use a plain number such as 30")
  | .integerFraction => some ("a whole number", "Use a plain number such as 30")
  | .numberText => some ("a number", "Use a plain number such as 30")
  | .notText => some ("text", "Quote the value if YAML reads it as another type")
  | .notBoolean => some ("true or false", "Use 'true' or 'false'")
  | .booleanText => some ("true or false", "Use 'true' or 'false'")
  | .notList => some ("a list", "Write it as a list, e.g. [query_stats, settings]")
  | _ => none

/-- The wording of a bound. -/
def boundWords : Relation → String
  | .atLeast => "at least"
  | .above => "greater than"
  | .atMost => "at most"
  | .below => "less than"

/-- The message and the suggestion for an issue that is not an unknown key, given the value at its
place. -/
def wording (key : String) (got : Value) (c : Cause) : String × Option String :=
  match c with
  | .missing => ("Missing required configuration section '" ++ key ++ "'", none)
  | .choice allowed =>
    ("Invalid value for '" ++ key ++ "': got " ++ got.describe,
      some ("Expected one of: " ++ choiceText allowed))
  | .bound b =>
    ("Value for '" ++ key ++ "' is out of range: " ++ got.display,
      some ("Value must be " ++ boundWords b.relation ++ " " ++ b.limit.text))
  | .rejected reason => ("Invalid value for '" ++ key ++ "': " ++ reason, none)
  | c =>
    match wrongType? c with
    | some (expected, suggestion) =>
      ("Expected " ++ expected ++ " for '" ++ key ++ "': got " ++ got.describe, some suggestion)
    | none => ("Invalid value for '" ++ key ++ "': " ++ c.message, none)

/-- How to supply a setting that the environment can give. -/
def variableHint? (key : String) : Option String :=
  (Settings.variables.find? (·.1 == key)).map fun (_, name) =>
    "Set '" ++ key ++ "' in the config file or the " ++ name ++ " environment variable"

/-- The error for the first of some issues with given data.  There is none if the value that is out
of range cannot be written. -/
def ofIssues (issues : List Issue) (data : Value) (file : Option String) : Option SettingsError :=
  match issues with
  | [] => some (make .value "Configuration validation failed" file none)
  | i :: _ =>
    let key := dotted i.place
    match i.cause with
    | .extra =>
      let unknown := (i.place.getLast?.map Segment.text).getD ""
      let hint := closestKey? unknown (i.place.dropLast.map Segment.text)
      some (make .key ("Unknown configuration key '" ++ key ++ "'") file
        (some ((hint.map didYouMean).getD "Remove the key or check its spelling and section")))
    | c =>
      let got := data.lookUp i.place
      match c with
      | .bound _ =>
        if got.isUnprintable then none
        else
          let (message, suggestion) := wording key got c
          some (make .value message file (suggestion.or (variableHint? key)))
      | _ =>
        let (message, suggestion) := wording key got c
        some (make .value message file (suggestion.or (variableHint? key)))

/-! ## Documents -/

/-- Words in the description of an error of form, and how to mend it. -/
def formHints : List (String × String) :=
  [("could not find expected ':'", "A key is missing its colon; write 'key: value'"),
    ("cannot start any token", "Indent with spaces; tabs are not allowed in YAML"),
    ("mapping values are not allowed", "Nested keys must be indented under their section"),
    ("found undefined alias", "Define each &anchor before using it as *alias"),
    ("expected ',' or ']'", "A [list] is missing its closing bracket")]

/-- Whether a text occurs in another one. -/
def occursIn (needle : List Char) : List Char → Bool
  | [] => needle.isEmpty
  | c :: rest => needle.isPrefixOf (c :: rest) || occursIn needle rest

/-- A character that ends a line of a text. -/
def endsLine (c : Char) : Bool :=
  (10 ≤ c.toNat && c.toNat ≤ 13) || (28 ≤ c.toNat && c.toNat ≤ 30) || c == '\x85' || c == '\u2028'
    || c == '\u2029'

/-- The lines of a text, behind the characters of the first one that were passed, last first. -/
def linesFrom : List Char → List Char → List (List Char)
  | passed, [] => if passed.isEmpty then [] else [passed.reverse]
  | passed, '\r' :: '\n' :: rest => passed.reverse :: linesFrom [] rest
  | passed, c :: rest =>
    if endsLine c then passed.reverse :: linesFrom [] rest else linesFrom (c :: passed) rest

/-- The lines of a text. -/
def lines (cs : List Char) : List (List Char) :=
  linesFrom [] cs

/-- The error for a document that cannot be read. -/
def ofDocument (e : Yaml.Error) (text : List Char) (file : Option String) : SettingsError :=
  let description := (CharClass.asciiLower (e.describe text)).toList
  let suggestion := (formHints.find? fun (words, _) => occursIn words.toList description).map (·.2)
  match e with
  | .problem p =>
    { kind := .form
      message := "YAML syntax error: " ++ p.problem
      file := file
      line := some (p.mark.line + 1)
      column := some (p.mark.column + 1)
      suggestion := suggestion
      excerpt := ((lines text)[p.mark.line]?).map fun l => [String.ofList l] }
  | _ => make .form "Invalid YAML syntax" file suggestion

end SettingsError

end MetricsAgent
