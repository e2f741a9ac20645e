import MetricsAgent.Text.CharClass

/-!
# Types of scalars

A scalar without tag and quotation marks has the type that its text looks like.  Each type has a
grammar of its own; what fits none is text.
-/

namespace MetricsAgent.Yaml

open CharClass

/-- The full name of a standard type. -/
def coreTag (name : String) : String :=
  "tag:yaml.org,2002:" ++ name

namespace Grammar

/-- Passes a sign, if there is one. -/
def unsigned : List Char → List Char
  | '-' :: rest => rest
  | '+' :: rest => rest
  | cs => cs

def isDigitOrUnderscore (c : Char) : Bool :=
  isAsciiDigit c || c == '_'

/-- A digit, then digits and underscores; gives what follows. -/
def digitRun? : List Char → Option (List Char)
  | c :: rest => if isAsciiDigit c then some (rest.dropWhile isDigitOrUnderscore) else none
  | [] => none

/-- One or two digits below sixty. -/
def isSixtieth : List Char → Bool
  | [a] => isAsciiDigit a
  | [a, b] => '0' ≤ a && a ≤ '5' && isAsciiDigit b
  | _ => false

/-- A colon and sixtieths separated by colons. -/
def isSexagesimalTail : List Char → Bool
  | ':' :: rest => (rest.splitOn ':').all isSixtieth
  | _ => false

/-- An exponent with a sign, or nothing. -/
def isExponent : List Char → Bool
  | [] => true
  | e :: s :: ds => (e == 'e' || e == 'E') && (s == '-' || s == '+') && !ds.isEmpty && ds.all isAsciiDigit
  | _ => false

/-- A whole number in base two, eight, ten, sixteen or sixty. -/
def isInteger (cs : List Char) : Bool :=
  match unsigned cs with
  | ['0'] => true
  | '0' :: 'b' :: ds => !ds.isEmpty && ds.all fun c => c == '0' || c == '1' || c == '_'
  | '0' :: 'x' :: ds => !ds.isEmpty && ds.all fun c => isHexDigit c || c == '_'
  | '0' :: ds => ds.all fun c => ('0' ≤ c && c ≤ '7') || c == '_'
  | c :: rest =>
    if isAsciiDigit c then
      match rest.dropWhile isDigitOrUnderscore with
      | [] => true
      | tail => isSexagesimalTail tail
    else false
  | [] => false

/-- A number with a point, in base ten or sixty, or a word for what is not finite. -/
def isFloat (cs : List Char) : Bool :=
  let body := unsigned cs
  let decimal := match digitRun? body with
    | some ('.' :: rest) => isExponent (rest.dropWhile isDigitOrUnderscore)
    | _ => false
  let fraction := match cs with
    | '.' :: rest => (digitRun? rest).any isExponent
    | _ => false
  let sixty := match digitRun? body with
    | some tail =>
      let parts := tail.takeWhile (· != '.')
      match tail.drop parts.length with
      | '.' :: rest => isSexagesimalTail parts && rest.all isDigitOrUnderscore
      | _ => false
    | none => false
  decimal || fraction || sixty
    || [".inf", ".Inf", ".INF"].contains (String.ofList body)
    || [".nan", ".NaN", ".NAN"].contains (String.ofList cs)

/-- A word for true or false. -/
def isBoolean (s : String) : Bool :=
  ["yes", "Yes", "YES", "no", "No", "NO", "true", "True", "TRUE", "false", "False", "FALSE",
    "on", "On", "ON", "off", "Off", "OFF"].contains s

/-- A word for nothing. -/
def isNull (s : String) : Bool :=
  ["~", "null", "Null", "NULL", ""].contains s

/-! ## Timestamps -/

/-- The parts of a timestamp. -/
structure Timestamp where
  year : List Char
  month : List Char
  day : List Char
  clock : Option (List Char × List Char × List Char)
  fraction : List Char
  zone : Option (Option (Bool × List Char × List Char))

/-- Between `least` and `most` digits at the start. -/
def digitsAt? (least most : Nat) (cs : List Char) : Option (List Char × List Char) :=
  let ds := (cs.take most).takeWhile isAsciiDigit
  if least ≤ ds.length then some (ds, cs.drop ds.length) else none

/-- A given character at the start. -/
def charAt? (c : Char) : List Char → Option (List Char)
  | d :: rest => if c == d then some rest else none
  | [] => none

def isSpaceOrTab (c : Char) : Bool :=
  c == ' ' || c == '\t'

/-- The offset at the end of a timestamp: nothing, the letter Z, or a sign with hours and
minutes. -/
def zone? (cs : List Char) : Option (Option (Option (Bool × List Char × List Char))) :=
  match cs with
  | [] => some none
  | _ =>
    match cs.dropWhile isSpaceOrTab with
    | ['Z'] => some (some none)
    | s :: rest =>
      if s == '-' || s == '+' then do
        let (hours, rest) ← digitsAt? 1 2 rest
        match rest with
        | [] => some (some (some (s == '-', hours, [])))
        | ':' :: rest =>
          let (minutes, rest) ← digitsAt? 2 2 rest
          if rest.isEmpty then some (some (some (s == '-', hours, minutes))) else none
        | _ => none
      else none
    | [] => none

/-- A date of four, one or two and one or two digits, and possibly a clock and an offset behind a
letter or blanks. -/
def timestamp? (cs : List Char) : Option Timestamp := do
  let (year, rest) ← digitsAt? 4 4 cs
  let rest ← charAt? '-' rest
  let (month, rest) ← digitsAt? 1 2 rest
  let rest ← charAt? '-' rest
  let (day, rest) ← digitsAt? 1 2 rest
  match rest with
  | [] => some ⟨year, month, day, none, [], none⟩
  | c :: tail =>
    let rest ←
      if c == 'T' || c == 't' then some tail
      else if isSpaceOrTab c then some (tail.dropWhile isSpaceOrTab)
      else none
    let (hour, rest) ← digitsAt? 1 2 rest
    let rest ← charAt? ':' rest
    let (minute, rest) ← digitsAt? 2 2 rest
    let rest ← charAt? ':' rest
    let (second, rest) ← digitsAt? 2 2 rest
    let (fraction, rest) := match rest with
      | '.' :: r =>
        let ds := r.takeWhile isAsciiDigit
        (ds, r.drop ds.length)
      | r => ([], r)
    let zone ← zone? rest
    some ⟨year, month, day, some (hour, minute, second), fraction, zone⟩

/-- What looks like a timestamp: without a clock, month and day have two digits each. -/
def isTimestamp (cs : List Char) : Bool :=
  match timestamp? cs with
  | some t => t.clock.isSome || (t.month.length == 2 && t.day.length == 2)
  | none => false

end Grammar

/-- The type that a text looks like. -/
def implicitTag (s : String) : String :=
  let cs := s.toList
  let cs := if cs.getLast? == some '\n' && cs != ['\n'] then cs.dropLast else cs
  let t := String.ofList cs
  if Grammar.isBoolean t then coreTag "bool"
  else if Grammar.isFloat cs then coreTag "float"
  else if Grammar.isInteger cs then coreTag "int"
  else if t == "<<" then coreTag "merge"
  else if Grammar.isNull t then coreTag "null"
  else if Grammar.isTimestamp cs then coreTag "timestamp"
  else if t == "=" then coreTag "value"
  else if t == "!" || t == "&" || t == "*" then coreTag "yaml"
  else coreTag "str"

end MetricsAgent.Yaml
