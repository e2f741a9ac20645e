import MetricsAgent.Yaml.Position
import MetricsAgent.Text.Quoted
import MetricsAgent.Number.Decimal

/-!
# Errors in a document

An error tells at which level of reading it arose, what the reader was doing and where that began,
and what the problem is and where.  A value that no constructor accepts is a failure of another
sort: it has no place.
-/

namespace MetricsAgent.Yaml

/-- The levels of reading. -/
inductive Level
  | token
  | event
  | node
  | value
  deriving DecidableEq, Repr, Inhabited

/-- An error with a place. -/
structure Problem where
  level : Level
  context : Option (String × Option Mark)
  problem : String
  mark : Mark
  deriving DecidableEq, Repr, Inhabited

/-- An error without context. -/
def Problem.plain (level : Level) (problem : String) (mark : Mark) : Problem :=
  ⟨level, none, problem, mark⟩

/-- An error in the course of an activity that began at a place. -/
def Problem.during (level : Level) (activity : String) (since : Mark) (problem : String)
    (mark : Mark) : Problem :=
  ⟨level, some (activity, some since), problem, mark⟩

/-! ## Scalars without a value -/

/-- Why a scalar has no value of the type it claims. -/
inductive ScalarFault
  | integerText (base : Nat) (text : String)
  | integerSize (digits : Nat)
  | numberText (text : String)
  | unknownBoolean (text : String)
  | emptyNumber
  | notATimestamp
  | timestampOfParts
  | yearRange (year : Nat)
  | monthRange
  | dayRange
  | hourRange
  | minuteRange
  | secondRange
  | offsetRange (literal : String)
  | characterRange
  | characterSize
  | weightSize
  deriving DecidableEq, Repr

/-- The name of a fault. -/
def ScalarFault.name : ScalarFault → String
  | .unknownBoolean _ => "KeyError"
  | .emptyNumber => "IndexError"
  | .notATimestamp => "AttributeError"
  | .timestampOfParts => "TypeError"
  | .characterSize => "OverflowError"
  | .weightSize => "OverflowError"
  | _ => "ValueError"

/-- The wording of a fault. -/
def ScalarFault.message : ScalarFault → String
  | .integerText base text =>
    "invalid literal for int() with base " ++ decimalText base ++ ": "
      ++ String.ofList ((Quoted.text text).toList.take 200)
  | .integerSize digits =>
    "Exceeds the limit (4300 digits) for integer string conversion: value has " ++ decimalText digits
      ++ " digits; use sys.set_int_max_str_digits() to increase the limit"
  | .numberText text => "could not convert string to float: " ++ Quoted.text text
  | .unknownBoolean text => Quoted.text text
  | .emptyNumber => "string index out of range"
  | .notATimestamp => "'NoneType' object has no attribute 'groupdict'"
  | .timestampOfParts => "expected string or bytes-like object, got 'list'"
  | .yearRange year => "year " ++ decimalText year ++ " is out of range"
  | .monthRange => "month must be in 1..12"
  | .dayRange => "day is out of range for month"
  | .hourRange => "hour must be in 0..23"
  | .minuteRange => "minute must be in 0..59"
  | .secondRange => "second must be in 0..59"
  | .offsetRange literal =>
    "offset must be a timedelta strictly between -timedelta(hours=24) and "
      ++ "timedelta(hours=24), not " ++ literal ++ "."
  | .characterRange => "chr() arg not in range(0x110000)"
  | .characterSize => "signed integer is greater than maximum"
  | .weightSize => "int too large to convert to float"

/-! ## Documents that are left out -/

/-- Why nothing is said about a document: it writes half of a pair of surrogates, which is no
character; a node is a part of itself, which no tree is; or a node that is used twice holds an equals
sign for a key, whose type then depends on which use is read first. -/
inductive Omission
  | loneSurrogate
  | partOfItself
  | sharedEqualsSign
  deriving DecidableEq, Repr

/-- The wording of an omission. -/
def Omission.message : Omission → String
  | .loneSurrogate => "half of a pair of surrogates is left out"
  | .partOfItself => "a node that is a part of itself is left out"
  | .sharedEqualsSign => "an equals sign in a node that is used twice is left out"

/-- Why a document could not be read. -/
inductive Error
  | unreadable (code : Nat) (position : Nat)
  | problem (p : Problem)
  | scalar (f : ScalarFault)
  | leftOut (o : Omission)
  deriving DecidableEq, Repr

instance : Inhabited Error := ⟨.scalar .notATimestamp⟩

/-! ## Description -/

/-- The last characters before a place that belong to its line, nearest first; if there are more
than a line shows, the five farthest are dropped. -/
def lineBefore (before : List Char) : List Char × Bool :=
  let line := before.takeWhile (!isBreakOrEnd ·)
  if 37 ≤ line.length then ((line.take 37).take 32, true) else (line, false)

/-- The excerpt of a text around a place, with a pointer under it. -/
def excerpt (text : List Char) (m : Mark) : String :=
  let (before, cutBefore) := lineBefore (text.take m.index).reverse
  let (after, cutAfter) := lineBefore (text.drop m.index)
  let head := if cutBefore then " ... " else ""
  let tail := if cutAfter then " ... " else ""
  "    " ++ head ++ String.ofList before.reverse ++ String.ofList after ++ tail ++ "\n"
    ++ String.ofList (List.replicate (4 + before.length + head.length) ' ') ++ "^"

/-- A place in words, with the excerpt around it. -/
def placeText (text : List Char) (m : Mark) : String :=
  "  in \"<unicode string>\", line " ++ decimalText (m.line + 1) ++ ", column "
    ++ decimalText (m.column + 1) ++ ":\n" ++ excerpt text m

/-- The whole error in words. -/
def Problem.describe (text : List Char) (p : Problem) : String :=
  let context := match p.context with
    | none => []
    | some (c, none) => [c]
    | some (c, some m) => if m.line ≠ p.mark.line ∨ m.column ≠ p.mark.column
        then [c, placeText text m] else [c]
  "\n".intercalate (context ++ [p.problem, placeText text p.mark])

/-- The whole error in words. -/
def Error.describe (text : List Char) : Error → String
  | .unreadable code position =>
    "unacceptable character #x" ++ CharClass.hexText 4 code
      ++ ": special characters are not allowed\n  in \"<unicode string>\", position "
      ++ decimalText position
  | .problem p => p.describe text
  | .scalar f => f.message
  | .leftOut o => o.message

end MetricsAgent.Yaml
