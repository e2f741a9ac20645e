import MetricsAgent.Text.CharClass
import MetricsAgent.Number.Reader
import MetricsAgent.Text.Quoted

/-!
# Durations

A duration is a whole number of seconds, minutes or hours: blanks, digits of any script, blanks, an
optional unit, blanks.
-/

namespace MetricsAgent

open CharClass

namespace Duration

/-! ## Units -/

/-- The units a duration can be given in. -/
inductive TimeUnit
  | seconds
  | minutes
  | hours
  deriving DecidableEq, Repr

/-- How many seconds a unit has. -/
def TimeUnit.inSeconds : TimeUnit → Nat
  | .seconds => 1
  | .minutes => 60
  | .hours => 3600

/-- The letter that stands for a unit. -/
def TimeUnit.ofChar? (c : Char) : Option TimeUnit :=
  if c == 's' then some .seconds
  else if c == 'm' then some .minutes
  else if c == 'h' then some .hours
  else none

/-! ## Grammar -/

/-- The digits and the unit of a duration; without a letter the unit is seconds. -/
structure Written where
  digits : List Char
  unit : TimeUnit
  deriving DecidableEq, Repr

/-- The digits and the unit that a text writes, if it follows the grammar. -/
def Written.ofChars? (cs : List Char) : Option Written :=
  let body := cs.dropWhile isBlank
  let digits := body.takeWhile isDigit
  let tail := (body.dropWhile isDigit).dropWhile isBlank
  if digits.isEmpty then none
  else
    match tail with
    | [] => some ⟨digits, .seconds⟩
    | c :: rest =>
      match TimeUnit.ofChar? c with
      | some unit => if rest.all isBlank then some ⟨digits, unit⟩ else none
      | none => none

/-! ## Reading -/

/-- Why a text is no duration. -/
inductive Fault
  | malformed (text : String)
  | tooLong (digits : Nat)
  deriving DecidableEq, Repr

/-- Words for a number with more digits than are read. -/
def tooLongMessage (digits : Nat) : String :=
  "Exceeds the limit (4300 digits) for integer string conversion: value has "
    ++ decimalText digits ++ " digits; use sys.set_int_max_str_digits() to increase the limit"

/-- The wording of a fault. -/
def Fault.message : Fault → String
  | .malformed s => "Invalid duration '" ++ s ++ "' (use e.g. 60, 60s, 5m, 1h)"
  | .tooLong digits => tooLongMessage digits

/-- The number of seconds that a text denotes. -/
def parse (s : String) : Except Fault Nat :=
  match Written.ofChars? s.toList with
  | none => .error (.malformed s)
  | some w =>
    if NumberText.digitLimit < w.digits.length then .error (.tooLong w.digits.length)
    else .ok (digitsValue w.digits * w.unit.inSeconds)

end Duration

end MetricsAgent
