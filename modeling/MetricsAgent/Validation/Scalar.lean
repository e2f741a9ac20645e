import MetricsAgent.Validation.Issue
import MetricsAgent.Value
import MetricsAgent.Text.Utf8
import MetricsAgent.Number.Reader

/-!
# Reading scalars

Each reader accepts the values of its kind and those that denote one without loss: a text that
writes a number, a whole floating point number as an integer, zero and one as booleans.  Bytes count
as the text they encode.
-/

namespace MetricsAgent.Read

open CharClass NumberText

/-! ## Text -/

/-- A text, or bytes that encode one. -/
def text : Value → Checked String
  | .text s => .valid s
  | .bytes bs =>
    match Utf8.decode bs with
    | .ok s => .valid s
    | .error _ => .refuse .notUnicode
  | _ => .refuse .notText

/-- The text behind a scalar that is to be read as something else; bytes that encode no text are
refused for the given cause. -/
def asText? (c : Cause) : Value → Option (Checked String)
  | .text s => some (.valid s)
  | .bytes bs =>
    match Utf8.decode bs with
    | .ok s => some (.valid s)
    | .error _ => some (.refuse c)
  | _ => none

/-! ## Underscores -/

/-- The text without its underscores, if it has some and each stands alone between other
characters. -/
def withoutUnderscores? (cs : List Char) : Option (List Char) :=
  if cs.head? == some '_' || cs.getLast? == some '_' || !cs.contains '_' || hasDoubleUnderscore cs then
    none
  else some (cs.filter (· != '_'))

/-! ## Integers -/

/-- How a text reads as an integer in canonical form: an optional minus sign and digits, of which
the first is zero only if it is the only one. -/
inductive CanonicalInt
  | value (n : Int)
  | tooLong
  | malformed

/-- The largest number of characters of an integer. -/
def integerLimit : Nat := 4300

def canonicalInt (cs : List Char) : CanonicalInt :=
  let (negative, body) := match cs with
    | '-' :: rest => (true, rest)
    | rest => (false, rest)
  let digits := body.takeWhile isAsciiDigit
  let rest := body.drop digits.length
  match digits with
  | [] => .malformed
  | '0' :: more =>
    if more.isEmpty && rest.isEmpty then .value 0 else .malformed
  | _ =>
    if integerLimit < digits.length + (if negative then 1 else 0) then .tooLong
    else if rest.isEmpty then
      let n : Int := digitsValue digits
      .value (if negative then -n else n)
    else .malformed

/-- Removes zeros and underscores before the first other digit; one zero stays before a point and
where there is no other digit. -/
def withoutLeadingZeros? (cs : List Char) : Option (List Char) :=
  match cs with
  | '0' :: rest =>
    let zeros := rest.takeWhile fun c => c == '0' || c == '_'
    match rest.drop zeros.length with
    | [] => some (match zeros.getLast? with
      | some c => [c]
      | none => ['0'])
    | '.' :: part => some ((zeros.getLast?.getD '0') :: '.' :: part)
    | c :: after => if isAsciiDigit c then some (c :: after) else none
  | c :: _ => if isAsciiDigit c || c == '-' then some cs else none
  | [] => none

/-- Removes a point that is followed by zeros only. -/
def withoutZeroFraction (cs : List Char) : List Char :=
  let whole := cs.takeWhile (· != '.')
  match cs.drop whole.length with
  | _ :: part => if part.all (· == '0') then whole else cs
  | [] => cs

/-- The canonical form of an integer that is written with blanks around it, a plus sign, leading
zeros, single underscores or a fraction of zeros. -/
def canonicalForm? (cs : List Char) : Option (List Char) := do
  let cs := ((cs.dropWhile isWhiteSpace).reverse.dropWhile isWhiteSpace).reverse
  let cs ← match cs with
    | '+' :: '-' :: _ => none
    | '+' :: rest => some rest
    | rest => some rest
  let cs ← withoutLeadingZeros? cs
  let cs := withoutZeroFraction cs
  return (withoutUnderscores? cs).getD cs

/-- The integer that a text writes. -/
def integerOfText (s : String) : Checked Int :=
  match canonicalInt s.toList with
  | .value n => .valid n
  | .tooLong => .refuse .integerSize
  | .malformed =>
    match canonicalForm? s.toList with
    | some cs =>
      match canonicalInt cs with
      | .value n => .valid n
      | _ => .refuse .integerText
    | none => .refuse .integerText

/-- The integer that a floating point number equals; beyond 64 bits there is none. -/
def integerOfFloat (x : Binary64) : Checked Int :=
  if !x.isFinite then .refuse .notFinite
  else
    match x.toInt? with
    | none => .refuse .integerFraction
    | some n => if -wordLimit 64 < n ∧ n < wordLimit 64 then .valid n else .refuse .integerSize

/-- An integer. -/
def integer (v : Value) : Checked Int :=
  match asText? .integerText v with
  | some s => s.andThen integerOfText
  | none =>
    match v with
    | .int n => .valid n
    | .bool b => .valid (if b then 1 else 0)
    | .float x => integerOfFloat x
    | _ => .refuse .notInteger

/-! ## Numbers -/

/-- The number that a text writes, with blanks around it or with single underscores. -/
def floatOfText? (s : String) : Option Binary64 :=
  match signedDecimal? (trimBoth isWhiteSpace s).toList with
  | some x => some x
  | none => (withoutUnderscores? s.toList).bind signedDecimal?

/-- A floating point number. -/
def number (v : Value) : Checked Binary64 :=
  match asText? .numberText v with
  | some s => s.andThen fun s =>
    match floatOfText? s with
    | some x => .valid x
    | none => .refuse .numberText
  | none =>
    match v with
    | .float x => .valid x
    | .int n =>
      let x := Binary64.ofInt n
      if x.isFinite then .valid x else .refuse .notNumber
    | .bool b => .valid (if b then 1 else 0)
    | _ => .refuse .notNumber

/-! ## Booleans -/

/-- The boolean that a word stands for, in letters of either case. -/
def booleanOfText? (s : String) : Option Bool :=
  let w := asciiLower s
  if ["0", "f", "n", "no", "off", "false"].contains w then some false
  else if ["1", "t", "y", "on", "yes", "true"].contains w then some true
  else none

def booleanOfInt (n : Int) : Checked Bool :=
  if n = 0 then .valid false else if n = 1 then .valid true else .refuse .booleanText

/-- A boolean. -/
def boolean (v : Value) : Checked Bool :=
  match asText? .booleanText v with
  | some s => s.andThen fun s =>
    match booleanOfText? s with
    | some b => .valid b
    | none => .refuse .booleanText
  | none =>
    match v with
    | .bool b => .valid b
    | .int n => booleanOfInt n
    | .float x =>
      match x.toInt? with
      | some n => booleanOfInt n
      | none => .refuse .notBoolean
    | _ => .refuse .notBoolean

/-! ## Choices -/

/-- One of several choices, written exactly as it is named. -/
def oneOf {α : Type} (all : List α) (name : α → String) : Value → Checked α
  | .text s =>
    match all.find? (name · == s) with
    | some a => .valid a
    | none => .refuse (.choice (all.map name))
  | _ => .refuse (.choice (all.map name))

/-! ## Times -/

/-- A time: a text, a number of seconds, or a date for its midnight. -/
def datetime : Value → Checked DateTime
  | .scalar (.datetime t) => .valid t
  | .scalar (.date d) => .valid ⟨d, 0, 0, 0, 0, none⟩
  | .text s => ofBytes s.toUTF8.toList
  | .bytes bs => ofBytes bs
  | .int n =>
    if -wordLimit 64 ≤ n ∧ n < wordLimit 64 then ofNumber (DateTime.ofTimestamp n 0)
    else
      let x := Binary64.ofInt n
      if x.isFinite then ofNumber (DateTime.ofSeconds x) else .refuse .notDatetime
  | .float x => ofNumber (DateTime.ofSeconds x)
  | _ => .refuse .notDatetime
where
  settled (t : DateTime) : Checked DateTime :=
    if t.date.year = 0 then .refuse (.timestamp .yearZero) else .valid t
  ofNumber : Except DateTime.ReadError DateTime → Checked DateTime
    | .ok t => settled t
    | .error reason => .refuse (.timestamp reason)
  ofBytes (bs : List UInt8) : Checked DateTime :=
    match DateTime.read bs with
    | .ok t => settled t
    | .error reason => .refuse (.datetimeText reason)

/-! ## Limits -/

/-- A number that respects bounds; the first violated one is reported. -/
def within (bounds : List Bound) (x : Number) : Checked Number :=
  match bounds.find? (·.violatedBy x) with
  | some b => .refuse (.bound b)
  | none => .valid x

/-- An integer that respects bounds. -/
def boundedInteger (bounds : List Bound) (v : Value) : Checked Int :=
  (integer v).andThen fun n => (within bounds (.int n)).map fun _ => n

/-- A floating point number that respects bounds. -/
def boundedNumber (bounds : List Bound) (v : Value) : Checked Number :=
  (number v).andThen fun x => within bounds (.float x)

/-- Nothing, or a value of another kind. -/
def nullable {α : Type} (read : Value → Checked α) : Value → Checked (Option α)
  | .null => .valid none
  | v => (read v).map some

end MetricsAgent.Read
