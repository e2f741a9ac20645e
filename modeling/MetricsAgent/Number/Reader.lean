import MetricsAgent.Number.Decimal
import MetricsAgent.Text.CharClass

/-!
# Numbers written as text

Whole numbers in a base, with a sign, blanks around them and single underscores between digits; and
floating point numbers as decimals or as words for what is not finite.
-/

namespace MetricsAgent.NumberText

open CharClass

/-! ## Plain forms -/

/-- The digits and letters of a number in plain form: blanks of any script as spaces, digits of any
script as ASCII digits.  A text that is ASCII already stays as it is. -/
def plainChars (s : String) : List Char :=
  let cs := s.toList
  if cs.all (·.toNat < 128) then cs
  else cs.map fun c =>
    if c.toNat < 128 then c
    else if isBlank c then ' '
    else match digitValue? c with
      | some d => Char.ofNat (48 + d)
      | none => '?'

/-- The six ASCII blanks. -/
def isAsciiBlank (c : Char) : Bool :=
  c == ' ' || (9 ≤ c.toNat && c.toNat ≤ 13)

/-- Removes a sign; the first component tells whether it was a minus. -/
def splitSign : List Char → Bool × List Char
  | '-' :: rest => (true, rest)
  | '+' :: rest => (false, rest)
  | rest => (false, rest)

/-! ## Whole numbers -/

/-- Why a text is no whole number. -/
inductive Fault
  | malformed
  | tooLong (digits : Nat)
  deriving DecidableEq, Repr

/-- The most digits of a whole number in base ten. -/
def digitLimit : Nat := 4300

/-- The value of a digit or letter in a base. -/
def digitIn? (base : Nat) (c : Char) : Option Nat :=
  if isHexDigit c && hexValue c < base then some (hexValue c) else none

/-- Removes the mark of base two, eight or sixteen, and an underscore behind it. -/
def withoutBaseMark (base : Nat) (cs : List Char) : List Char :=
  match cs with
  | '0' :: m :: rest =>
    if (base = 16 && (m == 'x' || m == 'X')) || (base = 8 && (m == 'o' || m == 'O'))
        || (base = 2 && (m == 'b' || m == 'B')) then
      (match rest with
        | '_' :: more => more
        | more => more)
    else cs
  | _ => cs

/-- Whether two underscores stand side by side. -/
def hasDoubleUnderscore : List Char → Bool
  | '_' :: '_' :: _ => true
  | _ :: rest => hasDoubleUnderscore rest
  | [] => false

/-- The whole number that a text writes in a base. -/
def integer (base : Nat) (s : String) : Except Fault Int :=
  let cs := (plainChars s).dropWhile isAsciiBlank
  let (negative, cs) := splitSign cs
  let cs := withoutBaseMark base cs
  let run := cs.takeWhile fun c => (digitIn? base c).isSome || c == '_'
  let rest := (cs.drop run.length).dropWhile isAsciiBlank
  let digits := run.filterMap (digitIn? base)
  if digits.isEmpty || run.head? == some '_' || run.getLast? == some '_' || hasDoubleUnderscore run then
    .error .malformed
  else if base = 10 && digitLimit < digits.length then .error (.tooLong digits.length)
  else if !rest.isEmpty then .error .malformed
  else
    let n := digits.foldl (fun n d => base * n + d) 0
    .ok (if negative then -(n : Int) else n)

/-! ## Floating point numbers -/

/-- A decimal with optional fraction and exponent; at least one digit stands before the exponent. -/
def decimal? (negative : Bool) (cs : List Char) : Option Binary64 :=
  let whole := cs.takeWhile isAsciiDigit
  let rest := cs.drop whole.length
  let (part, rest) := match rest with
    | '.' :: r =>
      let p := r.takeWhile isAsciiDigit
      (p, r.drop p.length)
    | r => ([], r)
  if whole.isEmpty && part.isEmpty then none
  else
    let mantissa := digitsValue (whole ++ part)
    match rest with
    | [] => some (Decimal.toBinary64 negative mantissa (-part.length))
    | e :: r =>
      if e == 'e' || e == 'E' then
        let (down, digits) := splitSign r
        if digits.isEmpty || !digits.all isAsciiDigit then none
        else
          let n : Int := digitsValue digits
          some (Decimal.toBinary64 negative mantissa ((if down then -n else n) - part.length))
      else none

/-- A decimal, or a word for what is not finite, with an optional sign. -/
def signedDecimal? (cs : List Char) : Option Binary64 :=
  let (negative, body) := splitSign cs
  let word := asciiLower (String.ofList body)
  if word == "inf" || word == "infinity" then some (.infinite negative)
  else if word == "nan" then some .nan
  else decimal? negative body

/-- Whether each underscore stands between two digits. -/
def underscoresBetweenDigits : Char → List Char → Bool
  | last, [] => last != '_'
  | last, c :: rest =>
    (if c == '_' then isAsciiDigit last else last != '_' || isAsciiDigit c)
      && underscoresBetweenDigits c rest

/-- The floating point number that a text writes. -/
def float? (s : String) : Option Binary64 :=
  let cs := (((plainChars s).dropWhile isAsciiBlank).reverse.dropWhile isAsciiBlank).reverse
  if cs.contains '_' then
    if underscoresBetweenDigits ' ' cs then signedDecimal? (cs.filter (· != '_')) else none
  else signedDecimal? cs

end MetricsAgent.NumberText
