import MetricsAgent.Json.Basic
import MetricsAgent.Text.CharClass

/-!
# Reading JSON

A reader takes the characters that remain and gives the value and what is left after it.  The bound
on the depth of calls is the length of the text, which no text can exceed.  Beside the numbers of the
standard it knows the words for those that are not finite.
-/

namespace MetricsAgent.Json

/-- Blanks between the parts of a document. -/
def isSpace (c : Char) : Bool :=
  c == ' ' || c == '\t' || c == '\n' || c == '\r'

def skipSpace (cs : List Char) : List Char :=
  cs.dropWhile isSpace

/-! ## Strings -/

/-- Four hexadecimal digits at the start. -/
def hexUnit? : List Char → Option (Nat × List Char)
  | a :: b :: c :: d :: rest =>
    if [a, b, c, d].all CharClass.isHexDigit then
      some ([a, b, c, d].foldl (fun n x => 16 * n + CharClass.hexValue x) 0, rest)
    else none
  | _ => none

/-- The character of a single escape letter. -/
def escapeChar? : Char → Option Char
  | '"' => some '"'
  | '\\' => some '\\'
  | '/' => some '/'
  | 'b' => some '\x08'
  | 'f' => some '\x0c'
  | 'n' => some '\n'
  | 'r' => some '\r'
  | 't' => some '\t'
  | _ => none

/-- The rest of a string, up to its closing mark; a pair of surrogate units is one character. -/
def stringTail : Nat → List Char → Option (List Char × List Char)
  | 0, _ => none
  | _, [] => none
  | fuel + 1, c :: rest =>
    if c == '"' then some ([], rest)
    else if c == '\\' then
      match rest with
      | 'u' :: digits => do
        let (high, rest) ← hexUnit? digits
        if 0xD800 ≤ high && high < 0xDC00 then
          match rest with
          | '\\' :: 'u' :: more =>
            let (low, rest) ← hexUnit? more
            if 0xDC00 ≤ low && low < 0xE000 then
              let (tail, rest) ← stringTail fuel rest
              return (Char.ofNat (0x10000 + (high - 0xD800) * 1024 + (low - 0xDC00)) :: tail, rest)
            else none
          | _ => none
        else if 0xDC00 ≤ high && high < 0xE000 then none
        else
          let (tail, rest) ← stringTail fuel rest
          return (Char.ofNat high :: tail, rest)
      | e :: rest => do
        let x ← escapeChar? e
        let (tail, rest) ← stringTail fuel rest
        return (x :: tail, rest)
      | [] => none
    else if c.toNat < 32 then none
    else do
      let (tail, rest) ← stringTail fuel rest
      return (c :: tail, rest)

/-! ## Numbers -/

/-- The digits at the start, and what follows them. -/
def digitSpan (cs : List Char) : List Char × List Char :=
  (cs.takeWhile CharClass.isAsciiDigit, cs.dropWhile CharClass.isAsciiDigit)

/-- An exponent part, if there is one. -/
def exponentPart (cs : List Char) : Option Int × List Char :=
  match cs with
  | e :: rest =>
    if e == 'e' || e == 'E' then
      let (negative, rest') := match rest with
        | '-' :: r => (true, r)
        | '+' :: r => (false, r)
        | r => (false, r)
      match digitSpan rest' with
      | ([], _) => (none, cs)
      | (ds, after) =>
        let n : Int := CharClass.digitsValue ds
        (some (if negative then -n else n), after)
    else (none, cs)
  | [] => (none, cs)

/-- A fraction part with at least one digit, if there is one. -/
def fractionPart (cs : List Char) : Option (List Char) × List Char :=
  match cs with
  | '.' :: rest =>
    match digitSpan rest with
    | ([], _) => (none, cs)
    | (ds, after) => (some ds, after)
  | _ => (none, cs)

/-- A number without its sign: floating point if it has a fraction or an exponent.  A zero stands in
front of no other digit. -/
def unsignedNumber (negative : Bool) (cs : List Char) : Option (Json × List Char) :=
  match digitSpan cs with
  | ([], _) => none
  | ('0' :: _ :: _, _) => none
  | (whole, rest) =>
    let (part, rest) := fractionPart rest
    let (exponent, rest) := exponentPart rest
    match part, exponent with
    | none, none =>
      let n : Int := CharClass.digitsValue whole
      some (.int (if negative then -n else n), rest)
    | part, exponent =>
      let ds := part.getD []
      some (.float (Decimal.toBinary64 negative (CharClass.digitsValue (whole ++ ds))
        (exponent.getD 0 - ds.length)), rest)

/-- Takes a word off the start. -/
def word? (word : List Char) (cs : List Char) : Option (List Char) :=
  if word.isPrefixOf cs then some (cs.drop word.length) else none

/-! ## Values -/

mutual

/-- A value at the start of a text, blanks before it skipped. -/
def value : Nat → List Char → Option (Json × List Char)
  | 0, _ => none
  | fuel + 1, cs =>
    match skipSpace cs with
    | [] => none
    | '"' :: rest => (stringTail (rest.length + 1) rest).map fun (s, r) => (.string (String.ofList s), r)
    | '[' :: rest =>
      match skipSpace rest with
      | ']' :: after => some (.array [], after)
      | _ => (items fuel rest).map fun (xs, r) => (.array xs, r)
    | '\x7b' :: rest =>
      match skipSpace rest with
      | '\x7d' :: after => some (.object [], after)
      | _ => (members fuel rest).map fun (ms, r) => (.object ms, r)
    | '-' :: rest =>
      match word? "Infinity".toList rest with
      | some after => some (.float (.infinite true), after)
      | none => unsignedNumber true rest
    | 't' :: rest => (word? "rue".toList rest).map fun r => (.bool true, r)
    | 'f' :: rest => (word? "alse".toList rest).map fun r => (.bool false, r)
    | 'n' :: rest => (word? "ull".toList rest).map fun r => (.null, r)
    | 'N' :: rest => (word? "aN".toList rest).map fun r => (.float .nan, r)
    | 'I' :: rest => (word? "nfinity".toList rest).map fun r => (.float (.infinite false), r)
    | cs => unsignedNumber false cs

/-- The items of an array and its closing bracket. -/
def items : Nat → List Char → Option (List Json × List Char)
  | 0, _ => none
  | fuel + 1, cs => do
    let (x, rest) ← value fuel cs
    match skipSpace rest with
    | ',' :: more =>
      let (xs, rest) ← items fuel more
      return (x :: xs, rest)
    | ']' :: after => return ([x], after)
    | _ => none

/-- The members of an object and its closing bracket. -/
def members : Nat → List Char → Option (List (String × Json) × List Char)
  | 0, _ => none
  | fuel + 1, cs =>
    match skipSpace cs with
    | '"' :: rest => do
      let (k, rest) ← stringTail (rest.length + 1) rest
      match skipSpace rest with
      | ':' :: rest =>
        let (v, rest) ← value fuel rest
        match skipSpace rest with
        | ',' :: more =>
          let (ms, rest) ← members fuel more
          return ((String.ofList k, v) :: ms, rest)
        | '\x7d' :: after => return ([(String.ofList k, v)], after)
        | _ => none
      | _ => none
    | _ => none

end

/-- The document that a text writes, if it writes one and nothing else. -/
def parse (s : String) : Option Json :=
  match value (s.length + 1) s.toList with
  | some (j, rest) => if (skipSpace rest).isEmpty then some j else none
  | none => none

end MetricsAgent.Json
