import MetricsAgent.Json.Basic
import MetricsAgent.Value

/-!
# Templates

A template is a text in which conversions, each begun by a percent sign, stand for values.  A
conversion may name a value of a mapping between parentheses; otherwise it takes the next value of a
sequence.  Flags, a width and a precision lay the value out; either number may be taken from the
sequence by a star.  Every value of a sequence has to be used.  A value has no text if there is a
whole number in it that is too long to be written.
-/

namespace MetricsAgent

/-! ## Texts of values -/

/-- Whether a scalar is a whole number that is too long to be written. -/
def Scalar.isTooLong : Scalar → Bool
  | .int n => tenTo Json.digitLimit ≤ n.natAbs
  | _ => false

mutual

/-- Whether there is a whole number in a value that is too long to be written. -/
def Value.isTooLong : Value → Bool
  | .scalar s => s.isTooLong
  | .list xs => anyTooLong xs
  | .tuple xs => anyTooLong xs
  | .set ss => ss.any Scalar.isTooLong
  | .map es => anyEntryTooLong es

def anyTooLong : List Value → Bool
  | [] => false
  | x :: xs => x.isTooLong || anyTooLong xs

def anyEntryTooLong : List (Scalar × Value) → Bool
  | [] => false
  | (k, v) :: rest => k.isTooLong || v.isTooLong || anyEntryTooLong rest

end

namespace Value

/-- A value in running text, if it can be written. -/
def written (v : Value) : Except Json.PrintError String :=
  if v.isTooLong then .error .tooManyDigits else .ok v.display

/-- A value as a literal, if it can be written. -/
def writtenLiteral (v : Value) : Except Json.PrintError String :=
  if v.isTooLong then .error .tooManyDigits else .ok v.literal

end Value

namespace Template

/-! ## Errors -/

/-- Why a template cannot be filled in. -/
inductive FillError
  | tooFew
  | tooMany
  | needsMapping
  | missingKey (key : String)
  | incompleteKey
  | incomplete
  | starNotInteger
  | starTooLarge (word : String)
  | sizeTooLarge (what : String)
  | unsupported (c : Char) (index : Nat)
  | notReal (c : Char) (kind : String)
  | notInteger (c : Char) (kind : String)
  | notNumber (kind : String)
  | notCharacter
  | characterRange
  | wholeOfInfinity
  | wholeOfNaN
  | tooLarge
  | print (e : Json.PrintError)
  deriving DecidableEq

namespace FillError

/-- The name of an error. -/
def name : FillError → String
  | .missingKey _ => "KeyError"
  | .incompleteKey => "ValueError"
  | .incomplete => "ValueError"
  | .unsupported _ _ => "ValueError"
  | .sizeTooLarge _ => "ValueError"
  | .starTooLarge _ => "OverflowError"
  | .wholeOfNaN => "ValueError"
  | .characterRange => "OverflowError"
  | .wholeOfInfinity => "OverflowError"
  | .tooLarge => "OverflowError"
  | .print _ => "ValueError"
  | _ => "TypeError"

/-- The wording of an error. -/
def message : FillError → String
  | .tooFew => "not enough arguments for format string"
  | .tooMany => "not all arguments converted during string formatting"
  | .needsMapping => "format requires a mapping"
  | .missingKey key => Quoted.text key
  | .incompleteKey => "incomplete format key"
  | .incomplete => "incomplete format"
  | .starNotInteger => "* wants int"
  | .starTooLarge word => "Python int too large to convert to C " ++ word
  | .sizeTooLarge what => what ++ " too big"
  | .unsupported c index =>
    let shown := if 31 ≤ c.toNat ∧ c.toNat ≤ 126 then c else '?'
    "unsupported format character '" ++ String.singleton shown ++ "' (0x"
      ++ CharClass.hexText 1 c.toNat ++ ") at index " ++ decimalText index
  | .notReal c kind =>
    "%" ++ String.singleton c ++ " format: a real number is required, not " ++ kind
  | .notInteger c kind =>
    "%" ++ String.singleton c ++ " format: an integer is required, not " ++ kind
  | .notNumber kind => "must be real number, not " ++ kind
  | .notCharacter => "%c requires int or char"
  | .characterRange => "%c arg not in range(0x110000)"
  | .wholeOfInfinity => "cannot convert float infinity to integer"
  | .wholeOfNaN => "cannot convert float NaN to integer"
  | .tooLarge => "int too large to convert to float"
  | .print e => e.message

end FillError

/-! ## Values to fill in -/

/-- What a template is filled in with. -/
inductive Arguments
  | sequence (vs : List Value)
  | mapping (es : Entries)

/-- What is left to fill in: a sequence, or a single value that was used already or not. -/
inductive Supply
  | sequence (vs : List Value)
  | single (v : Value) (used : Bool)

/-- The mapping that keys refer to, and what is left to fill in. -/
structure Source where
  keys : Option Entries
  supply : Supply

namespace Source

/-- All of the arguments. -/
def ofArguments : Arguments → Source
  | .sequence vs => ⟨none, .sequence vs⟩
  | .mapping es => ⟨some es, .single (.map es) false⟩

/-- The next value. -/
def next (s : Source) : Except FillError (Value × Source) :=
  match s.supply with
  | .sequence (v :: vs) => .ok (v, { s with supply := .sequence vs })
  | .single v false => .ok (v, { s with supply := .single v true })
  | _ => .error .tooFew

/-- Makes the value of a key the next one. -/
def select (s : Source) (key : String) : Except FillError Source :=
  match s.keys with
  | none => .error .needsMapping
  | some es =>
    match Entries.field? es key with
    | some v => .ok { s with supply := .single v false }
    | none => .error (.missingKey key)

/-- Whether nothing was left out. -/
def isUsedUp (s : Source) : Bool :=
  s.keys.isSome || match s.supply with
    | .sequence vs => vs.isEmpty
    | .single _ used => used

end Source

/-! ## Conversions -/

/-- How a value is laid out. -/
structure Layout where
  left : Bool
  plus : Bool
  blank : Bool
  alternate : Bool
  zeros : Bool
  width : Nat
  precision : Option Nat

/-- The layout without any flags. -/
def Layout.plain : Layout := ⟨false, false, false, false, false, 0, none⟩

/-- A flag switched on. -/
def Layout.flag? (l : Layout) : Char → Option Layout
  | '-' => some { l with left := true }
  | '+' => some { l with plus := true }
  | ' ' => some { l with blank := true }
  | '#' => some { l with alternate := true }
  | '0' => some { l with zeros := true }
  | _ => none

/-- Reads flags. -/
def readFlags (l : Layout) : List Char → Layout × List Char
  | [] => (l, [])
  | c :: cs =>
    match l.flag? c with
    | some l => readFlags l cs
    | none => (l, c :: cs)

/-- Reads the key up to its closing parenthesis, those inside it being paired. -/
def readKey : Nat → List Char → Option (List Char × List Char)
  | _, [] => none
  | depth, c :: cs =>
    if c == ')' && depth == 0 then some ([], cs)
    else
      let depth := if c == '(' then depth + 1 else if c == ')' then depth - 1 else depth
      (readKey depth cs).map fun (key, rest) => (c :: key, rest)

/-- A number in a layout: what it is for, the type of a star's value, and the largest one. -/
structure Size where
  what : String
  word : String
  limit : Nat

def Size.width : Size := ⟨"width", "ssize_t", twoTo 63 - 1⟩

def Size.precision : Size := ⟨"precision", "int", twoTo 31 - 1⟩

/-- The whole number that a star takes. -/
def Size.ofValue (k : Size) (v : Value) : Except FillError Int :=
  match v with
  | .int n => if n.natAbs ≤ k.limit then .ok n else .error (.starTooLarge k.word)
  | .bool b => .ok (if b then 1 else 0)
  | _ => .error .starNotInteger

/-- Reads a number, or takes it from the values. -/
def Size.read (k : Size) (s : Source) (cs : List Char) :
    Except FillError (Option Int × Source × List Char) :=
  match cs with
  | '*' :: rest => do
    let (v, s) ← s.next
    let n ← k.ofValue v
    return (some n, s, rest)
  | cs =>
    let digits := cs.takeWhile CharClass.isAsciiDigit
    let rest := cs.dropWhile CharClass.isAsciiDigit
    let n := CharClass.digitsValue digits
    if digits.isEmpty then .ok (none, s, rest)
    else if n ≤ k.limit then .ok (some n, s, rest)
    else .error (.sizeTooLarge k.what)

/-- Reads a layout. -/
def readLayout (s : Source) (cs : List Char) : Except FillError (Layout × Source × List Char) := do
  let (l, cs) := readFlags .plain cs
  let (width, s, cs) ← Size.width.read s cs
  let w := width.getD 0
  let l := { l with left := l.left || w < 0, width := w.natAbs }
  let (l, s, cs) ← match cs with
    | '.' :: cs => do
      let (p, s, cs) ← Size.precision.read s cs
      pure ({ l with precision := some (p.getD 0).toNat }, s, cs)
    | cs => pure (l, s, cs)
  match cs with
  | c :: cs => if c == 'h' || c == 'l' || c == 'L' then return (l, s, cs) else return (l, s, c :: cs)
  | [] => return (l, s, [])

/-! ## Laying out -/

/-- Characters before which zeros are not put: the sign, and the mark of the base. -/
structure Pieces where
  sign : String
  base : String
  body : String

/-- Pads a value to the width. -/
def Layout.pad (l : Layout) (zeros : Bool) (p : Pieces) : String :=
  let size := p.sign.length + p.base.length + p.body.length
  let fill (c : Char) : String := String.ofList (List.replicate (l.width - size) c)
  if l.left then p.sign ++ p.base ++ p.body ++ fill ' '
  else if zeros then p.sign ++ p.base ++ fill '0' ++ p.body
  else fill ' ' ++ p.sign ++ p.base ++ p.body

/-- The sign of a number. -/
def Layout.sign (l : Layout) (negative : Bool) : String :=
  if negative then "-" else if l.plus then "+" else if l.blank then " " else ""

/-- A text, cut to the precision. -/
def Layout.text (l : Layout) (s : String) : String :=
  let s := match l.precision with
    | some p => String.ofList (s.toList.take p)
    | none => s
  l.pad false ⟨"", "", s⟩

/-- The digits of a number in a base. -/
def digitsIn (base n : Nat) : String :=
  String.ofList (Nat.toDigits base n)

/-- A whole number; the precision is the least number of digits. -/
def Layout.whole (l : Layout) (c : Char) (n : Int) : String :=
  let digits := match c with
    | 'o' => digitsIn 8 n.natAbs
    | 'x' => digitsIn 16 n.natAbs
    | 'X' => (digitsIn 16 n.natAbs).toUpper
    | _ => decimalText n.natAbs
  let base := match c, l.alternate with
    | 'o', true => "0o"
    | 'x', true => "0x"
    | 'X', true => "0X"
    | _, _ => ""
  let least := l.precision.getD 0
  let digits := String.ofList (List.replicate (least - digits.length) '0') ++ digits
  l.pad l.zeros ⟨l.sign (n < 0), base, digits⟩

/-- A point after digits that have none, before an exponent if there is one. -/
def withPoint (digits : String) : String :=
  let cs := digits.toList
  if cs.contains '.' || !cs.all (fun c => c != 'n') then digits
  else String.ofList (cs.takeWhile (· != 'e') ++ ['.'] ++ cs.dropWhile (· != 'e'))

/-- A floating point number. -/
def Layout.number (l : Layout) (c : Char) (x : Binary64) : String :=
  let places := l.precision.getD 6
  let text := match c.toLower with
    | 'e' => Decimal.scientific places x
    | 'f' => Decimal.fixed places x
    | _ => Decimal.general places l.alternate x
  let negative := text.startsWith "-"
  let digits := if negative then String.ofList (text.toList.drop 1) else text
  let digits := if l.alternate then withPoint digits else digits
  let digits := if c.isUpper then digits.toUpper else digits
  l.pad l.zeros ⟨l.sign negative, "", digits⟩

/-! ## Values -/

/-- The whole number that a value stands for. -/
def wholeOf (c : Char) (v : Value) : Except FillError Int :=
  let based := c == 'o' || c == 'x' || c == 'X'
  match v with
  | .int n => .ok n
  | .bool b => .ok (if b then 1 else 0)
  | .float x =>
    if based then .error (.notInteger c "float")
    else if x.isNaN then .error .wholeOfNaN
    else
      match x.toRat? with
      | some q => .ok (if q < 0 then -((-q).floor) else q.floor)
      | none => .error .wholeOfInfinity
  | v => .error (if based then .notInteger c v.longKindName else .notReal c v.longKindName)

/-- The floating point number that a value stands for. -/
def numberOf (v : Value) : Except FillError Binary64 :=
  match v with
  | .int n =>
    let x := Binary64.ofInt n
    if x.isFinite then .ok x else .error .tooLarge
  | .bool b => .ok (Binary64.ofInt (if b then 1 else 0))
  | .float x => .ok x
  | v => .error (.notNumber v.longKindName)

/-- The character that a value stands for. -/
def characterOf (v : Value) : Except FillError Char :=
  let ofNumber (n : Int) : Except FillError Char :=
    if 0 ≤ n ∧ n < 0x110000 then .ok (Char.ofNat n.toNat) else .error .characterRange
  match v with
  | .int n => ofNumber n
  | .bool b => ofNumber (if b then 1 else 0)
  | .text s =>
    match s.toList with
    | [c] => .ok c
    | _ => .error .notCharacter
  | _ => .error .notCharacter

/-- A character that is not ASCII, by its number. -/
def asciiOnly (c : Char) : String :=
  if c.toNat < 0x80 then String.singleton c
  else if c.toNat < 0x100 then "\\x" ++ CharClass.hexText 2 c.toNat
  else if c.toNat < 0x10000 then "\\u" ++ CharClass.hexText 4 c.toNat
  else "\\U" ++ CharClass.hexText 8 c.toNat

/-- A value as a conversion writes it; `index` is the place of the conversion in the template. -/
def convert (l : Layout) (c : Char) (index : Nat) (v : Value) : Except FillError String :=
  match c with
  | 's' => (v.written.map l.text).mapError .print
  | 'r' => (v.writtenLiteral.map l.text).mapError .print
  | 'a' =>
    (v.writtenLiteral.map fun s => l.text (String.join (s.toList.map asciiOnly))).mapError .print
  | 'c' => (characterOf v).map fun c => l.pad false ⟨"", "", String.singleton c⟩
  | c =>
    if "diu".toList.contains c then do
      let n ← wholeOf c v
      if (Value.int n).isTooLong then throw (.print .tooManyDigits)
      return l.whole c n
    else if "oxX".toList.contains c then (wholeOf c v).map (l.whole c)
    else if "eEfFgG".toList.contains c then (numberOf v).map (l.number c)
    else .error (.unsupported c index)

/-! ## Filling in -/

/-- Reads the key of a conversion if it has one. -/
def selectKey (s : Source) (cs : List Char) : Except FillError (Source × List Char) :=
  match cs with
  | '(' :: cs =>
    if s.keys.isNone then .error .needsMapping
    else
      match readKey 0 cs with
      | none => .error .incompleteKey
      | some (key, rest) => (s.select (String.ofList key)).map fun s => (s, rest)
  | cs => .ok (s, cs)

/-- Fills in the rest of a template of `total` characters. -/
def fillFrom (total : Nat) : Nat → Source → List Char → Except FillError String
  | 0, _, _ => .ok ""
  | fuel + 1, s, cs =>
    match cs with
    | [] => if s.isUsedUp then .ok "" else .error .tooMany
    | '%' :: '%' :: rest => return "%" ++ (← fillFrom total fuel s rest)
    | '%' :: cs => do
      let (s, cs) ← selectKey s cs
      let (l, s, cs) ← readLayout s cs
      match cs with
      | [] => throw .incomplete
      | c :: rest =>
        let (v, s) ← s.next
        let text ← convert l c (total - rest.length - 1) v
        return text ++ (← fillFrom total fuel s rest)
    | c :: rest => return String.singleton c ++ (← fillFrom total fuel s rest)

/-- Fills in a template. -/
def fill (template : String) (a : Arguments) : Except FillError String :=
  let cs := template.toList
  fillFrom cs.length (cs.length + 1) (.ofArguments a) cs

end Template

end MetricsAgent
