import MetricsAgent.Yaml.Node
import MetricsAgent.Number.Reader
import MetricsAgent.Text.Base64
import MetricsAgent.Value

/-!
# Values of nodes

Each standard type reads its nodes in its own way.  A document is read level by level: what is wrong
near the root is reported before what is wrong deeper down, and on one level the first fault in the
text counts.
-/

namespace MetricsAgent.Yaml

open CharClass

/-! ## Faults and their levels -/

/-- A result, or an error with the level at which it is met. -/
abbrev Levelled (α : Type) := Except (Nat × Error) α

namespace Levelled

/-- A result met at a level. -/
def at_ {α : Type} (level : Nat) : Except Error α → Levelled α
  | .ok x => .ok x
  | .error e => .error (level, e)

/-- Both results; of two errors the one nearer to the root, and the first of two on one level. -/
def both {α β : Type} (a : Levelled α) (b : Levelled β) : Levelled (α × β) :=
  match a, b with
  | .ok x, .ok y => .ok (x, y)
  | .error e, .ok _ => .error e
  | .ok _, .error f => .error f
  | .error e, .error f => .error (if f.1 < e.1 then f else e)

/-- All results of a list. -/
def all {α : Type} : List (Levelled α) → Levelled (List α)
  | [] => .ok []
  | r :: rest => (both r (all rest)).map fun (x, xs) => x :: xs

end Levelled

/-! ## Scalars -/

/-- An error of a node, without an activity. -/
def valueError {α : Type} (problem : String) (m : Mark) : Except Error α :=
  .error (.problem (.plain .value problem m))

mutual

/-- The text of a scalar, or of a mapping that gives itself a value under the equals sign. -/
def Node.scalarText : Node → Except Error String
  | .scalar _ t _ => .ok t
  | .mapping _ es m =>
    match entryText? es with
    | some r => r
    | none => valueError "expected a scalar node, but found mapping" m
  | .sequence _ _ m => valueError "expected a scalar node, but found sequence" m

/-- The text of the first entry whose key is an equals sign. -/
def entryText? : List (Node × Node) → Option (Except Error String)
  | [] => none
  | (k, v) :: rest => if k.tag == coreTag "value" then some v.scalarText else entryText? rest

end

namespace ScalarType

/-- A fault of a scalar. -/
def fault {α : Type} (f : ScalarFault) : Except Error α :=
  .error (.scalar f)

/-- A whole number written in a base. -/
def integerIn (base : Nat) (s : String) : Except Error Int :=
  match NumberText.integer base s with
  | .ok n => .ok n
  | .error .malformed => fault (.integerText base s)
  | .error (.tooLong digits) => fault (.integerSize digits)

/-- A floating point number. -/
def floatIn (s : String) : Except Error Binary64 :=
  match NumberText.float? s with
  | some x => .ok x
  | none => fault (.numberText s)

/-- Whether a number begins with a minus sign, and what follows its sign; a number has at least one
character. -/
def signed (cs : List Char) : Except Error (Bool × List Char) :=
  match cs with
  | [] => fault .emptyNumber
  | c :: rest =>
    if c == '-' then .ok (true, rest) else if c == '+' then .ok (false, rest) else .ok (false, cs)

/-- The parts of a number in base sixty. -/
def sixtieths (cs : List Char) : List String :=
  (cs.splitOn ':').map String.ofList

/-- A whole number: its first characters tell the base, colons separate digits in base sixty. -/
def integer (s : String) : Except Error Int := do
  let (negative, cs) ← signed (s.toList.filter (· != '_'))
  let n ← match cs with
    | ['0'] => .ok 0
    | '0' :: 'b' :: ds => integerIn 2 (String.ofList ds)
    | '0' :: 'x' :: ds => integerIn 16 (String.ofList ds)
    | '0' :: _ => integerIn 8 (String.ofList cs)
    | [] => fault .emptyNumber
    | _ =>
      if cs.contains ':' then do
        let digits ← (sixtieths cs).mapM (integerIn 10)
        pure (digits.foldl (fun n d => 60 * n + d) 0)
      else integerIn 10 (String.ofList cs)
  return if negative then -n else n

/-- The sum of digits in base sixty, the last weighing one, added from the last to the first.  A
weight that is too large for a floating point number is a fault, whatever the digit. -/
def sumOfSixtieths (digits : List Binary64) : Except Error Binary64 := do
  let (sum, _) ← digits.reverse.foldlM
    (fun (sum, weight) d =>
      if (Binary64.ofInt weight).isFinite then .ok (sum + d * Binary64.ofInt weight, 60 * weight)
      else fault .weightSize)
    ((0 : Binary64), (1 : Int))
  return sum

/-- A floating point number. -/
def float (s : String) : Except Error Binary64 := do
  let (negative, cs) ← signed ((asciiLower s).toList.filter (· != '_'))
  let t := String.ofList cs
  let x ←
    if t == ".inf" then .ok (.infinite false)
    else if t == ".nan" then .ok .nan
    else if cs.contains ':' then do
      let digits ← (sixtieths cs).mapM floatIn
      sumOfSixtieths digits
    else floatIn t
  return if negative then -x else x

/-- A boolean. -/
def boolean (s : String) : Except Error Bool :=
  let w := asciiLower s
  if ["yes", "true", "on"].contains w then .ok true
  else if ["no", "false", "off"].contains w then .ok false
  else fault (.unknownBoolean w)

/-- The position and the words for the first characters of a text that are not ASCII. -/
def notAscii? (cs : List Char) : Option String :=
  let before := cs.takeWhile (·.toNat < 128)
  let spoilt := (cs.drop before.length).takeWhile (128 ≤ ·.toNat)
  match spoilt with
  | [] => none
  | [c] =>
    let code := if c.toNat < 0x100 then "\\x" ++ hexText 2 c.toNat
      else if c.toNat < 0x10000 then "\\u" ++ hexText 4 c.toNat else "\\U" ++ hexText 8 c.toNat
    some ("'ascii' codec can't encode character '" ++ code ++ "' in position "
      ++ decimalText before.length ++ ": ordinal not in range(128)")
  | _ =>
    some ("'ascii' codec can't encode characters in position " ++ decimalText before.length ++ "-"
      ++ decimalText (before.length + spoilt.length - 1) ++ ": ordinal not in range(128)")

/-- Bytes in base 64. -/
def binary (s : String) (m : Mark) : Except Error (List UInt8) :=
  match notAscii? s.toList with
  | some reason => valueError ("failed to convert base64 data into ascii: " ++ reason) m
  | none =>
    match Base64.decode s.toList with
    | .ok bs => .ok bs
    | .error f => valueError ("failed to decode base64 data: " ++ f.message) m

/-- The date of three numbers. -/
def date (year month day : Nat) : Except Error Date :=
  if year = 0 then fault (.yearRange year)
  else if month < 1 ∨ 12 < month then fault .monthRange
  else if day < 1 ∨ Date.daysInMonth year month < day then fault .dayRange
  else .ok ⟨year, month, day⟩

/-- A span of seconds by days and seconds. -/
def spanLiteral (seconds : Int) : String :=
  let days := seconds.fdiv 86400
  let rest := seconds - 86400 * days
  "datetime.timedelta(" ++ ", ".intercalate
    ((if days = 0 then [] else ["days=" ++ signedText days])
      ++ (if rest = 0 then [] else ["seconds=" ++ signedText rest])) ++ ")"

/-- The offset of a timestamp, less than a day in either direction. -/
def offset : Option (Option (Bool × List Char × List Char)) → Except Error (Option Int)
  | none => .ok none
  | some none => .ok (some 0)
  | some (some (negative, hours, minutes)) =>
    let span : Int := 3600 * digitsValue hours + 60 * digitsValue minutes
    let span := if negative then -span else span
    if span.natAbs < 86400 then .ok (some span) else fault (.offsetRange (spanLiteral span))

/-- A date, or a date with a clock. -/
def timestamp (s : String) : Except Error Scalar := do
  let cs := s.toList
  let cs := if cs.getLast? == some '\n' then cs.dropLast else cs
  match Grammar.timestamp? cs with
  | none => fault .notATimestamp
  | some t =>
    let read := digitsValue
    match t.clock with
    | none => return .date (← date (read t.year) (read t.month) (read t.day))
    | some (hour, minute, second) =>
      let zone ← offset t.zone
      let d ← date (read t.year) (read t.month) (read t.day)
      if 24 ≤ read hour then fault .hourRange
      else if 60 ≤ read minute then fault .minuteRange
      else if 60 ≤ read second then fault .secondRange
      else
        let micros := t.fraction.take 6
        let micros := micros ++ List.replicate (6 - micros.length) '0'
        return .datetime ⟨d, read hour, read minute, read second, read micros, zone⟩

end ScalarType

/-! ## Types -/

/-- How the nodes of a type are read. -/
inductive TypeReading
  | scalar (read : Node → Except Error Scalar)
  | sequence
  | mapping
  | set
  | ordered (activity : String)
  | unknown

/-- How the nodes of a type are read; the standard types are known. -/
def TypeReading.ofTag (tag : String) : TypeReading :=
  if tag == coreTag "str" then .scalar fun n => .text <$> n.scalarText
  else if tag == coreTag "null" then .scalar fun n => do let _ ← n.scalarText; return .null
  else if tag == coreTag "bool" then .scalar fun n => do return .bool (← ScalarType.boolean (← n.scalarText))
  else if tag == coreTag "int" then .scalar fun n => do return .int (← ScalarType.integer (← n.scalarText))
  else if tag == coreTag "float" then .scalar fun n => do return .float (← ScalarType.float (← n.scalarText))
  else if tag == coreTag "binary" then .scalar fun n => do
    return .bytes (← ScalarType.binary (← n.scalarText) n.mark)
  else if tag == coreTag "timestamp" then .scalar fun n => do
    let s ← n.scalarText
    match n with
    | .scalar .. => ScalarType.timestamp s
    | _ => ScalarType.fault .timestampOfParts
  else if tag == coreTag "seq" then .sequence
  else if tag == coreTag "map" then .mapping
  else if tag == coreTag "set" then .set
  else if tag == coreTag "omap" then .ordered "while constructing an ordered map"
  else if tag == coreTag "pairs" then .ordered "while constructing pairs"
  else .unknown

/-! ## Mappings -/

/-- A failure in the course of an activity. -/
def failDuring {α : Type} (activity : String) (since : Mark) (problem : String) (m : Mark) :
    Except Error α :=
  .error (.problem (.during .value activity since problem m))

/-- What a mapping is doing when it fails. -/
def mappingActivity : String := "while constructing a mapping"

/-- Gives a key with the type of the equals sign the type of text. -/
def plainKey (n : Node) : Node :=
  if n.tag == coreTag "value" then
    match n with
    | .scalar _ s m => .scalar (coreTag "str") s m
    | .sequence _ items m => .sequence (coreTag "str") items m
    | .mapping _ es m => .mapping (coreTag "str") es m
  else n

/-- The entries of a mapping that a merge brings in come first, those of the first merged mapping
last among them, so that nearer entries win. -/
def flatten (since : Mark) : Nat → List (Node × Node) → Except Error (List (Node × Node))
  | 0, es => .ok es
  | fuel + 1, es => do
    let parts ← es.mapM fun (k, v) =>
      if k.tag == coreTag "merge" then
        match v with
        | .mapping _ inner m => do return (← flatten m fuel inner, [])
        | .sequence _ items _ => do
          let merged ← items.mapM fun item =>
            match item with
            | .mapping _ inner m => flatten m fuel inner
            | other =>
              failDuring mappingActivity since
                ("expected a mapping for merging, but found " ++ other.kindName) other.mark
          return (merged.reverse.flatten, [])
        | other =>
          failDuring mappingActivity since
            ("expected a mapping or list of mappings for merging, but found " ++ other.kindName)
            other.mark
      else .ok ([], [(plainKey k, v)])
    return (parts.map (·.1)).flatten ++ (parts.map (·.2)).flatten

/-! ## Documents -/

/-- A node without a type that is known. -/
def unknownType {α : Type} (n : Node) : Except Error α :=
  valueError ("could not determine a constructor for the tag " ++ Quoted.text n.tag) n.mark

/-- The value of a key, which is read at once.  A collection is none, whatever stands in it: its parts
would be read later. -/
def keyOf (since : Mark) (k : Node) : Except Error Scalar :=
  match TypeReading.ofTag k.tag with
  | .scalar read => read k
  | .unknown => unknownType k
  | _ => failDuring mappingActivity since "found unhashable key" k.mark

/-- The value of a node that is met at a level; the parts of a collection are met one level
below it. -/
def construct : Nat → Nat → Node → Levelled Value
  | 0, level, n => .at_ level (valueError "document too deep" n.mark)
  | fuel + 1, level, n =>
    let below := level + 1
    let entries (es : List (Node × Node)) (m : Mark) : Levelled Entries :=
      match flatten m fuel es with
      | .error e => .error (below, e)
      | .ok es =>
        (Levelled.all (es.map fun (k, v) =>
          Levelled.both (.at_ below (keyOf m k)) (construct fuel below v))).map Entries.ofList
    let notMapping : Levelled Entries :=
      .at_ below (valueError ("expected a mapping node, but found " ++ n.kindName) n.mark)
    let fields : Levelled Entries := match n with
      | .mapping _ es m => entries es m
      | _ => notMapping
    match TypeReading.ofTag n.tag with
    | .scalar read => .at_ level ((read n).map .scalar)
    | .sequence =>
      match n with
      | .sequence _ items _ => (Levelled.all (items.map (construct fuel below))).map .list
      | _ => .at_ below (valueError ("expected a sequence node, but found " ++ n.kindName) n.mark)
    | .mapping => fields.map .map
    | .set => fields.map fun es => .set es.keys
    | .ordered activity =>
      match n with
      | .sequence _ items m =>
        (Levelled.all (items.map fun item =>
          match item with
          | .mapping _ [(k, v)] _ =>
            (Levelled.both (construct fuel below k) (construct fuel below v)).map fun (x, y) =>
              Value.tuple [x, y]
          | .mapping _ es at_ =>
            .at_ below (failDuring activity m
              ("expected a single mapping item, but found " ++ decimalText es.length ++ " items") at_)
          | other =>
            .at_ below (failDuring activity m
              ("expected a mapping of length 1, but found " ++ other.kindName) other.mark))).map .list
      | _ =>
        .at_ below (failDuring activity n.mark ("expected a sequence, but found " ++ n.kindName) n.mark)
    | .unknown => .at_ level (unknownType n)

mutual

/-- How deep a node is nested. -/
def Node.height : Node → Nat
  | .scalar .. => 1
  | .sequence _ items _ => heightOfItems items + 1
  | .mapping _ es _ => heightOfEntries es + 1

def heightOfItems : List Node → Nat
  | [] => 0
  | n :: rest => max n.height (heightOfItems rest)

def heightOfEntries : List (Node × Node) → Nat
  | [] => 0
  | (k, v) :: rest => max (max k.height v.height) (heightOfEntries rest)

end

/-- The value of the only document of a text; nothing if there is none. -/
def read (text : List Char) : Except Error Value := do
  match ← Node.ofText text with
  | none => return .null
  | some root =>
    match construct (root.height + 1) 0 root with
    | .ok v => return v
    | .error (_, e) => throw e

end MetricsAgent.Yaml
