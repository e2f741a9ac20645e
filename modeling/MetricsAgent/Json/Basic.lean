import MetricsAgent.Number.Decimal

/-!
# JSON documents

The type of documents and its printer.  Whole numbers and floating point numbers are kept apart: a
number is written with a point or an exponent exactly if it is floating point.  Printing fails on
what a document may not hold: a whole number of more than 4300 digits and, where the style is
strict, a number that is not finite.
-/

namespace MetricsAgent

/-- A JSON document; members keep their order. -/
inductive Json
  | null
  | bool (b : Bool)
  | int (n : Int)
  | float (x : Binary64)
  | string (s : String)
  | array (items : List Json)
  | object (members : List (String × Json))

namespace Json

instance : Inhabited Json := ⟨null⟩

/-! ## Access -/

/-- The member of an object. -/
def member? : Json → String → Option Json
  | .object ms, k => (ms.find? fun m => m.1 == k).map (·.2)
  | _, _ => none

/-! ## Printing -/

/-- Why a document cannot be written. -/
inductive PrintError
  | tooManyDigits
  | notFinite
  deriving DecidableEq, Repr

/-- The wording of a failure. -/
def PrintError.message : PrintError → String
  | .tooManyDigits => "Exceeds the limit (4300 digits) for integer string conversion; "
      ++ "use sys.set_int_max_str_digits() to increase the limit"
  | .notFinite => "Out of range float values are not JSON compliant"

/-- Separators, indentation per level if the document is spread over lines, and whether numbers
that are not finite are refused. -/
structure Style where
  itemSeparator : String
  memberSeparator : String
  indent : Option Nat
  strict : Bool

/-- Everything on one line without blanks. -/
def compact : Style := ⟨",", ":", none, false⟩

/-- Two blanks per level, one item per line. -/
def indented : Style := ⟨",", ": ", some 2, false⟩

/-- One line with a blank after each separator. -/
def spaced : Style := ⟨", ", ": ", none, false⟩

/-- As `compact`, refusing what is not finite. -/
def wire : Style := ⟨",", ":", none, true⟩

/-- One character of a string. -/
def escape (c : Char) : List Char :=
  if c == '"' then ['\\', '"']
  else if c == '\\' then ['\\', '\\']
  else if c == '\n' then ['\\', 'n']
  else if c == '\r' then ['\\', 'r']
  else if c == '\t' then ['\\', 't']
  else if c == '\x08' then ['\\', 'b']
  else if c == '\x0c' then ['\\', 'f']
  else if c.toNat < 32 then
    ['\\', 'u', '0', '0', Nat.digitChar (c.toNat / 16), Nat.digitChar (c.toNat % 16)]
  else [c]

/-- A string in quotation marks. -/
def quoted (s : String) : List Char :=
  '"' :: s.toList.flatMap escape ++ ['"']

/-- Floating point numbers in documents. -/
def numberStyle : Decimal.Style := ⟨-4, 16, ".0", "NaN", "Infinity"⟩

/-- The largest number of digits of a whole number. -/
def digitLimit : Nat := 4300

/-- A whole number in base ten. -/
def intText (n : Int) : Except PrintError String :=
  if tenTo digitLimit ≤ n.natAbs then .error .tooManyDigits else .ok (signedText n)

/-- A floating point number. -/
def floatText (style : Style) (x : Binary64) : Except PrintError String :=
  if style.strict && !x.isFinite then .error .notFinite else .ok (numberStyle.render x)

/-- What stands between an opening bracket and the first item at a depth, and before each line. -/
def Style.lineBreak (style : Style) (depth : Nat) : List Char :=
  match style.indent with
  | none => []
  | some width => '\n' :: List.replicate (width * depth) ' '

mutual

/-- A document at a depth of nesting. -/
def render (style : Style) (depth : Nat) : Json → Except PrintError (List Char)
  | .null => .ok "null".toList
  | .bool true => .ok "true".toList
  | .bool false => .ok "false".toList
  | .int n => (intText n).map String.toList
  | .float x => (floatText style x).map String.toList
  | .string s => .ok (quoted s)
  | .array [] => .ok ['[', ']']
  | .array (x :: xs) => do
    let first ← render style (depth + 1) x
    let rest ← renderItems style (depth + 1) xs
    return '[' :: style.lineBreak (depth + 1) ++ first ++ rest ++ style.lineBreak depth ++ [']']
  | .object [] => .ok ['\x7b', '\x7d']
  | .object ((k, v) :: ms) => do
    let first ← render style (depth + 1) v
    let rest ← renderMembers style (depth + 1) ms
    return '\x7b' :: style.lineBreak (depth + 1) ++ quoted k ++ style.memberSeparator.toList ++ first
      ++ rest ++ style.lineBreak depth ++ ['\x7d']

/-- The items after the first, each behind a separator. -/
def renderItems (style : Style) (depth : Nat) : List Json → Except PrintError (List Char)
  | [] => .ok []
  | x :: xs => do
    let first ← render style depth x
    let rest ← renderItems style depth xs
    return style.itemSeparator.toList ++ style.lineBreak depth ++ first ++ rest

/-- The members after the first, each behind a separator. -/
def renderMembers (style : Style) (depth : Nat) :
    List (String × Json) → Except PrintError (List Char)
  | [] => .ok []
  | (k, v) :: ms => do
    let first ← render style depth v
    let rest ← renderMembers style depth ms
    return style.itemSeparator.toList ++ style.lineBreak depth ++ quoted k
      ++ style.memberSeparator.toList ++ first ++ rest

end

/-- The text of a document. -/
def print (style : Style) (j : Json) : Except PrintError String :=
  (render style 0 j).map String.ofList

end Json

end MetricsAgent
