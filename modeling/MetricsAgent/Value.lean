import MetricsAgent.Calendar.Basic
import MetricsAgent.Number.Basic
import MetricsAgent.Text.Quoted

/-!
# Dynamic values

What a settings file, an environment or a caller may hand to the agent before it is validated.
A scalar has no parts and can be a mapping key; a mapping keeps its entries in the order in which
their keys first appeared.
-/

namespace MetricsAgent

/-! ## Scalars -/

/-- A value without parts.  `foreign` stands for an object of another program, known by the full
name of its kind, its display text and its literal. -/
inductive Scalar
  | null
  | bool (b : Bool)
  | int (n : Int)
  | float (x : Binary64)
  | text (s : String)
  | bytes (bs : List UInt8)
  | date (d : Date)
  | datetime (t : DateTime)
  | path (s : String)
  | foreign (kind display literal : String)
  deriving DecidableEq

/-- A value as a key: numbers that are equal are one key whatever their kind, and so are times with
an offset that denote one instant. -/
inductive KeyForm
  | null
  | number (numerator : Int) (denominator : Nat)
  | unordered (x : Binary64)
  | text (s : String)
  | bytes (bs : List UInt8)
  | date (d : Date)
  | clock (t : DateTime)
  | instant (micros : Int)
  | path (s : String)
  | foreign (kind display literal : String)
  deriving DecidableEq

/-- The key that a scalar is. -/
def Scalar.keyForm : Scalar → KeyForm
  | .null => .null
  | .bool b => .number (if b then 1 else 0) 1
  | .int n => .number n 1
  | .float x =>
    match x.toRat? with
    | some q => .number q.num q.den
    | none => .unordered x
  | .text s => .text s
  | .bytes bs => .bytes bs
  | .date d => .date d
  | .datetime t =>
    match t.instant? with
    | some micros => .instant micros
    | none => .clock t
  | .path s => .path s
  | .foreign k d l => .foreign k d l

/-- Whether two scalars are one key. -/
def Scalar.sameKey (a b : Scalar) : Bool :=
  a.keyForm == b.keyForm

theorem Scalar.sameKey_iff (a b : Scalar) : a.sameKey b = true ↔ a.keyForm = b.keyForm := by
  simp [Scalar.sameKey]

theorem Scalar.sameKey_refl (a : Scalar) : a.sameKey a = true := by
  simp [Scalar.sameKey]

/-! ## Values -/

/-- A value: a scalar, a sequence, a set of scalars or a mapping. -/
inductive Value
  | scalar (s : Scalar)
  | list (items : List Value)
  | tuple (items : List Value)
  | set (items : List Scalar)
  | map (entries : List (Scalar × Value))

namespace Value

@[match_pattern] abbrev null : Value := .scalar .null
@[match_pattern] abbrev bool (b : Bool) : Value := .scalar (.bool b)
@[match_pattern] abbrev int (n : Int) : Value := .scalar (.int n)
@[match_pattern] abbrev float (x : Binary64) : Value := .scalar (.float x)
@[match_pattern] abbrev text (s : String) : Value := .scalar (.text s)
@[match_pattern] abbrev bytes (bs : List UInt8) : Value := .scalar (.bytes bs)

@[match_pattern] abbrev time (t : DateTime) : Value := .scalar (.datetime t)

instance : Inhabited Value := ⟨null⟩

/-- A number as a value. -/
def ofNumber : Number → Value
  | .int n => .int n
  | .float x => .float x

/-- What may be missing, as a value. -/
def ofOption {α : Type} (f : α → Value) : Option α → Value
  | some a => f a
  | none => .null

/-- A mapping from names. -/
def record (fields : List (String × Value)) : Value :=
  .map (fields.map fun (k, v) => (.text k, v))

end Value

/-! ## Mappings -/

/-- The entries of a mapping, in order. -/
abbrev Entries := List (Scalar × Value)

namespace Entries

/-- The value of a key. -/
def get? (es : Entries) (k : Scalar) : Option Value :=
  (es.find? fun e => e.1.sameKey k).map (·.2)

/-- Gives a key a value: in its place if the key is there, at the end otherwise. -/
def put : Entries → Scalar → Value → Entries
  | [], k, v => [(k, v)]
  | (k', v') :: rest, k, v =>
    if k'.sameKey k then (k', v) :: rest else (k', v') :: put rest k v

/-- Entries from a list in which a later value of a key replaces an earlier one. -/
def ofList (pairs : List (Scalar × Value)) : Entries :=
  pairs.foldl (fun es (k, v) => put es k v) []

/-- The keys in order. -/
def keys (es : Entries) : List Scalar :=
  es.map (·.1)

/-- The value of a text key. -/
def field? (es : Entries) (name : String) : Option Value :=
  es.get? (.text name)

end Entries

/-! ## Display -/

namespace Scalar

/-- A scalar as a literal: texts in quotation marks, times by their parts. -/
def literal : Scalar → String
  | .null => "None"
  | .bool true => "True"
  | .bool false => "False"
  | .int n => signedText n
  | .float x => x.text
  | .text s => Quoted.text s
  | .bytes bs => Quoted.bytes bs
  | .date d =>
    "datetime.date(" ++ ", ".intercalate ([d.year, d.month, d.day].map decimalText) ++ ")"
  | .datetime t =>
    let tail := if t.micro ≠ 0 then [t.second, t.micro] else if t.second ≠ 0 then [t.second] else []
    let parts := [t.date.year, t.date.month, t.date.day, t.hour, t.minute] ++ tail
    let zone := match t.offset with
      | none => ""
      | some 0 => ", tzinfo=datetime.timezone.utc"
      | some o =>
        let days := o.fdiv 86400
        let seconds := o - days * 86400
        let delta :=
          if days = 0 then "seconds=" ++ signedText seconds
          else "days=" ++ signedText days
            ++ (if seconds = 0 then "" else ", seconds=" ++ signedText seconds)
        ", tzinfo=datetime.timezone(datetime.timedelta(" ++ delta ++ "))"
    "datetime.datetime(" ++ ", ".intercalate (parts.map decimalText) ++ zone ++ ")"
  | .path s => "PosixPath(" ++ Quoted.text s ++ ")"
  | .foreign _ _ l => l

/-- A scalar in running text: texts as they are, times in ISO form with a blank. -/
def display : Scalar → String
  | .text s => s
  | .path s => s
  | .date d => d.text
  | .datetime t => t.clockText " " ++ (t.offset.map DateTime.offsetText).getD ""
  | .foreign _ d _ => d
  | s => s.literal

end Scalar

namespace Value

/-- A value as a literal. -/
def literal : Value → String
  | .scalar s => s.literal
  | .list xs => "[" ++ ", ".intercalate (literals xs) ++ "]"
  | .tuple [x] => "(" ++ x.literal ++ ",)"
  | .tuple xs => "(" ++ ", ".intercalate (literals xs) ++ ")"
  | .set [] => "set()"
  | .set xs => "\x7b" ++ ", ".intercalate (xs.map Scalar.literal) ++ "\x7d"
  | .map es => "\x7b" ++ ", ".intercalate (entryLiterals es) ++ "\x7d"
where
  literals : List Value → List String
    | [] => []
    | x :: xs => x.literal :: literals xs
  entryLiterals : List (Scalar × Value) → List String
    | [] => []
    | (k, v) :: rest => (k.literal ++ ": " ++ v.literal) :: entryLiterals rest

/-- A value in running text. -/
def display : Value → String
  | .scalar s => s.display
  | v => v.literal

/-- The last of several names joined by points. -/
def lastName (s : String) : String :=
  String.ofList (s.toList.reverse.takeWhile (· != '.')).reverse

/-- The name of the kind of a value. -/
def kindName : Value → String
  | .null => "NoneType"
  | .bool _ => "bool"
  | .int _ => "int"
  | .float _ => "float"
  | .text _ => "str"
  | .bytes _ => "bytes"
  | .scalar (.date _) => "date"
  | .scalar (.datetime _) => "datetime"
  | .scalar (.path _) => "PosixPath"
  | .scalar (.foreign k _ _) => lastName k
  | .list _ => "list"
  | .tuple _ => "tuple"
  | .set _ => "set"
  | .map _ => "dict"

/-- The name of the kind of a value where the module of times is named too. -/
def longKindName : Value → String
  | .scalar (.date _) => "datetime.date"
  | .scalar (.datetime _) => "datetime.datetime"
  | v => v.kindName

end Value

end MetricsAgent
