import MetricsAgent.Number.Basic
import MetricsAgent.Calendar.Reader

/-!
# Validation issues

An issue says what is wrong with a value and where the value stands.  A check either accepts with
the value it read or refuses with all issues it found, in order; checks of the parts of a record are
combined so that the issues of every part are kept.
-/

namespace MetricsAgent

/-! ## Places -/

/-- One step on the way to a value: a name or a position. -/
inductive Segment
  | name (s : String)
  | index (n : Int)
  deriving DecidableEq

/-- A step in running text. -/
def Segment.text : Segment → String
  | .name s => s
  | .index n => signedText n

/-! ## Bounds -/

/-- How a bound limits a number. -/
inductive Relation
  | atLeast
  | above
  | atMost
  | below
  deriving DecidableEq, Repr

/-- A limit that a number has to respect. -/
structure Bound where
  relation : Relation
  limit : Number
  deriving DecidableEq

/-- Whether a number violates a bound: it does unless the comparison holds, so a NaN violates every
bound. -/
def Bound.violatedBy (b : Bound) (x : Number) : Bool :=
  match b.relation with
  | .atLeast => !b.limit.le x
  | .above => !b.limit.lt x
  | .atMost => !x.le b.limit
  | .below => !x.lt b.limit

/-! ## Issues -/

/-- What is wrong with a value. -/
inductive Cause
  | missing
  | extra
  | invalidKey
  | notText
  | notUnicode
  | notInteger
  | integerText
  | integerSize
  | integerFraction
  | notFinite
  | notNumber
  | numberText
  | notBoolean
  | booleanText
  | notList
  | notMapping
  | notRecord (title : String)
  | choice (allowed : List String)
  | bound (b : Bound)
  | rejected (reason : String)
  | notDatetime
  | timestamp (reason : DateTime.ReadError)
  | datetimeText (reason : DateTime.ReadError)
  | frozen
  deriving DecidableEq

/-- The names of the allowed values, the last two joined by a word. -/
def choiceText (allowed : List String) : String :=
  let quoted := allowed.map fun s => "'" ++ s ++ "'"
  match quoted.reverse with
  | [] => ""
  | [s] => s
  | last :: others => ", ".intercalate others.reverse ++ " or " ++ last

/-- The short name of a cause. -/
def Cause.code : Cause → String
  | .missing => "missing"
  | .extra => "extra_forbidden"
  | .invalidKey => "invalid_key"
  | .notText => "string_type"
  | .notUnicode => "string_unicode"
  | .notInteger => "int_type"
  | .integerText => "int_parsing"
  | .integerSize => "int_parsing_size"
  | .integerFraction => "int_from_float"
  | .notFinite => "finite_number"
  | .notNumber => "float_type"
  | .numberText => "float_parsing"
  | .notBoolean => "bool_type"
  | .booleanText => "bool_parsing"
  | .notList => "list_type"
  | .notMapping => "dict_type"
  | .notRecord _ => "model_type"
  | .choice _ => "literal_error"
  | .bound b =>
    match b.relation with
    | .atLeast => "greater_than_equal"
    | .above => "greater_than"
    | .atMost => "less_than_equal"
    | .below => "less_than"
  | .rejected _ => "value_error"
  | .notDatetime => "datetime_type"
  | .timestamp _ => "datetime_parsing"
  | .datetimeText _ => "datetime_from_date_parsing"
  | .frozen => "frozen_instance"

/-- The wording of a cause. -/
def Cause.message : Cause → String
  | .missing => "Field required"
  | .extra => "Extra inputs are not permitted"
  | .invalidKey => "Keys should be strings"
  | .notText => "Input should be a valid string"
  | .notUnicode =>
    "Input should be a valid string, unable to parse raw data as a unicode string"
  | .notInteger => "Input should be a valid integer"
  | .integerText => "Input should be a valid integer, unable to parse string as an integer"
  | .integerSize => "Unable to parse input string as an integer, exceeded maximum size"
  | .integerFraction => "Input should be a valid integer, got a number with a fractional part"
  | .notFinite => "Input should be a finite number"
  | .notNumber => "Input should be a valid number"
  | .numberText => "Input should be a valid number, unable to parse string as a number"
  | .notBoolean => "Input should be a valid boolean"
  | .booleanText => "Input should be a valid boolean, unable to interpret input"
  | .notList => "Input should be a valid list"
  | .notMapping => "Input should be a valid dictionary"
  | .notRecord title => "Input should be a valid dictionary or instance of " ++ title
  | .choice allowed => "Input should be " ++ choiceText allowed
  | .bound b =>
    let words := match b.relation with
      | .atLeast => "greater than or equal to "
      | .above => "greater than "
      | .atMost => "less than or equal to "
      | .below => "less than "
    "Input should be " ++ words ++ b.limit.bare
  | .rejected reason => "Value error, " ++ reason
  | .notDatetime => "Input should be a valid datetime"
  | .timestamp reason => "Input should be a valid datetime, " ++ reason.message
  | .datetimeText reason => "Input should be a valid datetime or date, " ++ reason.message
  | .frozen => "Instance is frozen"

/-- A cause and the place of the value, from the outside in. -/
structure Issue where
  cause : Cause
  place : List Segment
  deriving DecidableEq

/-! ## Checks -/

/-- The outcome of checking a value: what was read, or at least one issue. -/
inductive Checked (α : Type)
  | valid (a : α)
  | invalid (first : Issue) (more : List Issue)

namespace Checked

variable {α β : Type}

/-- The issues found, in order. -/
def issues : Checked α → List Issue
  | .valid _ => []
  | .invalid i is => i :: is

def toOption : Checked α → Option α
  | .valid a => some a
  | .invalid _ _ => none

/-- Refuses a value for one cause. -/
def refuse (c : Cause) : Checked α :=
  .invalid ⟨c, []⟩ []

def map (f : α → β) : Checked α → Checked β
  | .valid a => .valid (f a)
  | .invalid i is => .invalid i is

/-- Goes on to a further check once this one has accepted. -/
def andThen (x : Checked α) (f : α → Checked β) : Checked β :=
  match x with
  | .valid a => f a
  | .invalid i is => .invalid i is

/-- Combines two checks, keeping the issues of both in order. -/
def ap (f : Checked (α → β)) (x : Checked α) : Checked β :=
  match f, x with
  | .valid f, .valid a => .valid (f a)
  | .valid _, .invalid i is => .invalid i is
  | .invalid i is, .valid _ => .invalid i is
  | .invalid i is, .invalid j js => .invalid i (is ++ j :: js)

instance : Functor Checked := ⟨fun f x => map f x, fun a x => map (fun _ => a) x⟩
instance : Seq Checked := ⟨fun f x => ap f (x ())⟩

/-- Appends issues found elsewhere; any of them refuses the value. -/
def withIssues (x : Checked α) (more : List Issue) : Checked α :=
  match x, more with
  | .valid a, [] => .valid a
  | .valid _, j :: js => .invalid j js
  | .invalid i is, js => .invalid i (is ++ js)

/-- States all issues of a part relative to the whole. -/
def within (s : Segment) : Checked α → Checked α
  | .valid a => .valid a
  | .invalid i is =>
    .invalid ⟨i.cause, s :: i.place⟩ (is.map fun j => ⟨j.cause, s :: j.place⟩)

theorem issues_ap (f : Checked (α → β)) (x : Checked α) :
    (ap f x).issues = f.issues ++ x.issues := by
  cases f <;> cases x <;> simp [ap, issues]

end Checked

end MetricsAgent
