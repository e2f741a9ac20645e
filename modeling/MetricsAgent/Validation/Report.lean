import MetricsAgent.Validation.Issue
import MetricsAgent.Value

/-!
# Reports of issues

A report lists the issues that were found in a value: for each its place, what is wrong, and the
part of the value that it is about.
-/

namespace MetricsAgent

/-- Follows a place into a value; null where it leads nowhere.  Negative positions count from the
end, and there are none before the beginning. -/
def Value.lookUp? (v : Value) : List Segment → Option Value
  | [] => some v
  | s :: rest =>
    match v, s with
    | .map es, .name k => ((Entries.field? es k).getD .null).lookUp? rest
    | .map es, .index n => ((Entries.get? es (.int n)).getD .null).lookUp? rest
    | .list xs, .index (.ofNat n) => ((xs[n]?).getD .null).lookUp? rest
    | .list xs, .index (.negSucc n) => (xs.reverse[n]?).bind (·.lookUp? rest)
    | _, _ => some .null

/-- What is at a place in a value; null where there is nothing. -/
def Value.lookUp (v : Value) (place : List Segment) : Value :=
  (v.lookUp? place).getD .null

/-- One step on the way to a value, as a value. -/
def Segment.toValue : Segment → Value
  | .name s => .text s
  | .index n => .int n

namespace Issue

/-- An issue by its parts. -/
def toValue (i : Issue) : Value :=
  .record [("type", .text i.cause.code), ("loc", .list (i.place.map Segment.toValue)),
    ("msg", .text i.cause.message)]

/-- The part of a value that an issue is about: what lacks a field, or what stands at its place. -/
def subject (i : Issue) (data : Value) : Value :=
  match i.cause with
  | .missing => data.lookUp i.place.dropLast
  | _ => data.lookUp i.place

/-- The first characters of a list that fit into a number of bytes. -/
def fitting : Nat → List Char → List Char
  | _, [] => []
  | room, c :: cs => if c.utf8Size ≤ room then c :: fitting (room - c.utf8Size) cs else []

/-- A text of which the middle is left out if it is long. -/
def shortened (s : String) : String :=
  if s.utf8ByteSize ≤ 50 then s
  else
    String.ofList (fitting 25 s.toList) ++ "..."
      ++ String.ofList (fitting 24 s.toList.reverse).reverse

/-- Where an explanation of a cause is found. -/
def explanation (code : String) : String :=
  "https://errors.pydantic.dev/2.14/v/" ++ code

/-- An issue in a report. -/
def describe (i : Issue) (data : Value) : String :=
  let code := i.cause.code
  let what := i.subject data
  let place := if i.place.isEmpty then "" else "\n" ++ ".".intercalate (i.place.map Segment.text)
  place ++ "\n  " ++ i.cause.message ++ " [type=" ++ code ++ ", input_value="
    ++ shortened what.literal ++ ", input_type=" ++ what.kindName ++ "]"
    ++ "\n    For further information visit " ++ explanation code

/-- The report of the issues that were found in a value. -/
def report (title : String) (issues : List Issue) (data : Value) : String :=
  let count := decimalText issues.length ++ " validation error"
    ++ (if issues.length = 1 then "" else "s") ++ " for " ++ title
  count ++ String.join (issues.map fun i => i.describe data)

end Issue

end MetricsAgent
