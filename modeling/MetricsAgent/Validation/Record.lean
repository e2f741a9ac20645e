import MetricsAgent.Validation.Scalar

/-!
# Reading lists, mappings and records

A record is read from a mapping field by field, in the order of declaration, and then asked for
keys that belong to no field.  A field may be known under a second name besides the one used in
documents; the name in documents goes first.
-/

namespace MetricsAgent.Read

variable {α : Type}

/-! ## Lists and mappings -/

/-- Checks the items of a list, each at its position. -/
def itemsFrom (read : Value → Checked α) : Nat → List Value → Checked (List α)
  | _, [] => .valid []
  | i, v :: vs =>
    List.cons <$> (read v).within (.index i) <*> itemsFrom read (i + 1) vs

/-- A sequence or a set of values. -/
def list (read : Value → Checked α) : Value → Checked (List α)
  | .list vs => itemsFrom read 0 vs
  | .tuple vs => itemsFrom read 0 vs
  | .set ss => itemsFrom read 0 (ss.map .scalar)
  | _ => .refuse .notList

/-- The place of a key; a number beyond 64 bits counts as a name, and one that is too long to be
written is not written out. -/
def keySegment : Scalar → Segment
  | .text s => .name s
  | .int n =>
    if -wordLimit 64 ≤ n ∧ n < wordLimit 64 then .index n
    else if n.natAbs < tenTo 4300 then .name (signedText n)
    else .name "<unprintable int object>"
  | .bool b => .index (if b then 1 else 0)
  | k => .name k.literal

/-- Checks the entries of a mapping from texts to texts, each key before its value. -/
def textEntries : List (Scalar × Value) → Checked (List (String × String))
  | [] => .valid []
  | (k, v) :: rest =>
    let key := ((text (.scalar k)).within (.name "[key]")).within (keySegment k)
    let value := (text v).within (keySegment k)
    List.cons <$> (Prod.mk <$> key <*> value) <*> textEntries rest

/-- Keeps the last value of each name, in the order in which the names first appear. -/
def lastOfEach (pairs : List (String × String)) : List (String × String) :=
  pairs.foldl (fun acc (k, v) =>
    if acc.any (·.1 == k) then acc.map fun p => if p.1 == k then (k, v) else p
    else acc ++ [(k, v)]) []

/-- A mapping from texts to texts. -/
def textMap : Value → Checked (List (String × String))
  | .map es => (textEntries es).map lastOfEach
  | _ => .refuse .notMapping

/-! ## Records -/

/-- The names of a field: the one in documents, and the one it is also accepted under. -/
structure Field where
  wire : String
  alternative : Option String := none
  deriving DecidableEq

namespace Field

/-- The name under which a mapping gives the field, and the value given. -/
def find? (f : Field) (es : Entries) : Option (String × Value) :=
  match es.field? f.wire with
  | some v => some (f.wire, v)
  | none => do
    let n ← f.alternative
    let v ← es.field? n
    return (n, v)

/-- A field that has to be there. -/
def required (f : Field) (es : Entries) (read : Value → Checked α) : Checked α :=
  match f.find? es with
  | some (name, v) => (read v).within (.name name)
  | none => (Checked.refuse .missing).within (.name f.wire)

/-- A field that has a value of its own when it is not there. -/
def optional (f : Field) (es : Entries) (default : α) (read : Value → Checked α) : Checked α :=
  match f.find? es with
  | some (name, v) => (read v).within (.name name)
  | none => .valid default

end Field

/-- The issues of the keys that belong to no field, in order. -/
def strangers (fields : List Field) (es : Entries) : List Issue :=
  let used := fields.filterMap fun f => (f.find? es).map (·.1)
  es.filterMap fun (k, _) =>
    match k with
    | .text s => if used.contains s then none else some ⟨.extra, [.name s]⟩
    | k => some ⟨.invalidKey, [keySegment k]⟩

/-- A record that refuses keys of no field. -/
def closedRecord (title : String) (fields : List Field) (read : Entries → Checked α) :
    Value → Checked α
  | .map es => (read es).withIssues (strangers fields es)
  | _ => .refuse (.notRecord title)

/-- A record that ignores keys of no field. -/
def openRecord (title : String) (read : Entries → Checked α) : Value → Checked α
  | .map es => read es
  | _ => .refuse (.notRecord title)

/-- A value that a further test may refuse with a reason. -/
def refine (test : α → Option String) (x : Checked α) : Checked α :=
  x.andThen fun a =>
    match test a with
    | none => .valid a
    | some reason => .refuse (.rejected reason)

end MetricsAgent.Read
