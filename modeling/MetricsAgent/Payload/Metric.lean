import MetricsAgent.Validation.Record

/-!
# Kinds of metrics

A statistic either only grows until the database resets it, or is read as it stands.  The fields that
hold statistics are declared with their kind.
-/

namespace MetricsAgent

/-- How a statistic behaves over time. -/
inductive MetricKind
  | counter
  | gauge
  deriving DecidableEq, Repr

namespace MetricKind

def all : List MetricKind := [.counter, .gauge]

def name : MetricKind → String
  | .counter => "counter"
  | .gauge => "gauge"

def ofName? (s : String) : Option MetricKind :=
  all.find? (·.name == s)

end MetricKind

/-! ## The fields of payloads -/

/-- The statistics in each part of a payload, with their kinds. -/
def metricKinds : List (String × List (String × MetricKind)) :=
  [("QueryStats",
      [("calls", .counter), ("total_time_ms", .counter), ("mean_time_ms", .gauge), ("rows", .counter),
        ("shared_blks_hit", .counter), ("shared_blks_read", .counter)]),
    ("TableStats",
      [("seq_scan", .counter), ("seq_tup_read", .counter), ("idx_scan", .counter),
        ("idx_tup_fetch", .counter), ("n_tup_ins", .counter), ("n_tup_upd", .counter),
        ("n_tup_del", .counter), ("n_live_tup", .gauge), ("n_dead_tup", .gauge)]),
    ("IndexStats",
      [("idx_scan", .counter), ("idx_tup_read", .counter), ("idx_tup_fetch", .counter)]),
    ("TableMetadata", [("row_count_estimate", .gauge), ("size_bytes", .gauge)]),
    ("IndexMetadata", [("size_bytes", .gauge)])]

/-- The statistics of a part. -/
def metricsOf (part : String) : List (String × MetricKind) :=
  ((metricKinds.find? (·.1 == part)).map (·.2)).getD []

/-- The kind of a field of a part; nothing if it is no statistic. -/
def metricKind? (part field : String) : Option MetricKind :=
  ((metricsOf part).find? (·.1 == field)).map (·.2)

/-! ## Declaring a field -/

/-- A field for a statistic: its kind, what else is noted about it, and the limits of its values. -/
structure MetricField where
  kind : MetricKind
  description : String
  noted : Entries
  name : Option String
  fallback : Option Value
  bounds : List Bound

namespace MetricField

/-- The name under which the kind is noted. -/
def kindKey : String := "metric_type"

/-- The bound that an option sets. -/
def bound? (options : Entries) (name : String) (r : Relation) : Option Bound :=
  match options.field? name with
  | some (.int n) => some ⟨r, .int n⟩
  | some (.float x) => some ⟨r, .float x⟩
  | _ => none

/-- Declares a field; notes that are no mapping are dropped, and the kind replaces what is noted
under its name. -/
def declare (kind : MetricKind) (description : String) (options : Entries) : MetricField :=
  let noted : Entries := match options.field? "json_schema_extra" with
    | some (.map es) => es
    | _ => []
  { kind := kind
    description := description
    noted := Entries.put noted (.text kindKey) (.text kind.name)
    name := match options.field? "alias" with
      | some (.text s) => some s
      | _ => none
    fallback := options.field? "default"
    bounds := [("le", Relation.atMost), ("lt", .below), ("ge", .atLeast), ("gt", .above)].filterMap
      fun (name, r) => bound? options name r }

/-- The kind that a field notes. -/
def kind? (f : MetricField) : Option MetricKind :=
  match f.noted.field? kindKey with
  | some (.text s) => MetricKind.ofName? s
  | _ => none

/-- Reads the field of a sample, a whole number. -/
def readSample (f : MetricField) : Value → Checked Value :=
  Read.openRecord "Sample" fun es =>
    let field : Read.Field := ⟨f.name.getD "value", none⟩
    let read := fun v => (Read.boundedInteger f.bounds v).map Value.int
    match f.fallback with
    | some d => field.optional es d read
    | none => field.required es read

end MetricField

end MetricsAgent
