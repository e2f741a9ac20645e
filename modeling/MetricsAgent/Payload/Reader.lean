import MetricsAgent.Payload.Basic
import MetricsAgent.Validation.Record

/-!
# Payloads from values

Every part of a payload is a record that ignores keys it does not know.  What a document calls
`schema` and `type` may also be given under longer names.
-/

namespace MetricsAgent

open Read

/-! ## Fields of the usual kinds -/

namespace Read.Field

def text (name : String) (es : Entries) : Checked String :=
  Field.required ⟨name, none⟩ es Read.text

def schemaName (es : Entries) : Checked String :=
  Field.required ⟨"schema", some "schema_name"⟩ es Read.text

def count? (name : String) (es : Entries) : Checked (Option Int) :=
  Field.optional ⟨name, none⟩ es none (nullable integer)

def measure? (name : String) (es : Entries) : Checked (Option Binary64) :=
  Field.optional ⟨name, none⟩ es none (nullable number)

def text? (name : String) (es : Entries) : Checked (Option String) :=
  Field.optional ⟨name, none⟩ es none (nullable Read.text)

def time? (name : String) (es : Entries) : Checked (Option DateTime) :=
  Field.optional ⟨name, none⟩ es none (nullable datetime)

def flag (name : String) (es : Entries) : Checked Bool :=
  Field.optional ⟨name, none⟩ es false boolean

end Read.Field

/-! ## Parts -/

def DatabaseIdentity.check : Value → Checked DatabaseIdentity :=
  openRecord "DatabaseInfo" fun es =>
    DatabaseIdentity.mk
      <$> Field.required ⟨"type", some "database_type"⟩ es Read.text
      <*> Field.text? "version" es
      <*> Field.optional ⟨"provider", none⟩ es "generic" Read.text
      <*> Field.optional ⟨"provider_metadata", none⟩ es [] textMap

def QueryStatistics.check : Value → Checked QueryStatistics :=
  openRecord "QueryStats" fun es =>
    QueryStatistics.mk
      <$> Field.text? "query_hash" es
      <*> Field.text? "query" es
      <*> Field.count? "calls" es
      <*> Field.measure? "total_time_ms" es
      <*> Field.measure? "mean_time_ms" es
      <*> Field.count? "rows" es
      <*> Field.count? "shared_blks_hit" es
      <*> Field.count? "shared_blks_read" es

def TableStatistics.check : Value → Checked TableStatistics :=
  openRecord "TableStats" fun es =>
    TableStatistics.mk
      <$> Field.schemaName es
      <*> Field.text "table" es
      <*> Field.count? "seq_scan" es
      <*> Field.count? "seq_tup_read" es
      <*> Field.count? "idx_scan" es
      <*> Field.count? "idx_tup_fetch" es
      <*> Field.count? "n_tup_ins" es
      <*> Field.count? "n_tup_upd" es
      <*> Field.count? "n_tup_del" es
      <*> Field.count? "n_live_tup" es
      <*> Field.count? "n_dead_tup" es
      <*> Field.time? "last_vacuum" es
      <*> Field.time? "last_autovacuum" es
      <*> Field.time? "last_analyze" es
      <*> Field.time? "last_autoanalyze" es

def IndexStatistics.check : Value → Checked IndexStatistics :=
  openRecord "IndexStats" fun es =>
    IndexStatistics.mk
      <$> Field.schemaName es
      <*> Field.text "table" es
      <*> Field.text "index" es
      <*> Field.count? "idx_scan" es
      <*> Field.count? "idx_tup_read" es
      <*> Field.count? "idx_tup_fetch" es

def ColumnDescription.check : Value → Checked ColumnDescription :=
  openRecord "ColumnMetadata" fun es =>
    ColumnDescription.mk
      <$> Field.text "name" es
      <*> Field.text "data_type" es
      <*> Field.required ⟨"nullable", none⟩ es boolean
      <*> Field.text? "default" es
      <*> Field.required ⟨"position", none⟩ es integer

def TableDescription.check : Value → Checked TableDescription :=
  openRecord "TableMetadata" fun es =>
    TableDescription.mk
      <$> Field.schemaName es
      <*> Field.text "name" es
      <*> Field.optional ⟨"columns", none⟩ es [] (list ColumnDescription.check)
      <*> Field.count? "row_count_estimate" es
      <*> Field.count? "size_bytes" es

def IndexDescription.check : Value → Checked IndexDescription :=
  openRecord "IndexMetadata" fun es =>
    IndexDescription.mk
      <$> Field.schemaName es
      <*> Field.text "table" es
      <*> Field.text "name" es
      <*> Field.optional ⟨"columns", none⟩ es [] (list Read.text)
      <*> Field.flag "is_unique" es
      <*> Field.flag "is_primary" es
      <*> Field.count? "size_bytes" es

def SchemaDescription.check : Value → Checked SchemaDescription :=
  openRecord "SchemaMetadata" fun es =>
    SchemaDescription.mk
      <$> Field.optional ⟨"tables", none⟩ es [] (list TableDescription.check)
      <*> Field.optional ⟨"indexes", none⟩ es [] (list IndexDescription.check)

/-! ## Payloads -/

namespace Payload

/-- Names and texts as the entries of a mapping. -/
def textEntries (pairs : List (String × String)) : Entries :=
  pairs.map fun (k, v) => (.text k, .text v)

/-- What a payload says of itself when nothing else is given. -/
structure Origin where
  now : DateTime
  instanceId : String
  database : Option DatabaseIdentity

/-- The identity of the database: given beforehand, or read from the payload. -/
def identity (o : Origin) (es : Entries) : Checked DatabaseIdentity :=
  match o.database with
  | some d => .valid d
  | none => Field.required ⟨"database", none⟩ es DatabaseIdentity.check

/-- The fields of a payload. -/
def readFields (o : Origin) (es : Entries) : Checked Payload :=
  Payload.mk
    <$> Field.optional ⟨"agent_version", none⟩ es MetricsAgent.agentVersion Read.text
    <*> Field.optional ⟨"timestamp", none⟩ es o.now datetime
    <*> Field.optional ⟨"instance_id", none⟩ es o.instanceId Read.text
    <*> identity o es
    <*> Field.optional ⟨"query_stats", none⟩ es none (nullable (list QueryStatistics.check))
    <*> Field.optional ⟨"table_stats", none⟩ es none (nullable (list TableStatistics.check))
    <*> Field.optional ⟨"index_stats", none⟩ es none (nullable (list IndexStatistics.check))
    <*> Field.optional ⟨"settings", none⟩ es none (nullable fun v => (textMap v).map textEntries)
    <*> Field.optional ⟨"schema", some "schema_metadata"⟩ es none (nullable SchemaDescription.check)

/-- A payload from a value; without a time of its own it is from now. -/
def check (now : DateTime) : Value → Checked Payload :=
  openRecord "Payload" (readFields ⟨now, "", none⟩)

/-- Why a payload cannot be built from named groups. -/
inductive CreateFault
  | duplicateArgument (name : String)
  | duplicateInstance

/-- The wording of a fault. -/
def CreateFault.message : CreateFault → String
  | .duplicateArgument name => "Payload.create() got multiple values for argument '" ++ name ++ "'"
  | .duplicateInstance =>
    "dbpulse.models.payload.Payload() got multiple values for keyword argument 'instance_id'"

/-- A payload of a database, named after its connection, with groups by their names. -/
def create (now : DateTime) (database : DatabaseIdentity) (connection : String) (groups : Entries) :
    Except CreateFault (Checked Payload) :=
  if (groups.field? "database").isSome then .error (.duplicateArgument "database")
  else if (groups.field? "connection_info").isSome then .error (.duplicateArgument "connection_info")
  else if (groups.field? "instance_id").isSome then .error .duplicateInstance
  else .ok (readFields ⟨now, MetricsAgent.instanceId connection, some database⟩ groups)

/-- What comes of setting a field of a payload in place: nothing if its name is a private one, and
otherwise it is refused, whether there is such a field or not. -/
def assign (p : Payload) (field : String) : Checked Payload :=
  if field.startsWith "_" then .valid p else .invalid ⟨.frozen, [.name field]⟩ []

/-- Why a value is no mapping of settings. -/
inductive PairsFault
  | notIterable (kind : String)
  | notAPair (index : Nat)
  | pairLength (index length : Nat)
  | unhashable (kind : String)

/-- The wording of a fault. -/
def PairsFault.message : PairsFault → String
  | .notIterable kind => "'" ++ kind ++ "' object is not iterable"
  | .notAPair i =>
    "cannot convert dictionary update sequence element #" ++ decimalText i ++ " to a sequence"
  | .pairLength i n =>
    "dictionary update sequence element #" ++ decimalText i ++ " has length " ++ decimalText n
      ++ "; 2 is required"
  | .unhashable kind => "unhashable type: '" ++ kind ++ "'"

/-- The name of a fault. -/
def PairsFault.name : PairsFault → String
  | .pairLength _ _ => "ValueError"
  | _ => "TypeError"

/-- The parts of a value that has parts one after the other. -/
def parts? : Value → Option (List Value)
  | .list xs => some xs
  | .tuple xs => some xs
  | .set ss => some (ss.map .scalar)
  | .text s => some (s.toList.map fun c => .text (String.singleton c))
  | .bytes bs => some (bs.map fun b => .int b.toNat)
  | .map es => some (es.map fun (k, _) => .scalar k)
  | _ => none

/-- A mapping from a mapping, or from pairs given one after the other. -/
def entriesOf (v : Value) : Except PairsFault Entries :=
  match v with
  | .map es => .ok es
  | v =>
    match parts? v with
    | none => .error (.notIterable v.longKindName)
    | some items => go 0 [] items
where
  go (i : Nat) (es : Entries) : List Value → Except PairsFault Entries
    | [] => .ok es
    | item :: rest =>
      match parts? item with
      | none => .error (.notAPair i)
      | some [.scalar k, x] => go (i + 1) (es.put k x) rest
      | some [k, _] => .error (.unhashable k.kindName)
      | some other => .error (.pairLength i other.length)

end Payload

end MetricsAgent
