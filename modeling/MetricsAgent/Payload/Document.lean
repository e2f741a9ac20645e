import MetricsAgent.Json.Basic
import MetricsAgent.Fault
import MetricsAgent.Payload.Basic
import MetricsAgent.Text.Utf8

/-!
# Payloads as documents

The parts of a payload are written with all their fields, in order; what is not known is null.  The
document of a payload leaves out the groups that were not collected, and the details of the provider
when there are none.  Settings of the server that did not pass validation are written as the kind of
value that they are.
-/

namespace MetricsAgent

/-! ## Values of any kind -/

/-- Why a value has no place in a document. -/
inductive DocumentFault
  | undecodable (byte : UInt8) (position : Nat)
  | unknownKind (name : String)
  deriving DecidableEq

/-- The wording of a fault. -/
def DocumentFault.message : DocumentFault → String
  | .undecodable b position =>
    "'utf-8' codec can't decode byte 0x" ++ CharClass.hexText 2 b.toNat ++ " in position "
      ++ decimalText position ++ ": invalid utf-8"
  | .unknownKind name => "Unable to serialize unknown type: <class '" ++ name ++ "'>"

namespace DocumentFault

/-- The text that bytes encode. -/
def textOfBytes (bs : List UInt8) : Except DocumentFault String :=
  match Utf8.decode bs with
  | .ok s => .ok s
  | .error m => .error (.undecodable (bs[m.position]?.getD 0) m.position)

end DocumentFault

/-- A scalar in a document; a number that is not finite is null. -/
def Scalar.toJson : Scalar → Except DocumentFault Json
  | .null => .ok .null
  | .bool b => .ok (.bool b)
  | .int n => .ok (.int n)
  | .float x => .ok (if x.isFinite then .float x else .null)
  | .text s => .ok (.string s)
  | .bytes bs => (DocumentFault.textOfBytes bs).map .string
  | .date d => .ok (.string d.text)
  | .datetime t => .ok (.string t.documentText)
  | .path s => .ok (.string s)
  | .foreign k _ _ => .error (.unknownKind k)

/-- A scalar as a name in a document. -/
def Scalar.toName : Scalar → Except DocumentFault String
  | .null => .ok "None"
  | .bool b => .ok (if b then "true" else "false")
  | .bytes bs => DocumentFault.textOfBytes bs
  | .datetime t => .ok t.documentText
  | .foreign k _ _ => .error (.unknownKind k)
  | s => .ok s.display

/-- Gives a name a value: in its place if it is there, at the end otherwise. -/
def Json.putMember : List (String × Json) → String → Json → List (String × Json)
  | [], k, v => [(k, v)]
  | (k', v') :: rest, k, v => if k' = k then (k, v) :: rest else (k', v') :: putMember rest k v

mutual

/-- A value in a document. -/
def Value.toJson : Value → Except DocumentFault Json
  | .scalar s => s.toJson
  | .list xs => (itemsToJson xs).map .array
  | .tuple xs => (itemsToJson xs).map .array
  | .set ss => (ss.mapM Scalar.toJson).map .array
  | .map es => (entriesToJson [] es).map .object

def itemsToJson : List Value → Except DocumentFault (List Json)
  | [] => .ok []
  | x :: xs => do
    let first ← x.toJson
    return first :: (← itemsToJson xs)

/-- The members of an object, behind those already written; of entries under one name the last
counts. -/
def entriesToJson (written : List (String × Json)) :
    List (Scalar × Value) → Except DocumentFault (List (String × Json))
  | [] => .ok written
  | (k, v) :: rest => do
    let name ← k.toName
    let value ← v.toJson
    entriesToJson (Json.putMember written name value) rest

end

/-! ## Parts -/

namespace Json

/-- A text, or null. -/
def optText : Option String → Json
  | some s => .string s
  | none => .null

/-- A whole number, or null. -/
def optInt : Option Int → Json
  | some n => .int n
  | none => .null

/-- A floating point number, or null. -/
def optFloat : Option Binary64 → Json
  | some x => .float x
  | none => .null

/-- A time, or null. -/
def optTime : Option DateTime → Json
  | some t => .string t.documentText
  | none => .null

end Json

open Json

def DatabaseIdentity.members (d : DatabaseIdentity) : List (String × Json) :=
  [("type", .string d.engine), ("version", optText d.version), ("provider", .string d.provider),
    ("provider_metadata", .object (d.providerDetails.map fun (k, v) => (k, .string v)))]

def DatabaseIdentity.toJson (d : DatabaseIdentity) : Json :=
  .object d.members

def QueryStatistics.toJson (q : QueryStatistics) : Json :=
  .object
    [("query_hash", optText q.queryHash), ("query", optText q.query), ("calls", optInt q.calls),
      ("total_time_ms", optFloat q.totalTime), ("mean_time_ms", optFloat q.meanTime),
      ("rows", optInt q.rows), ("shared_blks_hit", optInt q.sharedBlocksHit),
      ("shared_blks_read", optInt q.sharedBlocksRead)]

def TableStatistics.toJson (t : TableStatistics) : Json :=
  .object
    [("schema", .string t.schema), ("table", .string t.table), ("seq_scan", optInt t.sequentialScans),
      ("seq_tup_read", optInt t.sequentialRows), ("idx_scan", optInt t.indexScans),
      ("idx_tup_fetch", optInt t.indexRows), ("n_tup_ins", optInt t.inserted),
      ("n_tup_upd", optInt t.updated), ("n_tup_del", optInt t.deleted),
      ("n_live_tup", optInt t.liveRows), ("n_dead_tup", optInt t.deadRows),
      ("last_vacuum", optTime t.lastVacuum), ("last_autovacuum", optTime t.lastAutovacuum),
      ("last_analyze", optTime t.lastAnalyze), ("last_autoanalyze", optTime t.lastAutoanalyze)]

def IndexStatistics.toJson (i : IndexStatistics) : Json :=
  .object
    [("schema", .string i.schema), ("table", .string i.table), ("index", .string i.index),
      ("idx_scan", optInt i.scans), ("idx_tup_read", optInt i.entriesRead),
      ("idx_tup_fetch", optInt i.rowsFetched)]

def ColumnDescription.toJson (c : ColumnDescription) : Json :=
  .object
    [("name", .string c.name), ("data_type", .string c.dataType), ("nullable", .bool c.nullable),
      ("default", optText c.default), ("position", .int c.position)]

def TableDescription.toJson (t : TableDescription) : Json :=
  .object
    [("schema", .string t.schema), ("name", .string t.name),
      ("columns", .array (t.columns.map ColumnDescription.toJson)),
      ("row_count_estimate", optInt t.rowEstimate), ("size_bytes", optInt t.size)]

def IndexDescription.toJson (i : IndexDescription) : Json :=
  .object
    [("schema", .string i.schema), ("table", .string i.table), ("name", .string i.name),
      ("columns", .array (i.columns.map Json.string)), ("is_unique", .bool i.isUnique),
      ("is_primary", .bool i.isPrimary), ("size_bytes", optInt i.size)]

def SchemaDescription.toJson (s : SchemaDescription) : Json :=
  .object
    [("tables", .array (s.tables.map TableDescription.toJson)),
      ("indexes", .array (s.indexes.map IndexDescription.toJson))]

/-! ## Payloads -/

namespace Payload

/-- The members that every payload has, with a given form of the identity of the database. -/
def headMembers (p : Payload) (database : Json) : List (String × Json) :=
  [("agent_version", .string p.agentVersion), ("timestamp", .string p.timestamp.documentText),
    ("instance_id", .string p.instanceId), ("database", database)]

/-- A group under its name; null if it was not collected. -/
def groupMember (p : Payload) : MetricGroup → Except DocumentFault (String × Json)
  | .queries =>
    .ok ("query_stats", (p.queries.map fun qs => .array (qs.map QueryStatistics.toJson)).getD .null)
  | .tables =>
    .ok ("table_stats", (p.tables.map fun ts => .array (ts.map TableStatistics.toJson)).getD .null)
  | .indexes =>
    .ok ("index_stats", (p.indexes.map fun is => .array (is.map IndexStatistics.toJson)).getD .null)
  | .settings =>
    match p.settings with
    | none => .ok ("settings", .null)
    | some es => do return ("settings", .object (← entriesToJson [] es))
  | .schema => .ok ("schema", (p.schema.map SchemaDescription.toJson).getD .null)

/-- The whole payload with everything that is not known as null. -/
def toJson (p : Payload) : Except DocumentFault Json := do
  let groups ← MetricGroup.all.mapM p.groupMember
  return .object (p.headMembers p.database.toJson ++ groups)

/-- The identity of the database without empty details of the provider. -/
def databaseMember (p : Payload) : Json :=
  .object (p.database.members.filter fun (k, _) =>
    k ≠ "provider_metadata" || !p.database.providerDetails.isEmpty)

/-- The document of a payload. -/
def document (p : Payload) : Except DocumentFault Json := do
  let groups ← p.collectedGroups.mapM p.groupMember
  return .object (p.headMembers p.databaseMember ++ groups)

/-- Why a payload has no text. -/
inductive FormatFault
  | notAPayload (kind : String)
  | document (f : DocumentFault)
  | print (e : Json.PrintError)
  deriving DecidableEq

/-- The wording of a fault. -/
def FormatFault.message : FormatFault → String
  | .notAPayload kind => "Expected Payload, got " ++ kind
  | .document f => f.message
  | .print e => e.message

/-- A fault of formatting among all faults. -/
def FormatFault.toFault (f : FormatFault) : Fault :=
  match f with
  | .notAPayload _ => .foreign "TypeError" (some f.message) none
  | .document (.undecodable _ _) => .foreign "UnicodeDecodeError" (some f.message) none
  | .document (.unknownKind _) => .foreign "PydanticSerializationError" (some f.message) none
  | .print _ => .foreign "ValueError" (some f.message) none

/-- The document of a payload in a style. -/
def format (style : Json.Style) (p : Payload) : Except FormatFault String :=
  match p.document with
  | .error f => .error (.document f)
  | .ok j =>
    match Json.print style j with
    | .ok s => .ok s
    | .error e => .error (.print e)

end Payload

/-! ## Anything a collector hands over -/

/-- What a collector hands over: a payload, or something else by mistake. -/
inductive Collected
  | payload (p : Payload)
  | other (v : Value)

/-- The text of what was handed over; only a payload has one. -/
def Collected.format (style : Json.Style) : Collected → Except Payload.FormatFault String
  | .payload p => p.format style
  | .other v => .error (.notAPayload v.kindName)

end MetricsAgent
