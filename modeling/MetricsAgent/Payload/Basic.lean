import MetricsAgent.Calendar.Basic
import MetricsAgent.Digest.Sha256
import MetricsAgent.Settings.Basic
import MetricsAgent.Value

/-!
# Payloads

A payload is what one collection has gathered: the identity of the database and up to five groups of
metrics.  A group that was not collected is absent.
-/

namespace MetricsAgent

/-- The version that the agent reports. -/
def agentVersion : String := "0.1.0"

/-- The stable name of a database: the first half of the digest of what identifies its connection. -/
def instanceId (connection : String) : String :=
  Sha256.hexadecimal ((Sha256.digest connection.toUTF8.toList).take 16)

/-! ## Parts -/

/-- The database that a payload comes from. -/
structure DatabaseIdentity where
  engine : String
  version : Option String
  provider : String
  providerDetails : List (String × String)
  deriving DecidableEq

/-- Statistics of one statement. -/
structure QueryStatistics where
  queryHash : Option String
  query : Option String
  calls : Option Int
  totalTime : Option Binary64
  meanTime : Option Binary64
  rows : Option Int
  sharedBlocksHit : Option Int
  sharedBlocksRead : Option Int
  deriving DecidableEq

/-- Statistics of one table. -/
structure TableStatistics where
  schema : String
  table : String
  sequentialScans : Option Int
  sequentialRows : Option Int
  indexScans : Option Int
  indexRows : Option Int
  inserted : Option Int
  updated : Option Int
  deleted : Option Int
  liveRows : Option Int
  deadRows : Option Int
  lastVacuum : Option DateTime
  lastAutovacuum : Option DateTime
  lastAnalyze : Option DateTime
  lastAutoanalyze : Option DateTime
  deriving DecidableEq

/-- Statistics of one index. -/
structure IndexStatistics where
  schema : String
  table : String
  index : String
  scans : Option Int
  entriesRead : Option Int
  rowsFetched : Option Int
  deriving DecidableEq

/-- A column of a table. -/
structure ColumnDescription where
  name : String
  dataType : String
  nullable : Bool
  default : Option String
  position : Int
  deriving DecidableEq

/-- A table. -/
structure TableDescription where
  schema : String
  name : String
  columns : List ColumnDescription
  rowEstimate : Option Int
  size : Option Int
  deriving DecidableEq

/-- An index. -/
structure IndexDescription where
  schema : String
  table : String
  name : String
  columns : List String
  isUnique : Bool
  isPrimary : Bool
  size : Option Int
  deriving DecidableEq

/-- Tables and indexes of a database. -/
structure SchemaDescription where
  tables : List TableDescription
  indexes : List IndexDescription
  deriving DecidableEq

/-! ## Payloads -/

/-- What one collection has gathered.  The settings of the server are texts when they come from
validation, and any values when they are given directly. -/
structure Payload where
  agentVersion : String
  timestamp : DateTime
  instanceId : String
  database : DatabaseIdentity
  queries : Option (List QueryStatistics)
  tables : Option (List TableStatistics)
  indexes : Option (List IndexStatistics)
  settings : Option Entries
  schema : Option SchemaDescription

namespace Payload

/-- Whether a group was collected. -/
def has (p : Payload) : MetricGroup → Bool
  | .queries => p.queries.isSome
  | .tables => p.tables.isSome
  | .indexes => p.indexes.isSome
  | .settings => p.settings.isSome
  | .schema => p.schema.isSome

/-- The groups that were collected, in their usual order. -/
def collectedGroups (p : Payload) : List MetricGroup :=
  MetricGroup.all.filter p.has

def withInstance (p : Payload) (connection : String) : Payload :=
  { p with instanceId := MetricsAgent.instanceId connection }

def withQueries (p : Payload) (qs : List QueryStatistics) : Payload :=
  { p with queries := some qs }

def withTables (p : Payload) (ts : List TableStatistics) : Payload :=
  { p with tables := some ts }

def withIndexes (p : Payload) (is : List IndexStatistics) : Payload :=
  { p with indexes := some is }

def withSettings (p : Payload) (es : Entries) : Payload :=
  { p with settings := some es }

def withSchema (p : Payload) (s : SchemaDescription) : Payload :=
  { p with schema := some s }

end Payload

end MetricsAgent
