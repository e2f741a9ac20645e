import MetricsAgent.Number.Basic

/-!
# Settings

What the agent can be told: where to deliver, which database to watch, how often, what to log and
whether to report its own errors.  A setting that was given as a number keeps its kind.
-/

namespace MetricsAgent

/-! ## Choices -/

/-- The databases that can be watched. -/
inductive Engine
  | postgres
  | mysql
  | mongodb
  deriving DecidableEq, Repr

namespace Engine

def all : List Engine := [.postgres, .mysql, .mongodb]

def name : Engine → String
  | .postgres => "postgres"
  | .mysql => "mysql"
  | .mongodb => "mongodb"

def ofName? (s : String) : Option Engine :=
  all.find? (·.name == s)

/-- How the connection URLs of a database begin. -/
def schemes : Engine → List String
  | .postgres => ["postgres://", "postgresql://"]
  | .mysql => ["mysql://", "mariadb://"]
  | .mongodb => ["mongodb://", "mongodb+srv://"]

/-- The database that a connection URL belongs to. -/
def ofUrl? (url : String) : Option Engine :=
  all.find? fun e => e.schemes.any fun s => s.toList.isPrefixOf url.toList

/-- Words for a URL that belongs to no database. -/
def unknownUrlMessage : String :=
  "Unable to detect database type from URL. Supported schemes: "
    ++ ", ".intercalate (all.flatMap schemes)

theorem mem_all (e : Engine) : e ∈ all := by
  cases e <;> decide

end Engine

/-- Where a database is hosted. -/
inductive Provider
  | auto
  | generic
  | rds
  | aurora
  | supabase
  | neon
  deriving DecidableEq, Repr

namespace Provider

def all : List Provider := [.auto, .generic, .rds, .aurora, .supabase, .neon]

def name : Provider → String
  | .auto => "auto"
  | .generic => "generic"
  | .rds => "rds"
  | .aurora => "aurora"
  | .supabase => "supabase"
  | .neon => "neon"

def ofName? (s : String) : Option Provider :=
  all.find? (·.name == s)

end Provider

/-- The groups of metrics that a collection can gather. -/
inductive MetricGroup
  | queries
  | tables
  | indexes
  | settings
  | schema
  deriving DecidableEq, Repr

namespace MetricGroup

def all : List MetricGroup := [.queries, .tables, .indexes, .settings, .schema]

def name : MetricGroup → String
  | .queries => "query_stats"
  | .tables => "table_stats"
  | .indexes => "index_stats"
  | .settings => "settings"
  | .schema => "schema_metadata"

def ofName? (s : String) : Option MetricGroup :=
  all.find? (·.name == s)

/-- Names by which groups were known before. -/
def formerNames : List (String × MetricGroup) :=
  [("pg_stat_statements", .queries), ("pg_stat_user_tables", .tables),
    ("pg_stat_user_indexes", .indexes), ("pg_settings", .settings)]

end MetricGroup

/-- How much is logged. -/
inductive LogLevel
  | debug
  | info
  | warning
  | error
  deriving DecidableEq, Repr

namespace LogLevel

def all : List LogLevel := [.debug, .info, .warning, .error]

def name : LogLevel → String
  | .debug => "DEBUG"
  | .info => "INFO"
  | .warning => "WARNING"
  | .error => "ERROR"

def ofName? (s : String) : Option LogLevel :=
  all.find? (·.name == s)

/-- Words that stand for levels in settings. -/
def words : List (String × LogLevel) :=
  [("trace", .debug), ("debug", .debug), ("info", .info), ("warn", .warning),
    ("warning", .warning), ("error", .error)]

end LogLevel

/-- The layout of log lines. -/
inductive LogFormat
  | json
  | pretty
  deriving DecidableEq, Repr

namespace LogFormat

def all : List LogFormat := [.json, .pretty]

def name : LogFormat → String
  | .json => "json"
  | .pretty => "pretty"

def ofName? (s : String) : Option LogFormat :=
  all.find? (·.name == s)

end LogFormat

/-! ## Sections -/

/-- Where payloads go when nothing else is said. -/
def defaultEndpoint : String := "https://api.datapace.ai/v1/ingest"

/-- The connection pool of a collector. -/
structure PoolSettings where
  minConnections : Int
  maxConnections : Int
  acquireTimeout : Number
  deriving DecidableEq

def PoolSettings.default : PoolSettings := ⟨1, 5, .int 30⟩

/-- The endpoint that receives payloads. -/
structure IngestSettings where
  apiKey : String
  endpoint : String
  timeout : Number
  retries : Int
  compress : Bool
  deriving DecidableEq

/-- The database to watch. -/
structure DatabaseSettings where
  url : String
  engine : Option Engine
  provider : Provider
  collector : Option String
  pool : PoolSettings
  deriving DecidableEq

/-- The database that is meant: the one that is named, or the one that the URL belongs to. -/
def DatabaseSettings.resolvedEngine? (d : DatabaseSettings) : Option Engine :=
  d.engine.or (Engine.ofUrl? d.url)

/-- When and what to collect. -/
structure CollectionSettings where
  interval : Int
  jitter : Number
  metrics : List MetricGroup
  deriving DecidableEq

/-- The shortest time between collections, in seconds. -/
def CollectionSettings.shortestInterval : Int := 10

def CollectionSettings.default : CollectionSettings :=
  ⟨60, .float 5, MetricGroup.all⟩

/-- What to log, and where. -/
structure LogSettings where
  level : LogLevel
  format : LogFormat
  file : Option String
  deriving DecidableEq

def LogSettings.default : LogSettings := ⟨.info, .json, none⟩

/-- Whether and where the agent reports its own errors. -/
structure ReportingSettings where
  enabled : Bool
  dsn : Option String
  environment : Option String
  sampleRate : Number
  deriving DecidableEq

def ReportingSettings.default : ReportingSettings := ⟨false, none, none, .float 0⟩

/-- All settings of the agent. -/
structure Settings where
  ingest : IngestSettings
  database : DatabaseSettings
  collection : CollectionSettings
  logging : LogSettings
  reporting : ReportingSettings
  deriving DecidableEq

/-- How payloads are delivered. -/
structure DeliverySettings where
  endpoint : String
  apiKey : String
  timeout : Number
  maxRetries : Int
  compress : Bool
  retryBaseDelay : Number
  deriving DecidableEq

/-- Delivery to the endpoint of the settings; the first retry comes after a second. -/
def IngestSettings.delivery (s : IngestSettings) : DeliverySettings :=
  ⟨s.endpoint, s.apiKey, .float s.timeout.toBinary64, s.retries, s.compress, .float 1⟩

/-- The text without the slashes at its end. -/
def withoutTrailingSlashes (s : String) : List Char :=
  (s.toList.reverse.dropWhile (· == '/')).reverse

/-- The text without a given ending, if it has that ending. -/
def withoutEnding (ending cs : List Char) : List Char :=
  if ending.isSuffixOf cs then cs.take (cs.length - ending.length) else cs

/-- The address of the health probe beside an ingestion endpoint. -/
def healthUrl (endpoint : String) : String :=
  String.ofList (withoutEnding "/ingest".toList (withoutTrailingSlashes endpoint)) ++ "/health"

end MetricsAgent
