import MetricsAgent.Settings.Basic
import MetricsAgent.Settings.Duration
import MetricsAgent.Validation.Record

/-!
# Settings from values

Each section is a record that refuses keys it does not know.  A section reads its fields in order and
writes them back in the same order, under the same names.
-/

namespace MetricsAgent

open Read

/-! ## Values of settings -/

/-- A text, or nothing. -/
def optionalText : Option String → Value
  | none => .null
  | some s => .text s

/-- A bound on whole numbers. -/
def Bound.ofInt (r : Relation) (n : Int) : Bound := ⟨r, .int n⟩

/-- A bound on floating point numbers. -/
def Bound.ofFloat (r : Relation) (n : Int) : Bound := ⟨r, .float (Binary64.ofInt n)⟩

/-! ## Pool -/

namespace PoolSettings

def title : String := "PoolConfig"

def fields : List Field := [⟨"min_connections", none⟩, ⟨"max_connections", none⟩, ⟨"acquire_timeout", none⟩]

/-- The fields of a pool. -/
def readFields (es : Entries) : Checked PoolSettings :=
  PoolSettings.mk
    <$> Field.optional ⟨"min_connections", none⟩ es default.minConnections
      (boundedInteger [.ofInt .atLeast 0])
    <*> Field.optional ⟨"max_connections", none⟩ es default.maxConnections
      (boundedInteger [.ofInt .atLeast 1])
    <*> Field.optional ⟨"acquire_timeout", none⟩ es default.acquireTimeout
      (boundedNumber [.ofFloat .above 0])

/-- A pool can hold its minimum. -/
def check (v : Value) : Checked PoolSettings :=
  refine (fun p =>
      if p.maxConnections < p.minConnections then
        some "min_connections cannot exceed max_connections"
      else none)
    (closedRecord title fields readFields v)

def toValue (p : PoolSettings) : Value :=
  .record [("min_connections", .int p.minConnections), ("max_connections", .int p.maxConnections),
    ("acquire_timeout", .ofNumber p.acquireTimeout)]

end PoolSettings

/-! ## Ingestion -/

namespace IngestSettings

def title : String := "IngestConfig"

def fields : List Field :=
  [⟨"api_key", none⟩, ⟨"endpoint", none⟩, ⟨"timeout", none⟩, ⟨"retries", none⟩, ⟨"compress", none⟩]

/-- What is wrong with a key: it must not be blank. -/
def apiKeyFault? (s : String) : Option String :=
  if CharClass.hasInk s then none else some "API key cannot be empty"

/-- What is wrong with an endpoint: it must be an address of the web. -/
def endpointFault? (s : String) : Option String :=
  if ["http://", "https://"].any fun p => p.toList.isPrefixOf s.toList then none
  else some "Endpoint must be an http:// or https:// URL"

def readFields (es : Entries) : Checked IngestSettings :=
  IngestSettings.mk
    <$> Field.optional ⟨"api_key", none⟩ es "" (fun v => refine apiKeyFault? (text v))
    <*> Field.required ⟨"endpoint", none⟩ es (fun v => refine endpointFault? (text v))
    <*> Field.optional ⟨"timeout", none⟩ es (.int 30)
      (boundedNumber [.ofFloat .atMost 600, .ofFloat .above 0])
    <*> Field.optional ⟨"retries", none⟩ es 3
      (boundedInteger [.ofInt .atMost 10, .ofInt .atLeast 0])
    <*> Field.optional ⟨"compress", none⟩ es true boolean

def check : Value → Checked IngestSettings :=
  closedRecord title fields readFields

def toValue (s : IngestSettings) : Value :=
  .record [("api_key", .text s.apiKey), ("endpoint", .text s.endpoint),
    ("timeout", .ofNumber s.timeout), ("retries", .int s.retries), ("compress", .bool s.compress)]

end IngestSettings

/-! ## Database -/

namespace DatabaseSettings

def title : String := "DatabaseConfig"

def fields : List Field :=
  [⟨"url", none⟩, ⟨"type", some "database_type"⟩, ⟨"provider", none⟩, ⟨"collector", none⟩, ⟨"pool", none⟩]

/-- What is wrong with a URL: it must not be blank and must belong to a database. -/
def urlFault? (s : String) : Option String :=
  if !CharClass.hasInk s then some "Database URL cannot be empty"
  else
    match Engine.ofUrl? s with
    | some _ => none
    | none => some Engine.unknownUrlMessage

/-- What is wrong with a collector: both its parts must be there. -/
def collectorFault? (s : String) : Option String :=
  let (module, cls) := CharClass.partition ':' s
  if module.isEmpty || cls.isEmpty then
    some "Collector must be given as 'package.module:ClassName'"
  else none

def readFields (es : Entries) : Checked DatabaseSettings :=
  DatabaseSettings.mk
    <$> Field.optional ⟨"url", none⟩ es "" (fun v => refine urlFault? (text v))
    <*> Field.optional ⟨"type", some "database_type"⟩ es none (nullable (oneOf Engine.all Engine.name))
    <*> Field.optional ⟨"provider", none⟩ es .auto (oneOf Provider.all Provider.name)
    <*> Field.optional ⟨"collector", none⟩ es none
      (nullable fun v => refine collectorFault? (text v))
    <*> Field.optional ⟨"pool", none⟩ es .default PoolSettings.check

def check : Value → Checked DatabaseSettings :=
  closedRecord title fields readFields

def toEntries (d : DatabaseSettings) : List (String × Value) :=
  [("url", .text d.url), ("type", optionalText (d.engine.map Engine.name)),
    ("provider", .text d.provider.name), ("collector", optionalText d.collector),
    ("pool", d.pool.toValue)]

def toValue (d : DatabaseSettings) : Value :=
  .record d.toEntries

end DatabaseSettings

/-! ## Collection -/

namespace CollectionSettings

def title : String := "CollectionConfig"

def fields : List Field := [⟨"interval", none⟩, ⟨"jitter", none⟩, ⟨"metrics", none⟩]

/-- An interval, as a number of seconds or as a duration. -/
def readInterval (v : Value) : Checked Int :=
  let bounds := [Bound.ofInt .atLeast shortestInterval]
  match v with
  | .text s =>
    match Duration.parse s with
    | .ok n => boundedInteger bounds (.int n)
    | .error f => .refuse (.rejected f.message)
  | v => boundedInteger bounds v

/-- A former name of a group is replaced by its name. -/
def currentName (v : Value) : Value :=
  match v with
  | .text s =>
    match MetricGroup.formerNames.find? (·.1 == s) with
    | some (_, g) => .text g.name
    | none => v
  | v => v

/-- A list of groups; in a sequence they may be given by their former names. -/
def readMetrics (v : Value) : Checked (List MetricGroup) :=
  list (oneOf MetricGroup.all MetricGroup.name) <|
    match v with
    | .list items => .list (items.map currentName)
    | v => v

def readFields (es : Entries) : Checked CollectionSettings :=
  CollectionSettings.mk
    <$> Field.optional ⟨"interval", none⟩ es default.interval readInterval
    <*> Field.optional ⟨"jitter", none⟩ es default.jitter
      (boundedNumber [.ofFloat .atMost 60, .ofFloat .atLeast 0])
    <*> Field.optional ⟨"metrics", none⟩ es default.metrics readMetrics

def check : Value → Checked CollectionSettings :=
  closedRecord title fields readFields

def toValue (c : CollectionSettings) : Value :=
  .record [("interval", .int c.interval), ("jitter", .ofNumber c.jitter),
    ("metrics", .list (c.metrics.map fun g => .text g.name))]

end CollectionSettings

/-! ## Logging -/

namespace LogSettings

def title : String := "LoggingConfig"

def fields : List Field := [⟨"level", none⟩, ⟨"format", none⟩, ⟨"file", none⟩]

/-- A word for a level, in letters of either case and with blanks around it, becomes the name of
the level. -/
def levelName (v : Value) : Value :=
  match v with
  | .text s =>
    match LogLevel.words.find? (·.1 == CharClass.asciiLower (CharClass.trimBlank s)) with
    | some (_, l) => .text l.name
    | none => v
  | v => v

/-- A text without blanks around it, in lower case. -/
def formatName (v : Value) : Value :=
  match v with
  | .text s => .text (CharClass.asciiLower (CharClass.trimBlank s))
  | v => v

def readFields (es : Entries) : Checked LogSettings :=
  LogSettings.mk
    <$> Field.optional ⟨"level", none⟩ es default.level
      (fun v => oneOf LogLevel.all LogLevel.name (levelName v))
    <*> Field.optional ⟨"format", none⟩ es default.format
      (fun v => oneOf LogFormat.all LogFormat.name (formatName v))
    <*> Field.optional ⟨"file", none⟩ es none (nullable text)

def check : Value → Checked LogSettings :=
  closedRecord title fields readFields

def toValue (l : LogSettings) : Value :=
  .record [("level", .text l.level.name), ("format", .text l.format.name), ("file", optionalText l.file)]

end LogSettings

/-! ## Error reporting -/

namespace ReportingSettings

def title : String := "SentryConfig"

def fields : List Field :=
  [⟨"enabled", none⟩, ⟨"dsn", none⟩, ⟨"environment", none⟩, ⟨"traces_sample_rate", none⟩]

def readFields (es : Entries) : Checked ReportingSettings :=
  ReportingSettings.mk
    <$> Field.optional ⟨"enabled", none⟩ es default.enabled boolean
    <*> Field.optional ⟨"dsn", none⟩ es default.dsn (nullable text)
    <*> Field.optional ⟨"environment", none⟩ es default.environment (nullable text)
    <*> Field.optional ⟨"traces_sample_rate", none⟩ es default.sampleRate
      (boundedNumber [.ofFloat .atMost 1, .ofFloat .atLeast 0])

def check : Value → Checked ReportingSettings :=
  closedRecord title fields readFields

def toValue (r : ReportingSettings) : Value :=
  .record [("enabled", .bool r.enabled), ("dsn", optionalText r.dsn),
    ("environment", optionalText r.environment), ("traces_sample_rate", .ofNumber r.sampleRate)]

end ReportingSettings

/-! ## All sections -/

namespace Settings

def title : String := "Config"

def fields : List Field :=
  [⟨"ingest", none⟩, ⟨"database", none⟩, ⟨"collection", none⟩, ⟨"logging", none⟩, ⟨"sentry", none⟩]

def readFields (es : Entries) : Checked Settings :=
  Settings.mk
    <$> Field.required ⟨"ingest", none⟩ es IngestSettings.check
    <*> Field.required ⟨"database", none⟩ es DatabaseSettings.check
    <*> Field.optional ⟨"collection", none⟩ es .default CollectionSettings.check
    <*> Field.optional ⟨"logging", none⟩ es .default LogSettings.check
    <*> Field.optional ⟨"sentry", none⟩ es .default ReportingSettings.check

def check : Value → Checked Settings :=
  closedRecord title fields readFields

def toValue (s : Settings) : Value :=
  .record [("ingest", s.ingest.toValue), ("database", s.database.toValue),
    ("collection", s.collection.toValue), ("logging", s.logging.toValue),
    ("sentry", s.reporting.toValue)]

/-- The fields of each section, by the way that leads to it. -/
def sectionFields : List (List String × List Field) :=
  [([], fields), (["ingest"], IngestSettings.fields), (["database"], DatabaseSettings.fields),
    (["database", "pool"], PoolSettings.fields), (["collection"], CollectionSettings.fields),
    (["logging"], LogSettings.fields), (["sentry"], ReportingSettings.fields)]

end Settings

/-! ## Delivery -/

namespace DeliverySettings

def title : String := "UploaderConfig"

def readFields (es : Entries) : Checked DeliverySettings :=
  DeliverySettings.mk
    <$> Field.optional ⟨"endpoint", none⟩ es defaultEndpoint text
    <*> Field.required ⟨"api_key", none⟩ es text
    <*> Field.optional ⟨"timeout", none⟩ es (.float 30) (boundedNumber [.ofFloat .above 0])
    <*> Field.optional ⟨"max_retries", none⟩ es 3 (boundedInteger [.ofInt .atLeast 0])
    <*> Field.optional ⟨"compress", none⟩ es true boolean
    <*> Field.optional ⟨"retry_base_delay", none⟩ es (.float 1) (boundedNumber [.ofFloat .atLeast 0])

def check : Value → Checked DeliverySettings :=
  openRecord title readFields

def toValue (d : DeliverySettings) : Value :=
  .record [("endpoint", .text d.endpoint), ("api_key", .text d.apiKey),
    ("timeout", .ofNumber d.timeout), ("max_retries", .int d.maxRetries),
    ("compress", .bool d.compress), ("retry_base_delay", .ofNumber d.retryBaseDelay)]

end DeliverySettings

end MetricsAgent
