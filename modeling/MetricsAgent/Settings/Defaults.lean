import MetricsAgent.Settings.Reader
import MetricsAgent.Settings.Placeholder

/-!
# Default settings

The settings below all others, as a mapping.  What the environment can supply is a placeholder with a
fallback.
-/

namespace MetricsAgent

/-- A placeholder with a fallback, as it is written. -/
def placeholderText (name fallback : String) : String :=
  String.ofList (Placeholder.chars ⟨name.toList, some fallback.toList⟩)

/-- The default settings. -/
def Settings.defaults : Entries :=
  [(.text "ingest", .record
      [("api_key", .text (placeholderText "DBPULSE_API_KEY" "")),
        ("endpoint", .text (placeholderText "DBPULSE_ENDPOINT" defaultEndpoint)),
        ("timeout", .int 30), ("retries", .int 3), ("compress", .bool true)]),
    (.text "database", .record
      [("url", .text (placeholderText "DATABASE_URL" "")), ("type", .null),
        ("provider", .text "auto"), ("collector", .null),
        ("pool", .record
          [("min_connections", .int 1), ("max_connections", .int 5), ("acquire_timeout", .int 30)])]),
    (.text "collection", .record
      [("interval", .text (placeholderText "COLLECTION_INTERVAL" "60")), ("jitter", .float 5),
        ("metrics", .list (MetricGroup.all.map fun g => .text g.name))]),
    (.text "logging", .record
      [("level", .text (placeholderText "LOG_LEVEL" "info")),
        ("format", .text (placeholderText "LOG_FORMAT" "json")), ("file", .null)]),
    (.text "sentry", .record
      [("enabled", .bool false), ("dsn", .null), ("environment", .null),
        ("traces_sample_rate", .float 0)])]

/-- The variables that supply settings, by the dotted name of the setting. -/
def Settings.variables : List (String × String) :=
  [("ingest.api_key", "DBPULSE_API_KEY"), ("ingest.endpoint", "DBPULSE_ENDPOINT"),
    ("database.url", "DATABASE_URL"), ("collection.interval", "COLLECTION_INTERVAL"),
    ("logging.level", "LOG_LEVEL"), ("logging.format", "LOG_FORMAT")]

end MetricsAgent
