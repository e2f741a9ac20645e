import MetricsAgent.Payload.Document
import MetricsAgent.Payload.Reader

/-!
# Parts of payloads

The parts that payloads are made of, by the names under which their errors are reported.  Each can be
read and written on its own.
-/

namespace MetricsAgent

/-- A part: its name, and its form as a document if a value has it. -/
structure PayloadPart where
  title : String
  document : Value → Checked Json

namespace PayloadPart

/-- A part that is checked and then written. -/
def of {α : Type} (title : String) (check : Value → Checked α) (write : α → Json) : PayloadPart :=
  ⟨title, fun v => (check v).map write⟩

def all : List PayloadPart :=
  [of "DatabaseInfo" DatabaseIdentity.check DatabaseIdentity.toJson,
    of "QueryStats" QueryStatistics.check QueryStatistics.toJson,
    of "TableStats" TableStatistics.check TableStatistics.toJson,
    of "IndexStats" IndexStatistics.check IndexStatistics.toJson,
    of "ColumnMetadata" ColumnDescription.check ColumnDescription.toJson,
    of "TableMetadata" TableDescription.check TableDescription.toJson,
    of "IndexMetadata" IndexDescription.check IndexDescription.toJson,
    of "SchemaMetadata" SchemaDescription.check SchemaDescription.toJson]

/-- The part of a name. -/
def ofTitle? (title : String) : Option PayloadPart :=
  all.find? (·.title == title)

end PayloadPart

end MetricsAgent
