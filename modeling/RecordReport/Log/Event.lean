import RecordReport.Log.Level

/-!
What happens while a command runs: events, and the spans of work that they happen in.
-/
namespace RecordReport.Log

/-- The part of the program that an event comes from. -/
inductive Origin where
  | rows
  | tables
  | templates
  | ordering
  | summaries
  | rendering
  | steps
  | commands
  deriving DecidableEq, Repr

/-- The name by which a filter selects the events of a part. -/
def Origin.name : Origin → String
  | .rows => "csvdoc_ingest::csv::reader"
  | .tables => "csvdoc_ingest::table"
  | .templates => "csvdoc_template::parser"
  | .ordering => "csvdoc_report::context"
  | .summaries => "csvdoc_report::properties"
  | .rendering => "csvdoc_report::render"
  | .steps => "csvdoc_cli::pipeline"
  | .commands => "csvdoc::commands"

/-- The value of a field. -/
inductive Value where
  | number (n : Nat)
  /-- A text that is shown as it is. -/
  | plain (s : String)
  /-- A text that is shown between quotes. -/
  | quoted (s : String)
  deriving DecidableEq, Repr

abbrev Field := String × Value

/-- A piece of work that events happen in. Spans have level info. -/
structure Span where
  origin : Origin
  name : String
  fields : List Field
  deriving DecidableEq, Repr

/-- Something that happened. -/
structure Event where
  level : Level
  origin : Origin
  message : String
  fields : List Field := []
  deriving DecidableEq, Repr

end RecordReport.Log
