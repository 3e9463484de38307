import RecordReport.Log.Filter

/-!
How a run logs: from which level on, in which format, and where to.
-/
namespace RecordReport.Log

/-- The layout of log lines. -/
inductive Format where
  /-- A line with the spans and their fields before the message. -/
  | pretty
  /-- A line with the spans before the message and their fields after it. -/
  | compact
  /-- A JSON object on a line. -/
  | json
  deriving DecidableEq, Repr

namespace Format

def name : Format → String
  | .pretty => "pretty"
  | .compact => "compact"
  | .json => "json"

def ofName? : String → Option Format
  | "pretty" => some .pretty
  | "compact" => some .compact
  | "json" => some .json
  | _ => none

end Format

/-- The choices for a run's log. -/
structure Settings where
  threshold : Threshold := .upTo .warn
  /-- A filter from the environment replaces the threshold. -/
  useEnvironment : Bool := true
  timestamps : Bool := false
  /-- Lines name the origin of their event. -/
  origins : Bool := false
  /-- The end of a span is an event, in JSON. -/
  spanEnds : Bool := true
  /-- Lines are coloured. -/
  colours : Bool := true
  format : Format := .pretty
  /-- The file that lines are appended to instead of being printed. -/
  file : Option String := none
  deriving DecidableEq, Repr

namespace Settings

/-- The settings for a count of requests for more detail. -/
def ofVerbosity (count : Nat) : Settings := { threshold := .ofDepth (2 + count) }

def programOrigins : List String :=
  ["csvdoc", "csvdoc_cli", "csvdoc_ingest", "csvdoc_report", "csvdoc_template"]

def ownFilter (s : Settings) : Filter :=
  { threshold := .upTo .warn } ::
    programOrigins.map fun origin => { origin := some origin, threshold := s.threshold }

/-- The filter of a run. One from the environment that cannot be read counts as none. -/
def filter (s : Settings) (environment : Option String) : Filter :=
  if s.useEnvironment then (environment.bind Filter.parse?).getD s.ownFilter else s.ownFilter

end Settings
end RecordReport.Log
