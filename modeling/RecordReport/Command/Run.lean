import RecordReport.Command.Arguments
import RecordReport.Command.Steps
import RecordReport.Grid

/-!
Whole runs, from arguments to an exit code. A run that fails leaves the standard output empty and
every file but its log as it was.
-/
namespace RecordReport.Command

/-! ## Commands -/

def RenderRequest.options (r : RenderRequest) (now : Timestamp) : Report.Options where
  defaultTitle := r.title.getD (defaultTitle r.data)
  timestamp := if r.timestamp then some now else none
  excludeOther := r.excludeOther
  includeHidden := r.includeHidden

/-- The report that a request asks for. -/
def reportFor (r : RenderRequest) : Action Report.Rendered := do
  let inputs ← loadInputs r.data r.template
  renderReport inputs (r.options (← Action.now))

/-- The findings go to the standard error, unless the request wants none. -/
def announce (r : RenderRequest) (warnings : List Report.Warning) : Action Unit := do
  if r.noWarnings then
    if !warnings.isEmpty then
      Action.log ⟨.warn, .commands, "warnings suppressed", [("count", .number warnings.length)]⟩
  else if !warnings.isEmpty || r.warningsFormat = .json then
    Action.modify (·.printError (Report.Warning.format warnings r.warningsFormat))

def runRender (r : RenderRequest) : Action Unit :=
  Action.within ⟨.commands, "render", [("data", .plain r.data)]⟩ do
    let report ← reportFor r
    writeOutput r.output report.html
    announce r report.warnings

/-- The template that the data would have without one. -/
def templateFor (data : String) : Action String := do
  let table ← loadTable data
  Action.ofExcept .export (Template.exportText (Spec.ofTable table))

def runTemplate (data : String) : Action Unit := do
  let text ← templateFor data
  Action.modify (·.print text)

/-- The row of a finding in the table of findings. -/
def warningRow (index : Nat) : Report.Warning → List String
  | .unreferenced property => [toString (index + 1), "unreferenced", property, "-"]
  | .missingEntry property value =>
    [toString (index + 1), "no enumeration entry", property, value]

def warningGrid (warnings : List Report.Warning) : Grid where
  header := ["#", "Kind", "Property", "Value"]
  rows := warnings.mapIdx warningRow
  alignedRight := [0]
  width := 120

def summaryLines (r : CheckRequest) (inputs : Inputs) (warnings : List Report.Warning) :
    List String :=
  let counts := s!"Properties: {inputs.table.properties.length}  Records: {inputs.table.records.length}"
  let findings :=
    if warnings.isEmpty then ["No warnings."]
    else (warningGrid warnings).lines ++ [s!"Warnings: {warnings.length}"]
  [s!"Data: {r.data}", "Template: " ++ r.template.getD "(default)", counts] ++ findings

def CheckRequest.options (r : CheckRequest) : Report.Options where
  defaultTitle := defaultTitle r.data
  excludeOther := r.excludeOther
  includeHidden := r.includeHidden

/-- The inputs that a request is about, and what a report of them would find. -/
def findingsFor (r : CheckRequest) : Action (Inputs × List Report.Warning) := do
  let inputs ← loadInputs r.data r.template
  return (inputs, ← checkInputs inputs r.options)

def summaryText (r : CheckRequest) (inputs : Inputs) (warnings : List Report.Warning) : String :=
  String.join ((summaryLines r inputs warnings).map (· ++ "\n"))

def runCheck (r : CheckRequest) : Action Unit := do
  let (inputs, warnings) ←
    Action.within ⟨.commands, "check", [("data", .plain r.data)]⟩ (findingsFor r)
  Action.modify (·.print (summaryText r inputs warnings))

def runRequest : Request → Action Unit
  | .render r => runRender r
  | .template data => runTemplate data
  | .check r => runCheck r

/-! ## Runs -/

/-- What a run finds around it. -/
structure Environment where
  /-- The filter for log events. -/
  logFilter : Option String
  /-- Log lines on the standard error are seen on a terminal. -/
  terminal : Bool
  now : Timestamp

/-- What a run leaves behind. -/
structure Outcome where
  exitCode : Nat
  stdout : String
  stderr : String
  disk : Disk

def thresholdOf (r : LogRequest) : Log.Threshold :=
  match r.level with
  | some level => .upTo level
  | none => .ofDepth (2 + min r.verbose 255 - min r.quiet 255)

/-- The log settings that options ask for. A level from the options keeps the environment's filter
out. -/
def settingsOf (env : Environment) (r : LogRequest) : Log.Settings where
  threshold := thresholdOf r
  useEnvironment := r.verbose = 0 && r.quiet = 0 && r.level.isNone
  timestamps := r.timestamps
  colours :=
    match r.colour with
    | .always => true
    | .never => false
    | .auto => r.file.isNone && env.terminal
  format := r.format
  file := r.file

def openLog (disk : Disk) (settings : Log.Settings) : Except Disk.Failure Disk :=
  match settings.file with
  | some path => disk.append path []
  | none => .ok disk

def invoke (env : Environment) (disk : Disk) (i : Invocation) : Outcome :=
  let settings := settingsOf env i.log
  match openLog disk settings with
  | .error cause => ⟨1, "", s!"error: failed to initialize logging: {cause.message}\n", disk⟩
  | .ok disk =>
    let logging : Logging := ⟨settings, settings.filter env.logFilter⟩
    match runRequest i.request { disk := disk, logging := logging, now := env.now } with
    | (.ok (), s) => ⟨0, s.stdout, s.stderr, s.disk⟩
    | (.error failure, s) =>
      ⟨1, s.stdout, s.stderr ++ s!"error: {failure.message}\n", s.disk⟩

def versionText : String := "csvdoc 0.1.0\n"

/-- What the program is for and how it is called. This stands in for the full help, which lists every
option with its description and is not reproduced. -/
def helpText : String :=
  "Render CSV records as an HTML report\n\n" ++
  "Usage: csvdoc [OPTIONS] <render|template|check> <DATA>\n"

def run (env : Environment) (disk : Disk) (arguments : List String) : Outcome :=
  match parseArguments arguments with
  | .ok invocation => invoke env disk invocation
  | .error .help => ⟨0, helpText, "", disk⟩
  | .error .version => ⟨0, versionText, "", disk⟩
  | .error (.usage problem) => ⟨2, "", s!"error: {problem}\n\n{helpText}", disk⟩

end RecordReport.Command
