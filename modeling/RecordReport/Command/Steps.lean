import RecordReport.Command.Session
import RecordReport.Report.Render
import RecordReport.Template.Export

/-!
The steps that commands are made of: loading the inputs, making the report, and writing it.
-/
namespace RecordReport.Command

/-- What a report is made from, and the path of its data for messages. -/
structure Inputs where
  dataPath : String
  table : Table
  spec : Spec
  deriving DecidableEq, Repr

/-! ## Titles -/

/-- The title if a path names no file. -/
def fallbackTitle : String := "Report"

/-- A file name without the part after its last dot; a dot at its beginning does not count. -/
def stem (name : String) : String :=
  match Text.splitLast? '.' name with
  | some (before, _) => if before = "" then name else before
  | none => name

/-- The title for the data of a path: the stem of its last name. -/
def defaultTitle (path : String) : String :=
  match ((Disk.names path).filter (· ≠ ".")).getLast? with
  | none => fallbackTitle
  | some name => if name = ".." then fallbackTitle else stem name

/-! ## Loading -/

def loadTable (path : String) : Action Table := do
  let rows ← Action.ofExcept (.data path) (rowsAt (← Action.disk) .skip path)
  Action.log ⟨.debug, .rows, "tokenized csv input", [("rows", .number rows.length)]⟩
  let table ← Action.ofExcept (.data path) (Table.load rows)
  Action.log ⟨.debug, .tables, "loaded table",
    [("properties", .number table.properties.length), ("records", .number table.records.length)]⟩
  return table

/-- The warning about a row of a template that says nothing of use. -/
def ignoredEvent (line : Nat) : Log.Event :=
  ⟨.warn, .templates, "ignoring template row without label or property", [("line", .number line)]⟩

/-- The event of a property that stands in for an identifier. -/
def fallbackEvent (property : String) : Log.Event :=
  ⟨.debug, .templates, "defaulting identifier property", [("property", .quoted property)]⟩

/-- The event of a template that has been read. -/
def parsedEvent (spec : Spec) : Log.Event :=
  ⟨.debug, .templates, "parsed template",
    [("items", .number spec.items.length), ("sort_keys", .number spec.sortKeys.length),
     ("identifiers", .number spec.identifiers.length)]⟩

def loadSpec (path : String) : Action Spec := do
  let rows ← Action.ofExcept (fun e => .template path (.unreadable e))
    (rowsAt (← Action.disk) .keep path)
  Action.log
    ⟨.debug, .rows, "tokenized csv input with blank lines", [("rows", .number rows.length)]⟩
  let reading := Template.read rows
  Action.logAll (reading.ignored.map ignoredEvent)
  let spec ← Action.ofExcept (.template path) reading.result
  Action.logAll (reading.fallback.toList.map fallbackEvent)
  Action.log (parsedEvent spec)
  return spec

/-- The table of the data file, and the specification of the template file or, without one, of the
table itself. -/
def loadInputs (data : String) (template : Option String) : Action Inputs := do
  let table ← loadTable data
  Action.log ⟨.info, .steps, "loaded data",
    [("path", .plain data), ("properties", .number table.properties.length),
     ("records", .number table.records.length)]⟩
  match template with
  | some path => return ⟨data, table, ← loadSpec path⟩
  | none =>
    Action.log ⟨.debug, .steps, "no template given, using default", []⟩
    return ⟨data, table, Spec.ofTable table⟩

/-! ## Reports -/

/-- The event of a section that is made or left out. -/
def sectionEvents (c : Report.Context) : List Log.Event :=
  let hidden (name : String) : Log.Event := ⟨.debug, .rendering, name ++ " section hidden", []⟩
  (if c.spec.visibility.records then [] else [hidden "records"]) ++
    [if c.spec.visibility.properties then
      ⟨.debug, .summaries, "writing properties section", [("summaries", .number c.summaries.length)]⟩
    else hidden "properties"]

def renderSpan (inputs : Inputs) : Log.Span :=
  ⟨.rendering, "render",
    [("records", .number inputs.table.records.length), ("items", .number inputs.spec.items.length)]⟩

def makeReport (failure : Report.Error → Failure) (inputs : Inputs) (options : Report.Options) :
    Action Report.Rendered :=
  Action.within (renderSpan inputs) do
    let c ← Action.ofExcept failure (Report.Context.of inputs.table inputs.spec options)
    Action.log ⟨.debug, .ordering, "ordered records",
      [("records", .number c.records.length), ("sort_keys", .number c.spec.sortKeys.length)]⟩
    Action.logAll (sectionEvents c)
    let report := c.render
    Action.log ⟨.info, .rendering, "rendered report", [("warnings", .number report.warnings.length)]⟩
    return report

/-- The report of the inputs, to be written. -/
def renderReport (inputs : Inputs) (options : Report.Options) : Action Report.Rendered :=
  makeReport (.render inputs.dataPath) inputs options

/-- The findings of the report, which is not kept. -/
def checkInputs (inputs : Inputs) (options : Report.Options) : Action (List Report.Warning) := do
  return (← makeReport (.check inputs.dataPath) inputs options).warnings

/-- The report goes to a file, or to the standard output. -/
def writeOutput (path : Option String) (html : String) : Action Unit :=
  match path with
  | none => Action.modify (·.print html)
  | some path => do
    let content := Text.encode html
    let disk ← Action.ofExcept (.output path) ((← Action.disk).write path content)
    Action.modify fun s => { s with disk := disk }
    Action.log
      ⟨.info, .steps, "wrote report", [("path", .plain path), ("bytes", .number content.length)]⟩

end RecordReport.Command
