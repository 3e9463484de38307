import RecordReport.Log.Settings
import RecordReport.Report.Warning

/-!
The arguments of the command line. Options may stand before or after their subject; those about logging
may also stand before the name of the command, and then yield to the same option after it.
-/
namespace RecordReport.Command

/-- When log lines are coloured. -/
inductive ColourWhen where
  /-- If they go to a terminal. -/
  | auto
  | always
  | never
  deriving DecidableEq, Repr

def ColourWhen.ofName? : String → Option ColourWhen
  | "auto" => some .auto
  | "always" => some .always
  | "never" => some .never
  | _ => none

def warningFormatOfName? : String → Option Report.Warning.Format
  | "text" => some .text
  | "json" => some .json
  | _ => none

/-! ## Options -/

/-- An option without a value. -/
inductive Switch where
  | verbose
  | quiet
  | logTimestamps
  | timestamp
  | excludeOther
  | includeHidden
  | noWarnings
  | help
  | version
  deriving DecidableEq, Repr

/-- An option with a value. -/
inductive Setting where
  | colour
  | logLevel
  | logFormat
  | logFile
  | template
  | output
  | title
  | warningsFormat
  deriving DecidableEq, Repr

/-- An option. -/
inductive Opt where
  | switch (s : Switch)
  | setting (s : Setting)
  deriving DecidableEq, Repr

/-- The long name of an option, and its letter if it has one. -/
def Opt.names : Opt → String × Option Char
  | .switch .verbose => ("verbose", some 'v')
  | .switch .quiet => ("quiet", some 'q')
  | .switch .logTimestamps => ("log-timestamps", none)
  | .switch .timestamp => ("timestamp", none)
  | .switch .excludeOther => ("exclude-other", none)
  | .switch .includeHidden => ("include-hidden", none)
  | .switch .noWarnings => ("no-warnings", none)
  | .switch .help => ("help", some 'h')
  | .switch .version => ("version", some 'V')
  | .setting .colour => ("color", none)
  | .setting .logLevel => ("log-level", none)
  | .setting .logFormat => ("log-format", none)
  | .setting .logFile => ("log-file", none)
  | .setting .template => ("template", some 't')
  | .setting .output => ("output", some 'o')
  | .setting .title => ("title", none)
  | .setting .warningsFormat => ("warnings-format", none)

def Switch.isCounted (s : Switch) : Bool := s = .verbose || s = .quiet

/-- A value that an option takes. A path must not be empty. -/
def Setting.accepts (setting : Setting) (value : String) : Bool :=
  match setting with
  | .colour => (ColourWhen.ofName? value).isSome
  | .logLevel => (Log.Level.ofName? value).isSome
  | .logFormat => (Log.Format.ofName? value).isSome
  | .warningsFormat => (warningFormatOfName? value).isSome
  | .logFile | .template | .output => value ≠ ""
  | .title => true

/-- What options can be given to. -/
inductive Scope where
  | program
  | render
  | template
  | check
  deriving DecidableEq, Repr

namespace Scope

def ofName? : String → Option Scope
  | "render" => some .render
  | "template" => some .template
  | "check" => some .check
  | _ => none

def shared : List Opt :=
  [.switch .verbose, .switch .quiet, .setting .colour, .setting .logLevel, .setting .logFormat,
   .setting .logFile, .switch .logTimestamps, .switch .help]

def options : Scope → List Opt
  | .program => .switch .version :: shared
  | .template => shared
  | .check =>
    [.setting .template, .switch .excludeOther, .switch .includeHidden] ++ shared
  | .render =>
    [.setting .template, .setting .output, .setting .title, .switch .timestamp,
     .switch .excludeOther, .switch .includeHidden, .switch .noWarnings, .setting .warningsFormat] ++
      shared

def long? (scope : Scope) (name : String) : Option Opt := scope.options.find? (·.names.1 = name)

def short? (scope : Scope) (letter : Char) : Option Opt :=
  scope.options.find? (·.names.2 = some letter)

end Scope

/-! ## Reading -/

/-- Why arguments do not ask for a run. -/
inductive Stop where
  /-- The arguments do not fit, in words. -/
  | usage (problem : String)
  | help
  | version
  deriving DecidableEq, Repr

/-- The options and operands given in one scope, the latest first. -/
structure Given where
  switches : List Switch := []
  settings : List (Setting × String) := []
  operands : List String := []
  deriving Repr

namespace Given

def addSwitch (g : Given) : Switch → Except Stop Given
  | .help => .error .help
  | .version => .error .version
  | s =>
    if !s.isCounted && s ∈ g.switches then
      .error (.usage s!"--{(Opt.switch s).names.1} is given twice")
    else .ok { g with switches := s :: g.switches }

def addSetting (g : Given) (s : Setting) (value : String) : Except Stop Given :=
  let name := (Opt.setting s).names.1
  if !s.accepts value then .error (.usage s!"invalid value '{value}' for --{name}")
  else if (g.settings.lookup s).isSome then .error (.usage s!"--{name} is given twice")
  else .ok { g with settings := (s, value) :: g.settings }

def count (g : Given) (s : Switch) : Nat := g.switches.count s

def has (g : Given) (s : Switch) : Bool := g.switches.contains s

def value? (g : Given) (s : Setting) : Option String := g.settings.lookup s

abbrev Pending := Option Setting

/-- The effect of letters after a dash. A letter with a value takes the rest as its value, or the next
argument if nothing is left. -/
def addLetters (scope : Scope) (g : Given) : List Char → Except Stop (Given × Pending)
  | [] => .ok (g, none)
  | c :: rest =>
    match scope.short? c with
    | none => .error (.usage s!"unexpected argument '-{c}'")
    | some (.switch s) => do (← g.addSwitch s).addLetters scope rest
    | some (.setting s) =>
      match rest with
      | [] => .ok (g, some s)
      | '=' :: value => (g.addSetting s (String.ofList value)).map (·, none)
      | value => (g.addSetting s (String.ofList value)).map (·, none)

/-- The effect of a long option without its dashes. -/
def addLong (scope : Scope) (g : Given) (text : String) : Except Stop (Given × Pending) :=
  let (name, value?) := match Text.splitOnce? '=' text with
    | some (name, value) => (name, some value)
    | none => (text, none)
  match scope.long? name, value? with
  | none, _ => .error (.usage s!"unexpected argument '--{name}'")
  | some (.switch _), some _ => .error (.usage s!"--{name} takes no value")
  | some (.switch s), none => (g.addSwitch s).map (·, none)
  | some (.setting s), some value => (g.addSetting s value).map (·, none)
  | some (.setting s), none => .ok (g, some s)

end Given

/-- What an argument looks like. -/
inductive Shape where
  /-- Two dashes, after which no argument is an option. -/
  | endOfOptions
  | long (text : String)
  | letters (letters : List Char)
  | operand

/-- The shape of an argument. A single dash is an operand. -/
def Shape.of (argument : String) : Shape :=
  match argument.toList with
  | ['-', '-'] => .endOfOptions
  | '-' :: '-' :: rest => .long (String.ofList rest)
  | ['-'] => .operand
  | '-' :: rest => .letters rest
  | _ => .operand

/-- The problem of a setting without its value. -/
def missingValue (s : Setting) : Stop := .usage s!"--{(Opt.setting s).names.1} needs a value"

/-- The value of a pending setting; an option cannot be one. -/
def takeValue (g : Given) (s : Setting) (argument : String) : Except Stop Given :=
  match Shape.of argument with
  | .operand => g.addSetting s argument
  | _ => .error (missingValue s)

def readCommand (scope : Scope) (g : Given) (pending : Given.Pending) (literal : Bool) :
    List String → Except Stop Given
  | [] =>
    match pending with
    | some s => .error (missingValue s)
    | none => .ok g
  | argument :: rest => do
    match pending with
    | some s => readCommand scope (← takeValue g s argument) none literal rest
    | none =>
      match if literal then Shape.operand else Shape.of argument with
      | .endOfOptions => readCommand scope g none true rest
      | .long text =>
        let (g, pending) ← g.addLong scope text
        readCommand scope g pending literal rest
      | .letters letters =>
        let (g, pending) ← g.addLetters scope letters
        readCommand scope g pending literal rest
      | .operand =>
        if g.operands.isEmpty && argument ≠ "" then
          readCommand scope { g with operands := [argument] } none literal rest
        else throw (.usage s!"unexpected argument '{argument}'")

/-- The options before the name of a command, the name, and the arguments after it. -/
def readProgram (g : Given) (pending : Given.Pending) :
    List String → Except Stop (Given × String × List String)
  | [] =>
    match pending with
    | some s => .error (missingValue s)
    | none => .error (.usage "a command is required")
  | argument :: rest => do
    match pending with
    | some s => readProgram (← takeValue g s argument) none rest
    | none =>
      match Shape.of argument with
      | .endOfOptions => throw (.usage "a command is required")
      | .long text =>
        let (g, pending) ← g.addLong .program text
        readProgram g pending rest
      | .letters letters =>
        let (g, pending) ← g.addLetters .program letters
        readProgram g pending rest
      | .operand => return (g, argument, rest)

/-! ## Invocations -/

/-- The choices for rendering. -/
structure RenderRequest where
  data : String
  template : Option String
  output : Option String
  title : Option String
  timestamp : Bool
  excludeOther : Bool
  includeHidden : Bool
  noWarnings : Bool
  warningsFormat : Report.Warning.Format
  deriving DecidableEq, Repr

/-- The choices for checking. -/
structure CheckRequest where
  data : String
  template : Option String
  excludeOther : Bool
  includeHidden : Bool
  deriving DecidableEq, Repr

/-- What a run is to do. -/
inductive Request where
  | render (request : RenderRequest)
  | template (data : String)
  | check (request : CheckRequest)
  deriving DecidableEq, Repr

/-- How a run is to log. -/
structure LogRequest where
  verbose : Nat
  quiet : Nat
  colour : ColourWhen
  level : Option Log.Level
  format : Log.Format
  file : Option String
  timestamps : Bool
  deriving DecidableEq, Repr

/-- A run. -/
structure Invocation where
  log : LogRequest
  request : Request
  deriving DecidableEq, Repr

def Invocation.paths (i : Invocation) : List String :=
  let named := match i.request with
    | .render r => r.data :: (r.template.toList ++ r.output.toList)
    | .template data => [data]
    | .check r => r.data :: r.template.toList
  named ++ i.log.file.toList

/-- The log choices of options before and after the name of a command. -/
def logRequest (outer inner : Given) : LogRequest :=
  let value? (s : Setting) : Option String := (inner.value? s).or (outer.value? s)
  let count (s : Switch) : Nat := if inner.has s then inner.count s else outer.count s
  { verbose := count .verbose
    quiet := count .quiet
    colour := ((value? .colour).bind ColourWhen.ofName?).getD .auto
    level := (value? .logLevel).bind Log.Level.ofName?
    format := ((value? .logFormat).bind Log.Format.ofName?).getD .pretty
    file := value? .logFile
    timestamps := inner.has .logTimestamps || outer.has .logTimestamps }

def requestOf (scope : Scope) (g : Given) : Except Stop Request :=
  match g.operands, scope with
  | [], _ | _, .program => .error (.usage "a data file is required")
  | data :: _, .template => .ok (.template data)
  | data :: _, .check =>
    .ok (.check ⟨data, g.value? .template, g.has .excludeOther, g.has .includeHidden⟩)
  | data :: _, .render =>
    .ok (.render
      { data := data
        template := g.value? .template
        output := g.value? .output
        title := g.value? .title
        timestamp := g.has .timestamp
        excludeOther := g.has .excludeOther
        includeHidden := g.has .includeHidden
        noWarnings := g.has .noWarnings
        warningsFormat := ((g.value? .warningsFormat).bind warningFormatOfName?).getD .text })

/-- More and less detail cannot be asked for in one place. -/
def checkConflict (g : Given) : Except Stop Unit :=
  if g.has .verbose && g.has .quiet then .error (.usage "--verbose conflicts with --quiet")
  else .ok ()

/-- The help that a name after `help` asks for. -/
def helpFor : List String → Stop
  | [] => .help
  | [name] =>
    if (Scope.ofName? name).isSome || name = "help" then .help
    else .usage s!"unrecognized command '{name}'"
  | _ :: extra :: _ => .usage s!"unexpected argument '{extra}'"

def parseArguments (arguments : List String) : Except Stop Invocation := do
  let (outer, name, rest) ← readProgram {} none arguments
  match Scope.ofName? name with
  | none => throw (if name = "help" then helpFor rest else .usage s!"unrecognized command '{name}'")
  | some scope =>
    let inner ← readCommand scope {} none false rest
    let request ← requestOf scope inner
    checkConflict inner
    checkConflict outer
    return ⟨logRequest outer inner, request⟩

end RecordReport.Command
