import RecordReport.Disk
import RecordReport.Log.Line
import RecordReport.Report.Context
import RecordReport.Template.Error

/-!
What a run does to the world: it changes a disk, prints, and logs. A run that fails keeps what it has
done until then.
-/
namespace RecordReport.Command

/-- How a run logs. -/
structure Logging where
  settings : Log.Settings
  filter : Log.Filter

/-- The state of a run. -/
structure Session where
  disk : Disk
  stdout : String := ""
  stderr : String := ""
  logging : Logging
  /-- The time of the run. -/
  now : Timestamp
  /-- The spans that are logged, the outermost first. -/
  spans : List Log.Span := []

namespace Session

/-- The session with more text on the standard output. -/
def print (s : Session) (text : String) : Session := { s with stdout := s.stdout ++ text }

/-- The session with more text on the standard error. -/
def printError (s : Session) (text : String) : Session := { s with stderr := s.stderr ++ text }

/-- The session with one more line in the log. -/
def appendLog (s : Session) (line : String) : Session :=
  match s.logging.settings.file with
  | none => s.printError line
  | some path =>
    match s.disk.append path (Text.encode line) with
    | .ok disk => { s with disk := disk }
    | .error _ => s

/-- The session after an event, which is logged if the filter admits it. -/
def log (s : Session) (event : Log.Event) : Session :=
  if s.logging.filter.admits s.spans event then
    s.appendLog (Log.line s.logging.settings s.now s.spans event)
  else s

def enter (s : Session) (span : Log.Span) : Session :=
  if s.logging.filter.admitsSpan s.spans span then { s with spans := s.spans ++ [span] } else s

/-- The session outside the spans that were entered since `outer`; in JSON their end is logged. -/
def leave (s : Session) (outer : List Log.Span) : Session :=
  let settings := s.logging.settings
  let logged :=
    if settings.format = .json && settings.spanEnds && outer.length < s.spans.length then
      s.appendLog (Log.line settings s.now s.spans ⟨.info, .commands, "close", []⟩)
    else s
  { logged with spans := outer }

end Session

/-- Why a run fails. -/
inductive Failure where
  | data (path : String) (cause : LoadError)
  | template (path : String) (cause : Template.Error)
  | render (path : String) (cause : Report.Error)
  | check (path : String) (cause : Report.Error)
  | output (path : String) (cause : Disk.Failure)
  | export (cause : Template.Error)
  deriving DecidableEq, Repr

/-- The step that failed and the errors behind it. -/
def Failure.chain : Failure → List String
  | .data path cause => s!"read data {path}" :: cause.chain
  | .template path cause => s!"read template {path}" :: cause.chain
  | .render path cause => [s!"render {path}", cause.message]
  | .check path cause => [s!"check {path}", cause.message]
  | .output path cause => [s!"write {path}", cause.message]
  | .export cause => "write template" :: cause.chain

def Failure.message (f : Failure) : String := ": ".intercalate f.chain

def Action (α : Type) : Type := Session → Except Failure α × Session

namespace Action

instance : Monad Action where
  pure x := fun s => (.ok x, s)
  bind action next := fun s =>
    match action s with
    | (.ok x, s) => next x s
    | (.error failure, s) => (.error failure, s)

def fail {α : Type} (failure : Failure) : Action α := fun s => (.error failure, s)

def modify (f : Session → Session) : Action Unit := fun s => (.ok (), f s)

def disk : Action Disk := fun s => (.ok s.disk, s)

def now : Action Timestamp := fun s => (.ok s.now, s)

/-- A result, or the failure that its error stands for. -/
def ofExcept {ε α : Type} (failure : ε → Failure) : Except ε α → Action α
  | .ok x => pure x
  | .error e => fail (failure e)

def log (event : Log.Event) : Action Unit := modify (·.log event)

def logAll (events : List Log.Event) : Action Unit := modify fun s => events.foldl Session.log s

def within {α : Type} (span : Log.Span) (action : Action α) : Action α := fun s =>
  let (result, inside) := action (s.enter span)
  (result, inside.leave s.spans)

end Action
end RecordReport.Command
