import RecordReport.Csv.Row
import RecordReport.Spec
import RecordReport.Template.Error

/-!
The rows of a template, one by one. What a row says does not depend on the rows around it: a comment,
a command, a blank row, the head of a group, an item, or nothing of use.
-/
namespace RecordReport.Template

/-- A row that begins with this character is a comment. -/
def commentMark : Char := '#'

/-- A row that begins with this character is a command. -/
def commandMark : Char := '_'

/-- A text at the head of a row would be taken for a comment or a command. -/
def isMarked (text : String) : Bool :=
  Text.startsWith text commandMark || Text.startsWith text commentMark

/-- What a command asks for. -/
inductive Command where
  | title (text : String)
  | subtitle (text : String)
  | sort (property : String)
  | identifier (property : String)
  | other (mention : Mention)
  | hide (mention : Mention)
  /-- Shows these sections and no others. -/
  | sections (visibility : Visibility)
  deriving DecidableEq, Repr

/-- The names of the commands. -/
inductive CommandName where
  | title
  | subtitle
  | sort
  | identifier
  | other
  | hide
  | sections
  deriving DecidableEq, Repr

namespace CommandName

/-- The name at the head of a row, with the mark. -/
def token : CommandName → String
  | .title => "_TITLE"
  | .subtitle => "_SUBTITLE"
  | .sort => "_SORT"
  | .identifier => "_IDENTIFIER"
  | .other => "_OTHER"
  | .hide => "_HIDE"
  | .sections => "_SHOW"

def all : List CommandName :=
  [.title, .subtitle, .sort, .identifier, .other, .hide, .sections]

def ofToken? (token : String) : Option CommandName := all.find? (·.token = token)

end CommandName

/-- What a row says. -/
inductive Line where
  | comment
  | command (command : Command)
  /-- Every field is blank. -/
  | blank
  | groupStart (label : String)
  /-- The label is empty if the row has none. -/
  | item (scalar : Scalar)
  /-- A row with content in neither of its first two fields. -/
  | ignored
  deriving DecidableEq, Repr

def enumerationOf (row : Csv.Row) : Except Error (Option Enumeration) :=
  (Enumeration.parse (row.field 2)).mapError (.enumeration row.line)

/-- The parameter of a command, which must not be empty. -/
def parameter (row : Csv.Row) : Except Error String :=
  if row.field 1 = "" then .error (.missingParameter row.line (row.field 0))
  else .ok (row.field 1)

def mentionOf (row : Csv.Row) : Except Error Mention := do
  let property ← parameter row
  let enumeration ← enumerationOf row
  return ⟨property, enumeration, row.field 3⟩

/-- The flags after further section names; blank names are none. -/
def enableNames (line : Nat) (v : Visibility) : List String → Except Error Visibility
  | [] => .ok v
  | name :: rest =>
    if name = "" then enableNames line v rest
    else match Section.ofName? name with
      | some part => enableNames line (v.enable part) rest
      | none => .error (.unknownSection line name)

/-- The flags that a list of section names turns on. -/
def visibilityOf (line : Nat) (list : String) : Except Error Visibility :=
  enableNames line .none ((Text.split Enumeration.entrySeparator list).map Text.trim)

/-- The command of a row that begins with the command mark. -/
def commandOf (row : Csv.Row) : Except Error Command :=
  match CommandName.ofToken? (row.field 0) with
  | some .title => (parameter row).map .title
  | some .subtitle => (parameter row).map .subtitle
  | some .sort => (parameter row).map .sort
  | some .identifier => (parameter row).map .identifier
  | some .other => (mentionOf row).map .other
  | some .hide => (mentionOf row).map .hide
  | some .sections => do return .sections (← visibilityOf row.line (← parameter row))
  | none => .error (.unknownCommand row.line (row.field 0))

/-- What a row says. Comments may have any number of fields. -/
def Line.ofRow (row : Csv.Row) : Except Error Line :=
  if Text.startsWith (row.field 0) commentMark then .ok .comment
  else if maxFields < row.fields.length then
    .error (.tooManyFields row.line row.fields.length)
  else if Text.startsWith (row.field 0) commandMark then (commandOf row).map .command
  else if row.isBlank then .ok .blank
  else if row.field 1 = "" then
    .ok (if row.field 0 = "" then .ignored else .groupStart (row.field 0))
  else do
    let enumeration ← enumerationOf row
    return .item ⟨row.field 1, row.field 0, enumeration, row.field 3⟩

end RecordReport.Template
