import RecordReport.Spec.Enumeration
import RecordReport.Table.Load

/-!
What can be wrong with a template, and what can keep a specification from being written as one.
-/
namespace RecordReport.Template

/-- The most fields a row of a template may have: label, property, enumeration and notes. -/
def maxFields : Nat := 4

/-- Why a specification cannot be written. -/
inductive WriteFault where
  /-- A label begins with a character that has a meaning at the head of a row. -/
  | markedLabel (label : String)
  /-- The place written to has no more room. -/
  | noRoom
  deriving DecidableEq, Repr

def WriteFault.message : WriteFault → String
  | .markedLabel label => s!"label '{label}' starts with a template marker"
  | .noRoom => "limit reached"

/-- Why there is no specification, or no text of one. -/
inductive Error where
  | tooManyFields (line found : Nat)
  | unknownCommand (line : Nat) (command : String)
  | unknownSection (line : Nat) (name : String)
  | repeatedSortKey (line : Nat) (property : String)
  | missingParameter (line : Nat) (command : String)
  | enumeration (line : Nat) (fault : Enumeration.Fault)
  | noIdentifier
  | unreadable (cause : LoadError)
  | unwritable (fault : WriteFault)
  deriving DecidableEq, Repr

namespace Error

def line? : Error → Option Nat
  | .tooManyFields line _ | .unknownCommand line _ | .unknownSection line _
  | .repeatedSortKey line _ | .missingParameter line _ | .enumeration line _ => some line
  | .unreadable cause => cause.line?
  | .noIdentifier | .unwritable _ => none

def message : Error → String
  | .tooManyFields line found =>
    s!"line {line}: template rows have at most {maxFields} fields, found {found}"
  | .unknownCommand line command => s!"line {line}: unknown command '{command}'"
  | .unknownSection line name => s!"line {line}: unknown section '{name}' in show list"
  | .repeatedSortKey line property => s!"line {line}: property '{property}' is already a sort key"
  | .missingParameter line command => s!"line {line}: command '{command}' requires a parameter"
  | .enumeration line fault => s!"line {line}: {fault.message}"
  | .noIdentifier =>
    "template defines no identifier and has no scalar or hidden item to default to"
  | .unreadable cause => s!"failed to read template: {cause.message}"
  | .unwritable fault => s!"failed to write template: {fault.message}"

/-- The error and the errors behind it, outermost first. -/
def chain (e : Error) : List String :=
  match e with
  | .unreadable cause => e.message :: cause.chain
  | _ => [e.message]

end Error
end RecordReport.Template
