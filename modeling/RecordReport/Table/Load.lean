import RecordReport.Csv.Row
import RecordReport.Disk
import RecordReport.Table

/-!
From rows to a table. The first row names the properties; each later row with content is a record, and
none may reach past the header.
-/
namespace RecordReport

/-- Why a row is no header. -/
inductive HeaderFault where
  | missing
  | unnamed
  /-- A blank name before a later one; columns count from one. -/
  | blankName (column : Nat)
  | repeatedName (column : Nat) (name : String)
  deriving DecidableEq, Repr

def HeaderFault.message : HeaderFault → String
  | .missing => "missing header row"
  | .unnamed => "header row has no property names"
  | .blankName column => s!"column {column} has a blank name but later columns are named"
  | .repeatedName column name => s!"column {column} repeats property name '{name}'"

/-- Why a file gives no rows or no table. -/
inductive LoadError where
  | fileNotFound (path : String)
  | fileUnreadable (path : String) (cause : Disk.Failure)
  /-- The file was opened and its content could not be read. -/
  | contentUnreadable (cause : Disk.Failure)
  | undecodable (fault : Csv.Undecodable)
  | header (fault : HeaderFault)
  /-- A row has content past the last column. -/
  | rowTooWide (line expected found : Nat)
  deriving DecidableEq, Repr

namespace LoadError

/-- The line of the header in messages, wherever the first row was found. -/
def headerLine : Nat := 1

def line? : LoadError → Option Nat
  | .fileNotFound _ | .fileUnreadable _ _ => none
  | .contentUnreadable _ => some 1
  | .undecodable fault => some fault.position.line
  | .header _ => some headerLine
  | .rowTooWide line _ _ => some line

def message : LoadError → String
  | .fileNotFound path => s!"CSV file not found: {path}"
  | .fileUnreadable path cause => s!"failed to read file {path}: {cause.message}"
  | .contentUnreadable cause => s!"failed to parse CSV at line 1: {cause.message}"
  | .undecodable fault =>
    let place := s!"record {fault.record} (line {fault.position.line}, field: {fault.field}, byte: {fault.position.byte})"
    let reason := s!"invalid UTF-8 in field {fault.field} near byte index {fault.wholeBytes}"
    s!"failed to parse CSV at line {fault.position.line}: CSV parse error: {place}: invalid utf-8: {reason}"
  | .header fault => s!"invalid header at line {headerLine}: {fault.message}"
  | .rowTooWide line expected found =>
    s!"line {line}: expected at most {expected} fields, found {found}"

/-- The error and the errors behind it, outermost first. -/
def chain (e : LoadError) : List String :=
  match e with
  | .fileUnreadable _ cause => [e.message, cause.message]
  | _ => [e.message]

end LoadError

/-- The position and value of the first member that has occurred before. -/
def firstRepeat? {α : Type} [DecidableEq α] (seen : List α) (index : Nat) : List α → Option (Nat × α)
  | [] => none
  | x :: xs => if x ∈ seen then some (index, x) else firstRepeat? (x :: seen) (index + 1) xs

/-- The property names of a header row. Blank fields at its end are no columns. -/
def headerNames (row : Option Csv.Row) : Except HeaderFault (List String) :=
  match row with
  | none => .error .missing
  | some row =>
    let names := row.content
    if names.isEmpty then .error .unnamed
    else match names.findIdx? (· == "") with
      | some i => .error (.blankName (i + 1))
      | none =>
        match firstRepeat? [] 0 names with
        | some (i, name) => .error (.repeatedName (i + 1) name)
        | none => .ok names

namespace Table

def recordOf (names : List String) (id : Nat) (row : Csv.Row) : Record :=
  ⟨id, row.line, names.mapIdx fun i name => (name, row.field i)⟩

/-- The records of rows, numbered from `id`. Rows without content are dropped. -/
def recordsOf (names : List String) (id : Nat) : List Csv.Row → Except LoadError (List Record)
  | [] => .ok []
  | row :: rest =>
    if names.length < row.width then
      .error (.rowTooWide row.line names.length row.width)
    else if row.isBlank then recordsOf names id rest
    else (recordsOf names (id + 1) rest).map (recordOf names id row :: ·)

/-- The table of rows, the first of which is the header. -/
def load (rows : List Csv.Row) : Except LoadError Table :=
  match headerNames rows.head? with
  | .error fault => .error (.header fault)
  | .ok names => (recordsOf names 1 rows.tail).map (⟨names, ·⟩)

end Table

/-! ## From a file -/

def rowsOf (blankLines : Csv.BlankLines) (content : Bytes) : Except LoadError (List Csv.Row) :=
  (Csv.readRows blankLines content).mapError .undecodable

/-- The error for a path that could not be read. A directory can be opened, so a reader that takes the
content bit by bit finds it unreadable only later than one that takes it whole. -/
def readError (blankLines : Csv.BlankLines) (path : String) : Disk.Failure → LoadError
  | .notFound => .fileNotFound path
  | .isDirectory =>
    match blankLines with
    | .skip => .contentUnreadable .isDirectory
    | .keep => .fileUnreadable path .isDirectory
  | cause => .fileUnreadable path cause

def rowsAt (disk : Disk) (blankLines : Csv.BlankLines) (path : String) :
    Except LoadError (List Csv.Row) :=
  match disk.read path with
  | .error cause => .error (readError blankLines path cause)
  | .ok content => rowsOf blankLines content

def tableAt (disk : Disk) (path : String) : Except LoadError Table := do
  Table.load (← rowsAt disk .skip path)

end RecordReport
