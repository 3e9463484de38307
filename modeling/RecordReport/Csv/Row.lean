import RecordReport.Csv.RawRecord
import RecordReport.Text.Blank

/-!
Rows of trimmed cells. A file is read in one of two ways: empty lines are dropped, or those between
two records are kept as rows without any field. Both ways see the same records and fail alike.
-/
namespace RecordReport.Csv

/-- One row of a file. -/
structure Row where
  line : Nat
  fields : List String
  deriving DecidableEq, Repr

namespace Row

/-- The field at an index, empty past the end of the row. -/
def field (row : Row) (i : Nat) : String := (row.fields[i]?).getD ""

def isBlank (row : Row) : Bool := row.fields.all (· == "")

/-- The fields up to the last one with content. -/
def content (row : Row) : List String :=
  (row.fields.reverse.dropWhile (· == "")).reverse

/-- The number of fields up to the last one with content. -/
def width (row : Row) : Nat := row.content.length

end Row

/-- A field that is no text. -/
structure Undecodable where
  /-- The number of records read before. -/
  record : Nat
  /-- Where the read of the record began. -/
  position : Position
  field : Nat
  /-- The number of bytes of the field before the fault. -/
  wholeBytes : Nat
  deriving DecidableEq, Repr

/-- The blank characters of ASCII without the vertical tab. -/
def isAsciiBlank (b : UInt8) : Bool :=
  b = 32 || b = 9 || b = 10 || b = 12 || b = 13

/-- The texts of a record's fields. Bytes are trimmed before they are decoded, those of the first record
too, so that the place of a fault does not count the blanks before it. -/
def decodeFields (ordinal : Nat) (r : RawRecord) (field : Nat) :
    List Bytes → Except Undecodable (List String)
  | [] => .ok []
  | raw :: rest =>
    match Text.decode (Text.trimBy isAsciiBlank raw) with
    | .error whole => .error ⟨ordinal, r.start, field, whole⟩
    | .ok text => (decodeFields ordinal r (field + 1) rest).map (Text.cell text :: ·)

/-- A record together with the cells of its fields. -/
structure Decoded where
  raw : RawRecord
  cells : List String

/-- The records with their cells, or the first fault in the order of the file. -/
def decodeRecords (ordinal : Nat) : List RawRecord → Except Undecodable (List Decoded)
  | [] => .ok []
  | r :: rest => do
    let cells ← decodeFields ordinal r 0 r.fields
    let others ← decodeRecords (ordinal + 1) rest
    return ⟨r, cells⟩ :: others

/-! ## Empty lines -/

def isBreak (b : UInt8) : Bool := b = 10 || b = 13

/-- The number of line breaks; a carriage return with its line feed counts once. -/
def lineBreaks : Bytes → Nat
  | [] => 0
  | b :: rest =>
    (if b = 10 || (b = 13 && rest.head? != some 10) then 1 else 0) + lineBreaks rest

/-- The line breaks with which the source of a record begins. -/
def RawRecord.lead (r : RawRecord) : Bytes := r.source.takeWhile isBreak

/-- The source of a record from its first byte on. -/
def RawRecord.body (r : RawRecord) : Bytes := r.source.dropWhile isBreak

/-- The line breaks with which a list of bytes ends. -/
def trailingBreaks (bytes : Bytes) : Bytes :=
  (bytes.reverse.takeWhile isBreak).reverse

/-- Rows without a field on the `count` lines before `line`. -/
def emptyRows (line count : Nat) : List Row :=
  (List.range count).reverse.map fun i => ⟨line - (i + 1), []⟩

/-- The number of empty lines between a record and the next: one of the breaks ends the record. -/
def emptyLinesBetween (body lead : Bytes) : Nat :=
  lineBreaks (trailingBreaks body ++ lead) - 1

/-- The rows of the records that follow one with source `body` on line `line`. -/
def rowsAfter (line : Nat) (body : Bytes) : List Decoded → List Row
  | [] => []
  | d :: rest =>
    let here := line + lineBreaks (body ++ d.raw.lead)
    emptyRows here (emptyLinesBetween body d.raw.lead) ++
      ⟨here, d.cells⟩ :: rowsAfter here d.raw.body rest

def keepingRows : List Decoded → List Row
  | [] => []
  | d :: rest =>
    let here := 1 + lineBreaks d.raw.lead
    ⟨here, d.cells⟩ :: rowsAfter here d.raw.body rest

/-- The rows with empty lines dropped; a row's line is that of the position its read began at. -/
def skippingRows (records : List Decoded) : List Row :=
  records.map fun d => ⟨d.raw.start.line, d.cells⟩

/-- What becomes of empty lines. -/
inductive BlankLines where
  | skip
  | keep
  deriving DecidableEq, Repr

def readRows (blankLines : BlankLines) (file : Bytes) : Except Undecodable (List Row) :=
  (decodeRecords 0 (records file)).map fun decoded =>
    match blankLines with
    | .skip => skippingRows decoded
    | .keep => keepingRows decoded

end RecordReport.Csv
