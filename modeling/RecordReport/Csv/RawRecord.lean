import RecordReport.Text.Utf8

/-!
Comma-separated records as bytes. A record is what one read takes from the file: the line breaks
before it, its fields, and the byte that ended it. The sources of the records are consecutive pieces
of the file.
-/
namespace RecordReport.Csv

/-- What a byte means to the reader. -/
inductive Symbol where
  | quote
  | comma
  | carriageReturn
  | lineFeed
  | other
  deriving DecidableEq, Repr

/-- Only ASCII bytes have a meaning, so no byte inside a longer character has one. -/
def Symbol.ofByte (b : UInt8) : Symbol :=
  if b = 34 then .quote
  else if b = 44 then .comma
  else if b = 13 then .carriageReturn
  else if b = 10 then .lineFeed
  else .other

/-- Where the reader stands between two bytes. -/
inductive State where
  /-- Before a record, where line breaks are dropped. -/
  | recordStart
  /-- Before a field other than the first. -/
  | fieldStart
  /-- In a field outside quotes, where a quote is a character like others. -/
  | bare
  /-- Inside quotes. -/
  | quoted
  /-- After a quote inside quotes. -/
  | quoteSeen
  deriving DecidableEq, Repr

/-- What a symbol does to the record under construction. -/
inductive Step where
  | skip (next : State)
  | keep (next : State)
  | endField
  | endRecord
  deriving DecidableEq, Repr

/-- The rules of the format: a field that begins with a quote runs to the quote that is not doubled. -/
def State.step : State → Symbol → Step
  | .recordStart, .carriageReturn | .recordStart, .lineFeed => .skip .recordStart
  | .fieldStart, .carriageReturn | .fieldStart, .lineFeed => .endRecord
  | .recordStart, .quote | .fieldStart, .quote => .skip .quoted
  | .recordStart, .comma | .fieldStart, .comma => .endField
  | .recordStart, .other | .fieldStart, .other => .keep .bare
  | .bare, .comma => .endField
  | .bare, .carriageReturn | .bare, .lineFeed => .endRecord
  | .bare, .quote | .bare, .other => .keep .bare
  | .quoted, .quote => .skip .quoteSeen
  | .quoted, _ => .keep .quoted
  | .quoteSeen, .quote => .keep .quoted
  | .quoteSeen, .comma => .endField
  | .quoteSeen, .carriageReturn | .quoteSeen, .lineFeed => .endRecord
  | .quoteSeen, .other => .keep .bare

/-- How far a file has been read. -/
structure Position where
  /-- The number of bytes read. -/
  byte : Nat
  /-- One more than the number of line feeds read. -/
  line : Nat
  deriving DecidableEq, Repr

def Position.start : Position := ⟨0, 1⟩

def Position.advance (p : Position) (b : UInt8) : Position :=
  ⟨p.byte + 1, if b = 10 then p.line + 1 else p.line⟩

/-- What one read takes from a file. -/
structure RawRecord where
  /-- Where the read before this one stopped. -/
  start : Position
  /-- The bytes taken, in order. -/
  source : Bytes
  fields : List Bytes
  deriving DecidableEq, Repr

/-- A read in progress; the lists are in reverse order. -/
structure Partial where
  start : Position
  here : Position
  source : Bytes := []
  fields : List Bytes := []
  field : Bytes := []

namespace Partial

def fresh (p : Position) : Partial := ⟨p, p, [], [], []⟩

/-- A byte that belongs to no field. -/
def skip (r : Partial) (b : UInt8) : Partial :=
  { r with here := r.here.advance b, source := b :: r.source }

def keep (r : Partial) (b : UInt8) : Partial :=
  { r.skip b with field := b :: r.field }

def endField (r : Partial) : Partial :=
  { r with fields := r.field.reverse :: r.fields, field := [] }

def finish (r : Partial) : RawRecord :=
  ⟨r.start, r.source.reverse, r.endField.fields.reverse⟩

end Partial

/-- The records of the bytes that follow. The end of the file ends a record in progress. -/
def recordsFrom (state : State) (read : Partial) : Bytes → List RawRecord
  | [] => if state = .recordStart then [] else [read.finish]
  | b :: rest =>
    match state.step (Symbol.ofByte b) with
    | .skip next => recordsFrom next (read.skip b) rest
    | .keep next => recordsFrom next (read.keep b) rest
    | .endField => recordsFrom .fieldStart (read.skip b).endField rest
    | .endRecord =>
      let done := read.skip b
      done.finish :: recordsFrom .recordStart (.fresh done.here) rest

def markBytes : Bytes := [0xEF, 0xBB, 0xBF]

/-- The records of a file. A byte order mark at its very beginning belongs to no field. -/
def records (file : Bytes) : List RawRecord :=
  if markBytes.isPrefixOf file then
    recordsFrom .recordStart (markBytes.foldl Partial.skip (.fresh .start)) (file.drop 3)
  else
    recordsFrom .recordStart (.fresh .start) file

end RecordReport.Csv
