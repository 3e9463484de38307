import RecordReport.Text.Utf8

/-!
Comma-separated text. A field is quoted only where it has to be, so that reading gives the same fields
back.
-/
namespace RecordReport.Csv

/-- A field holds a character that has a meaning in the format. -/
def needsQuotes (field : String) : Bool :=
  field.toList.any fun c => c = '"' || c = ',' || c = '\r' || c = '\n'

def doubleQuotes : List Char → List Char
  | [] => []
  | c :: rest => if c = '"' then '"' :: '"' :: doubleQuotes rest else c :: doubleQuotes rest

def formatField (field : String) : String :=
  if needsQuotes field then
    String.ofList ('"' :: doubleQuotes field.toList ++ ['"'])
  else field

/-- The written form of a row; a single empty field is quoted, since an empty line is no row. -/
def formatRow : List String → String
  | [""] => "\"\"\n"
  | fields => ",".intercalate (fields.map formatField) ++ "\n"

def format (rows : List (List String)) : String :=
  String.join (rows.map formatRow)

/-! ## Parts

What is written can be cut between any two bytes, but not inside a doubled quote. -/

/-- A text of which each byte is a part. -/
def loose (s : String) : List Bytes := (Text.encode s).map ([·])

def quotedParts : List Char → List Bytes
  | [] => []
  | c :: rest =>
    (if c = '"' then [Text.encode "\"\""] else loose (String.ofList [c])) ++ quotedParts rest

def fieldParts (field : String) : List Bytes :=
  if needsQuotes field then loose "\"" ++ quotedParts field.toList ++ loose "\"" else loose field

def fieldsParts : List String → List Bytes
  | [] => []
  | [field] => fieldParts field
  | field :: rest => fieldParts field ++ loose "," ++ fieldsParts rest

def rowParts : List String → List Bytes
  | [""] => Text.encode "\"\"" :: loose "\n"
  | fields => fieldsParts fields ++ loose "\n"

/-- The parts of rows; put together, they are the written form. -/
def parts (rows : List (List String)) : List Bytes := rows.flatMap rowParts

end RecordReport.Csv
