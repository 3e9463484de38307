/-!
JSON values and their text, either on one line or with two spaces of indentation.
-/
namespace RecordReport

/-- A JSON value without floating point numbers. -/
inductive JsonValue where
  | string (s : String)
  | number (n : Nat)
  | array (values : List JsonValue)
  | object (fields : List (String × JsonValue))

namespace JsonValue

def hexDigit (n : Nat) : Char := "0123456789abcdef".toList[n]?.getD '0'

def escapeChar (c : Char) : String :=
  if c = '"' then "\\\""
  else if c = '\\' then "\\\\"
  else if c = '\n' then "\\n"
  else if c = '\r' then "\\r"
  else if c = '\t' then "\\t"
  else if c = '\x08' then "\\b"
  else if c = '\x0c' then "\\f"
  else if c.toNat < 0x20 then
    "\\u00" ++ String.ofList [hexDigit (c.toNat / 16), hexDigit (c.toNat % 16)]
  else c.toString

def quote (s : String) : String := "\"" ++ String.join (s.toList.map escapeChar) ++ "\""

/-- The break and indentation before a value at some depth. -/
def lineStart (depth : Nat) : String := String.ofList ('\n' :: List.replicate (2 * depth) ' ')

mutual
/-- The text of a value with each member on a line of its own. -/
def pretty (depth : Nat) : JsonValue → String
  | .string s => quote s
  | .number n => toString n
  | .array values =>
    if values.isEmpty then "[]"
    else "[" ++ ",".intercalate (prettyAll (depth + 1) values) ++ lineStart depth ++ "]"
  | .object fields =>
    if fields.isEmpty then "\x7b\x7d"
    else "\x7b" ++ ",".intercalate (prettyFields (depth + 1) fields) ++ lineStart depth ++ "\x7d"

def prettyAll (depth : Nat) : List JsonValue → List String
  | [] => []
  | v :: rest => (lineStart depth ++ pretty depth v) :: prettyAll depth rest

def prettyFields (depth : Nat) : List (String × JsonValue) → List String
  | [] => []
  | (key, v) :: rest =>
    (lineStart depth ++ quote key ++ ": " ++ pretty depth v) :: prettyFields depth rest
end

mutual
def compact : JsonValue → String
  | .string s => quote s
  | .number n => toString n
  | .array values => "[" ++ ",".intercalate (compactAll values) ++ "]"
  | .object fields => "\x7b" ++ ",".intercalate (compactFields fields) ++ "\x7d"

def compactAll : List JsonValue → List String
  | [] => []
  | v :: rest => compact v :: compactAll rest

def compactFields : List (String × JsonValue) → List String
  | [] => []
  | (key, v) :: rest => (quote key ++ ":" ++ compact v) :: compactFields rest
end

end JsonValue
end RecordReport
