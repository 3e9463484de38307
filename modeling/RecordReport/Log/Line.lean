import RecordReport.JsonText
import RecordReport.Log.Settings
import RecordReport.Report.Options
import RecordReport.Text.Ranges
import RecordReport.Text.Property.Marks
import RecordReport.Text.Property.Unseen
import RecordReport.Text.Property.Width

/-!
The lines of a log.
-/
namespace RecordReport.Log

/-! ## Values -/

def hexText (n : Nat) : String := String.ofList (Nat.toDigits 16 n)

/-- A character that leaves no mark of its own: a control, a separator other than the space, a mark on
the character before it, or a character without a meaning. -/
def isUnseen (c : Char) : Bool :=
  Text.Property.unseen.has c || Text.Property.extend.has c ||
    Text.Property.ignorable.has c

def escapeChar (c : Char) : String :=
  if c = '"' then "\\\""
  else if c = '\\' then "\\\\"
  else if c = '\n' then "\\n"
  else if c = '\r' then "\\r"
  else if c = '\t' then "\\t"
  else if c.toNat = 0 then "\\0"
  else if isUnseen c then "\\u\x7b" ++ hexText c.toNat ++ "\x7d"
  else c.toString

def quote (s : String) : String := "\"" ++ String.join (s.toList.map escapeChar) ++ "\""

def Value.text : Value → String
  | .number n => toString n
  | .plain s => s
  | .quoted s => quote s

/-! ## Colours -/

/-- How a piece of a line looks on a terminal. -/
inductive Look where
  | bold
  | dim
  | italic
  | red
  | green
  | yellow
  | blue
  | purple
  deriving DecidableEq, Repr

/-- The number of a look in a control sequence. -/
def Look.code : Look → String
  | .bold => "1"
  | .dim => "2"
  | .italic => "3"
  | .red => "31"
  | .green => "32"
  | .yellow => "33"
  | .blue => "34"
  | .purple => "35"

/-- A piece of a line with a look, if lines are coloured. -/
def paint (colours : Bool) (look : Look) (s : String) : String :=
  if colours then "\x1b[" ++ look.code ++ "m" ++ s ++ "\x1b[0m" else s

/-- The word for a level, five columns wide, and its look. -/
def Level.word : Level → String × Look
  | .error => ("ERROR", .red)
  | .warn => (" WARN", .yellow)
  | .info => (" INFO", .green)
  | .debug => ("DEBUG", .blue)
  | .trace => ("TRACE", .purple)

/-! ## Lines -/

def fieldText (colours : Bool) (field : Field) : String :=
  paint colours .italic field.1 ++ paint colours .dim "=" ++ field.2.text

def fieldsText (colours : Bool) (fields : List Field) : String :=
  " ".intercalate (fields.map (fieldText colours))

def spanText (colours : Bool) (span : Span) : String :=
  let fields :=
    if span.fields.isEmpty then ""
    else paint colours .bold "\x7b" ++ fieldsText colours span.fields ++ paint colours .bold "\x7d"
  paint colours .bold span.name ++ fields ++ paint colours .dim ":"

def eventText (colours : Bool) (event : Event) : String :=
  " ".intercalate (event.message :: event.fields.map (fieldText colours))

/-- What stands before a message: the spans, if there are any, and a space. -/
def heading (spans : List String) : String :=
  if spans.isEmpty then "" else String.join spans ++ " "

def timeText (t : Timestamp) : String :=
  let date := Timestamp.yearText t.year ++ "-" ++ Timestamp.padded 2 t.month ++ "-" ++
    Timestamp.padded 2 t.day
  let time := Timestamp.padded 2 t.hour ++ ":" ++ Timestamp.padded 2 t.minute ++ ":" ++
    Timestamp.padded 2 t.second
  date ++ "T" ++ time ++ "Z"

/-- The level of an event at the head of a line. -/
def levelText (colours : Bool) (level : Level) : String :=
  paint colours level.word.2 level.word.1 ++ " "

def Value.toJson : Value → JsonValue
  | .number n => .number n
  | .plain s | .quoted s => .string s

def fieldsJson (fields : List Field) : List (String × JsonValue) :=
  fields.map fun field => (field.1, field.2.toJson)

def jsonLine (now : Timestamp) (spans : List Span) (event : Event) : String :=
  let fields := ("message", .string event.message) :: fieldsJson event.fields
  (JsonValue.object
    [("timestamp", .string (timeText now)),
     ("level", .string (event.level.name.map Char.toUpper)),
     ("fields", .object fields),
     ("spans", .array (spans.map fun s => .object (fieldsJson s.fields ++ [("name", .string s.name)])))]).compact

/-- The line of an event inside spans, the outermost first. -/
def line (s : Settings) (now : Timestamp) (spans : List Span) (event : Event) : String :=
  let c := s.colours
  let time := if s.timestamps then paint c .dim (timeText now) ++ " " else ""
  let start := time ++ levelText c event.level
  match s.format with
  | .pretty => start ++ heading (spans.map (spanText c)) ++ eventText c event ++ "\n"
  | .compact =>
    let after := (spans.filter (!·.fields.isEmpty)).map fun span =>
      " " ++ paint c .dim (fieldsText c span.fields)
    start ++ heading (spans.map fun span => paint c .bold span.name ++ ":") ++ eventText c event ++
      String.join after ++ "\n"
  | .json => jsonLine now spans event ++ "\n"

end RecordReport.Log
