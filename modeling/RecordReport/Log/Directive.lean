import RecordReport.Log.Event
import RecordReport.Text.Blank
import RecordReport.Text.Pattern.Reading
import RecordReport.Text.Property.Words
import RecordReport.Text.Split
import RecordReport.Text.Utf8

/-!
Directives: what a filter says about some of the events. A directive is written
`origin[span\x7bfield=value\x7d]=level`, and each of its parts can be left out.
-/
namespace RecordReport.Log

/-- What the value of a field has to be. -/
inductive Wanted where
  | number (n : Nat)
  /-- A value that matches a pattern. -/
  | text (source : String) (p : Text.Pattern)
  /-- A value that no field here can have, such as a fraction. -/
  | impossible
  deriving DecidableEq, Repr

namespace Wanted

/-- Numbers are less than this. -/
def bound : Nat := UInt64.size

/-- The wanted value of a text, which is a number, another kind of value, or else a pattern. -/
def read? (s : String) : Option Wanted :=
  if s = "true" || s = "false" then some .impossible
  else match Text.natural? s with
    | some n => some (if n < bound then .number n else .impossible)
    | none =>
      if Text.isNumeral s then some .impossible else (Text.Pattern.read? s).map (.text s)

def admits : Wanted → Value → Bool
  | number n, .number m => n = m
  | text _ p, .plain s | text _ p, .quoted s => p.isMatch s
  | _, _ => false

end Wanted

/-- A field that a directive asks for, with its value if that matters. -/
structure WantedField where
  name : String
  value : Option Wanted
  deriving DecidableEq, Repr

/-- The wanted field of a text. What follows a second equals sign does not count. -/
def WantedField.read? (s : String) : Option WantedField :=
  match Text.split '=' s with
  | name :: value :: _ => (Wanted.read? value).map fun v => ⟨name, some v⟩
  | name :: [] => some ⟨name, none⟩
  | [] => none

/-- What a filter says about the events it is about. -/
structure Directive where
  /-- The beginning of the names of the origins it is about, or all origins. -/
  origin : Option String := none
  /-- The name of the span that events must be in. -/
  span : Option String := none
  /-- The fields that a span, or an event, must have. -/
  fields : List WantedField := []
  threshold : Threshold
  deriving DecidableEq, Repr

namespace Directive

/-! ## Reading -/

/-- The part of a directive that is being read, and where it begins. -/
inductive Part where
  | start
  /-- A level or an origin. -/
  | word (from_ : Nat)
  | span (from_ : Nat)
  | field (from_ : Nat)
  /-- After the fields. -/
  | fieldsEnd
  /-- After the span and its fields. -/
  | spanEnd
  | level (from_ : Nat)

def isOriginStart (c : Char) : Bool :=
  c = '-' || c = ':' || c = '_' || Text.Property.word.has c

/-- The threshold after the equals sign; nothing stands for everything. -/
def thresholdOf? (s : String) : Option Threshold :=
  if s = "" then some (.upTo .trace) else Threshold.ofName? s

def slice? (bytes : Bytes) (start stop : Nat) : Option String :=
  (Text.decode ((bytes.take stop).drop start)).toOption

def addField? (d : Directive) (s : String) : Option Directive :=
  if s = "" then none
  else (WantedField.read? s).map fun field => { d with fields := d.fields ++ [field] }

/-- One more character of a directive, at a place of the text `bytes`. -/
def step (bytes : Bytes) (place : Nat) (c : Char) : Part × Directive → Option (Part × Directive)
  | (.start, d) =>
    if c = '[' then some (.span (place + 1), d)
    else if isOriginStart c then some (.word place, d)
    else none
  | (.word start, d) =>
    if c = '=' || c = '[' then
      (slice? bytes start place).map fun origin =>
        (if c = '=' then .level (place + 1) else .span (place + 1),
          { d with origin := some origin })
    else some (.word start, d)
  | (.span start, d) =>
    if c = ']' then
      (slice? bytes start place).map fun span => (.spanEnd, { d with span := some span })
    else if c = '\x7b' then
      (slice? bytes start place).map fun span =>
        (.field (place + 1), { d with span := if span = "" then none else some span })
    else some (.span start, d)
  | (.field start, d) =>
    if c = '\x7d' then
      ((slice? bytes start place).bind d.addField?).map fun d => (.fieldsEnd, d)
    else some (.field start, d)
  | (.fieldsEnd, d) => if c = ']' then some (.spanEnd, d) else none
  | (.spanEnd, d) => if c = '=' then some (.level (place + 1), d) else none
  | (.level start, d) => some (.level start, d)

/-- The directive at the end of the text. A word that is no level is an origin of which everything is
logged. -/
def finish (bytes : Bytes) : Part × Directive → Option Directive
  | (.word start, d) =>
    (slice? bytes start bytes.length).map fun word =>
      match Threshold.ofName? word with
      | some t => { d with threshold := t }
      | none => { d with origin := some word }
  | (.level start, d) =>
    ((slice? bytes start bytes.length).bind thresholdOf?).map fun t => { d with threshold := t }
  | (.spanEnd, d) => some d
  | _ => none

/-- The characters of a text, each with the number of bytes before it. -/
def placed (place : Nat) : List Char → List (Nat × Char)
  | [] => []
  | c :: rest => (place, c) :: placed (place + c.utf8Size) rest

/-- The directive of a text. Its parts are found in the text without the blanks around it, but their
words are then cut from the text as it stands, so blanks around it shift them. -/
def read? (text : String) : Option Directive := do
  let bytes := Text.encode text
  let start : Part × Directive := (.start, { threshold := .upTo .trace })
  finish bytes (← (placed 0 (Text.trim text).toList).foldlM (fun s (i, c) => step bytes i c s) start)

/-! ## Meaning -/

/-- The directive depends on the spans around an event. -/
def isDynamic (d : Directive) : Bool := d.span.isSome || !d.fields.isEmpty

/-- The directive asks for the value of a field. -/
def wantsValues (d : Directive) : Bool := d.fields.any (·.value.isSome)

/-- The directive is about events by themselves, whatever spans are around them. -/
def isStatic (d : Directive) : Bool := d.span.isNone && !d.wantsValues

def covers (d : Directive) (origin : Origin) : Bool :=
  match d.origin with
  | none => true
  | some beginning => beginning.toList.isPrefixOf origin.name.toList

/-- Every wanted field is among the names of fields. -/
def findsFields (d : Directive) (names : List String) : Bool :=
  d.fields.all fun field => names.contains field.name

/-- The length of the origin's name; the longest decides. -/
def originWeight (d : Directive) : Nat :=
  match d.origin with
  | none => 0
  | some beginning => beginning.utf8ByteSize + 1

/-- A directive decides before another: it has a longer origin, or else more fields, or else later names
of fields. -/
def decidesBefore (d e : Directive) : Bool :=
  if d.originWeight ≠ e.originWeight then e.originWeight < d.originWeight
  else if d.fields.length ≠ e.fields.length then e.fields.length < d.fields.length
  else decide (e.fields.map (·.name) < d.fields.map (·.name))

def isAboutSame (d e : Directive) : Bool :=
  d.origin = e.origin && d.span = e.span && d.fields = e.fields

def admitsValues (d : Directive) (span : Span) : Bool :=
  d.fields.all fun field =>
    match field.value with
    | none => true
    | some wanted => span.fields.any fun (name, value) => name = field.name && wanted.admits value

end Directive
end RecordReport.Log
