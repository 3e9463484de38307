import RecordReport.Template.Grouping

/-!
From the rows of a template to a specification. Rows are taken in order and the first fault ends the
reading; a template without an identifier falls back on its first shown or hidden property.
-/
namespace RecordReport.Template

/-- A specification under construction. -/
structure Draft where
  title : Option String := none
  subtitle : Option String := none
  sortKeys : List String := []
  identifiers : List String := []
  items : List Item := []
  visibility : Visibility := .all
  deriving DecidableEq, Repr

namespace Draft

def add (d : Draft) (item : Item) : Draft := { d with items := d.items ++ [item] }

/-- The draft after an effect of the row on a line. A property can be a sort key only once. -/
def apply (d : Draft) (line : Nat) : Effect → Except Error Draft
  | .item item => .ok (d.add item)
  | .command (.title text) => .ok { d with title := some text }
  | .command (.subtitle text) => .ok { d with subtitle := some text }
  | .command (.sort property) =>
    if property ∈ d.sortKeys then .error (.repeatedSortKey line property)
    else .ok { d with sortKeys := d.sortKeys ++ [property] }
  | .command (.identifier property) =>
    .ok { d with identifiers := d.identifiers ++ [property] }
  | .command (.other mention) => .ok (d.add (.other mention))
  | .command (.hide mention) => .ok (d.add (.hidden mention))
  | .command (.sections visibility) => .ok { d with visibility := visibility }

def applyAll (d : Draft) (line : Nat) : List Effect → Except Error Draft
  | [] => .ok d
  | effect :: rest => do (← d.apply line effect).applyAll line rest

/-- The property by which an item can identify records. -/
def identifying? : Item → Option String
  | .scalar scalar => some scalar.property
  | .group group => group.members.head?.map (·.property)
  | .hidden mention => some mention.property
  | .other _ => none

/-- The property to fall back on when the template names no identifier. -/
def fallback? (d : Draft) : Option String :=
  if d.identifiers.isEmpty then d.items.findSome? identifying? else none

def finish (d : Draft) : Except Error Spec :=
  if d.identifiers.isEmpty then
    match d.fallback? with
    | some property =>
      .ok ⟨d.title, d.subtitle, d.sortKeys, [property], d.items, d.visibility⟩
    | none => .error .noIdentifier
  else .ok ⟨d.title, d.subtitle, d.sortKeys, d.identifiers, d.items, d.visibility⟩

end Draft

/-- How far a template has been read. -/
structure Progress where
  grouping : Grouping := .idle
  draft : Draft := {}
  /-- The lines of the rows that said nothing of use. -/
  ignored : List Nat := []
  deriving DecidableEq, Repr

namespace Progress

def feed (p : Progress) (row : Csv.Row) : Except Error Progress := do
  let line ← Line.ofRow row
  let (grouping, effects) := p.grouping.advance line
  let draft ← p.draft.applyAll row.line effects
  return ⟨grouping, draft, if line = .ignored then p.ignored ++ [row.line] else p.ignored⟩

/-- The progress after rows, up to the first fault if there is one. -/
def feedAll (p : Progress) : List Csv.Row → Progress × Option Error
  | [] => (p, none)
  | row :: rest =>
    match p.feed row with
    | .ok next => next.feedAll rest
    | .error fault => (p, some fault)

/-- The draft with the group that is still open. -/
def complete (p : Progress) : Draft :=
  match p.grouping.close with
  | some item => p.draft.add item
  | none => p.draft

end Progress

/-- What came of reading a template. -/
structure Reading where
  /-- The lines of the rows that said nothing of use, up to the first fault. -/
  ignored : List Nat
  /-- The property that stands in for an identifier. -/
  fallback : Option String
  result : Except Error Spec

/-- The reading of a template's rows. The first row is a header and says nothing. -/
def read (rows : List Csv.Row) : Reading :=
  match ({} : Progress).feedAll rows.tail with
  | (p, some fault) => ⟨p.ignored, none, .error fault⟩
  | (p, none) => ⟨p.ignored, p.complete.fallback?, p.complete.finish⟩

def parse (rows : List Csv.Row) : Except Error Spec := (read rows).result

/-- The rows of a template's content; its empty lines are blank rows. -/
def rowsOf (content : Bytes) : Except Error (List Csv.Row) :=
  (RecordReport.rowsOf .keep content).mapError .unreadable

def parseBytes (content : Bytes) : Except Error Spec := do parse (← rowsOf content)

def parseText (text : String) : Except Error Spec := parseBytes (Text.encode text)

/-- The specification of a template file on a disk. -/
def specAt (disk : Disk) (path : String) : Except Error Spec := do
  parse (← (rowsAt disk .keep path).mapError .unreadable)

end RecordReport.Template
