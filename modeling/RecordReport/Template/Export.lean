import RecordReport.Csv.Format
import RecordReport.Delivery
import RecordReport.Template.Parse

/-!
Writing a specification as a template. Reading the text gives an equal specification; only a label
that would be taken for a comment or a command cannot be written.
-/
namespace RecordReport.Template

def headings : List String := ["Label", "Property", "Enumeration", "Notes"]

def commandRow (name : CommandName) (text : String) : List String := [name.token, text, "", ""]

def enumerationText (e : Option Enumeration) : String :=
  match e with
  | some e => e.format
  | none => ""

/-- The row of a command that mentions a property. -/
def mentionRow (name : CommandName) (m : Mention) : List String :=
  [name.token, m.property, enumerationText m.enumeration, m.notes]

/-- A label that keeps its meaning at the head of a row. -/
def plainLabel (label : String) : Except WriteFault String :=
  if isMarked label then .error (.markedLabel label) else .ok label

/-- The label of a scalar outside groups. One that equals the property can be left blank, since a
blank label reads back as the property's name. -/
def topLabel (scalar : Scalar) : Except WriteFault String :=
  if isMarked scalar.label && scalar.label = scalar.property then .ok ""
  else plainLabel scalar.label

def scalarRow (label : String) (scalar : Scalar) : List String :=
  [label, scalar.property, enumerationText scalar.enumeration, scalar.notes]

/-- The rows of an item, each of which may be impossible to write. -/
def itemRows : Item → List (Except WriteFault (List String))
  | .scalar scalar => [(topLabel scalar).map (scalarRow · scalar)]
  | .group group =>
    (plainLabel group.label).map (fun label => [label, "", "", ""]) ::
      group.members.map (fun m => (plainLabel m.label).map (scalarRow · m)) ++
        [.ok ["", "", "", ""]]
  | .other mention => [.ok (mentionRow .other mention)]
  | .hidden mention => [.ok (mentionRow .hide mention)]

/-- The list of shown sections, unless all are shown. A lone separator names no section. -/
def sectionList? (v : Visibility) : Option String :=
  if v = .all then none
  else if v = .none then some Enumeration.entrySeparator.toString
  else some (Enumeration.entrySeparator.toString.intercalate (v.sections.map Section.name))

/-- The rows of the commands that a specification needs. -/
def commandRows (spec : Spec) : List (List String) :=
  spec.title.toList.map (commandRow .title) ++ spec.subtitle.toList.map (commandRow .subtitle) ++
    spec.sortKeys.map (commandRow .sort) ++ spec.identifiers.map (commandRow .identifier) ++
    (sectionList? spec.visibility).toList.map (commandRow .sections)

/-- The rows of a specification, each of which may be impossible to write. -/
def exportRows (spec : Spec) : List (Except WriteFault (List String)) :=
  .ok headings :: (commandRows spec).map .ok ++ spec.items.flatMap itemRows

/-- The values before the first fault, and the fault. -/
def beforeFault {ε α : Type} : List (Except ε α) → List α × Option ε
  | [] => ([], none)
  | .ok x :: rest => let (xs, fault) := beforeFault rest; (x :: xs, fault)
  | .error e :: _ => ([], some e)

def exportText (spec : Spec) : Except Error String :=
  match beforeFault (exportRows spec) with
  | (rows, none) => .ok (Csv.format rows)
  | (_, some fault) => .error (.unwritable fault)

/-- Text is collected into blocks of at most this many bytes before it is written. -/
def blockSize : Nat := 8192

/-- What comes of writing a specification to a place with limited room. A fault ends the writing when
its row is reached, at which time the last block has not been written. -/
def exportTo (limit : Option Nat) (spec : Spec) : Delivery × Except Error Unit :=
  let (rows, fault) := beforeFault (exportRows spec)
  let writes := blocks blockSize (Csv.parts rows)
  let delivery := Delivery.within limit writes
  match fault with
  | none => (delivery, if delivery.complete then .ok () else .error (.unwritable .noRoom))
  | some fault =>
    if (Delivery.within limit writes.dropLast).complete then
      (delivery, .error (.unwritable fault))
    else (delivery, .error (.unwritable .noRoom))

end RecordReport.Template
