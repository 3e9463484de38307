import RecordReport.Report.Options
import RecordReport.Report.Warning
import RecordReport.Spec

/-!
A table, a specification that fits it, and what every part of a report takes from them: the order of
the records, their labels and the names that links use. The first key on which two records differ decides
their order; records that agree on every key keep theirs.
-/
namespace RecordReport.Report

/-! ## The order of records -/

/-- Empty values come last; others are in the order of their characters. -/
def compareValues (a b : String) : Ordering :=
  match a.isEmpty, b.isEmpty with
  | true, true => .eq
  | true, false => .gt
  | false, true => .lt
  | false, false => compare a b

def compareRecords (keys : List String) (a b : Record) : Ordering :=
  match keys with
  | [] => .eq
  | key :: rest => (compareValues (a.value key) (b.value key)).then (compareRecords rest a b)

def sortRecords (keys : List String) (records : List Record) : List Record :=
  records.mergeSort fun a b => (compareRecords keys a b).isLE

/-! ## Contexts -/

/-- Why there is no report. -/
inductive Error where
  /-- The specification refers to a property that the data does not have. -/
  | missingProperty (property : String)
  /-- The place written to has no more room. -/
  | noRoom
  deriving DecidableEq, Repr

def Error.message : Error → String
  | .missingProperty property =>
    s!"template references property '{property}' which is not in the data"
  | .noRoom => "failed to write report: limit reached"

/-- What a report is made from. Every property referred to is a column of the table. -/
structure Context where
  table : Table
  spec : Spec
  options : Options
  fits : ∀ p ∈ spec.references, table.hasProperty p = true

namespace Context

/-- The context of a table and a specification that fits it. -/
def of (table : Table) (spec : Spec) (options : Options) : Except Error Context :=
  match h : spec.references.find? fun p => !table.hasProperty p with
  | some property => .error (.missingProperty property)
  | none => .ok ⟨table, spec, options, by simpa using h⟩

variable (c : Context)

def records : List Record := sortRecords c.spec.sortKeys c.table.records

def title : String := c.spec.title.getD c.options.defaultTitle

/-- The identifier values of a record that are not empty. -/
def identifierValues (record : Record) : List String :=
  (c.spec.identifiers.map record.value).filter (· ≠ "")

/-- What a record without identifier values is called. -/
def untitled : String := "(Untitled)"

def separator : String := " / "

/-- The label of a record where it is listed. -/
def label (record : Record) : String :=
  match c.identifierValues record with
  | [] => untitled
  | values => separator.intercalate values

/-- The heading of a record: its last identifier value. -/
def heading (record : Record) : String :=
  ((c.identifierValues record).getLast?).getD untitled

/-- The line above the heading: the other identifier values, if there are any. -/
def headingContext? (record : Record) : Option String :=
  match (c.identifierValues record).dropLast with
  | [] => none
  | values => some (separator.intercalate values)

/-- The name by which the document links to a property's summary, if the property is in the data. -/
def propertyAnchor (property : String) : Option String :=
  (c.table.propertyIndex? property).map fun i => s!"p{i}"

end Context

/-- A raw value as it is shown. A value that an enumeration does not list is shown as it is, and
noted. -/
def shown (property raw : String) : Option Enumeration → Noted String
  | none => .silent raw
  | some e =>
    if raw = "" then .silent raw
    else match e.get? raw with
      | some label => .silent label
      | none => ⟨raw, [.missingEntry property raw]⟩

end RecordReport.Report
