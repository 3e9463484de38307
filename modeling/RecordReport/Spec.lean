import RecordReport.Spec.Enumeration
import RecordReport.Spec.Visibility
import RecordReport.Table

/-!
Specifications: what a report shows, in which order, and how records are titled. A table gives one by
itself.
-/
namespace RecordReport

/-- One property shown as a labelled value. -/
structure Scalar where
  property : String
  label : String
  enumeration : Option Enumeration
  notes : String
  deriving DecidableEq, Repr

/-- Scalars shown together under a label. -/
structure Group where
  label : String
  members : List Scalar
  deriving DecidableEq, Repr

/-- A property that is listed by its name only. -/
structure Mention where
  property : String
  enumeration : Option Enumeration
  notes : String
  deriving DecidableEq, Repr

/-- What a specification lists. -/
inductive Item where
  | scalar (scalar : Scalar)
  | group (group : Group)
  /-- Summarised with the properties only. -/
  | other (mention : Mention)
  /-- Summarised with the properties only if hidden ones are asked for. -/
  | hidden (mention : Mention)
  deriving DecidableEq, Repr

/-- The properties that an item refers to, in order. -/
def Item.properties : Item → List String
  | .scalar s => [s.property]
  | .group g => g.members.map (·.property)
  | .other m | .hidden m => [m.property]

/-- A specification. -/
structure Spec where
  title : Option String
  subtitle : Option String
  sortKeys : List String
  /-- The properties whose values title a record. -/
  identifiers : List String
  items : List Item
  visibility : Visibility
  deriving DecidableEq, Repr

namespace Spec

/-- Every property that the items, sort keys and identifiers refer to, in this order; names may
repeat. -/
def references (spec : Spec) : List String :=
  spec.items.flatMap Item.properties ++ spec.sortKeys ++ spec.identifiers

def mentions (spec : Spec) (property : String) : Bool := spec.references.contains property

/-- The properties of the data that the specification does not refer to, in header order. -/
def unused (spec : Spec) (table : Table) : List String :=
  table.properties.filter fun property => !spec.mentions property

end Spec

def Scalar.plain (property : String) : Scalar := ⟨property, property, none, ""⟩

/-- Every property as a scalar in header order; the first one identifies records. -/
def Spec.ofTable (table : Table) : Spec where
  title := none
  subtitle := none
  sortKeys := []
  identifiers := table.properties.take 1
  items := table.properties.map fun property => .scalar (.plain property)
  visibility := .all

end RecordReport
