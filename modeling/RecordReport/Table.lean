/-!
Tables of records. A record is a row of values by property name; its number among the records is its
identity, whatever the order it is shown in.
-/
namespace RecordReport

/-- One data row. -/
structure Record where
  /-- The number of the record, from one. -/
  id : Nat
  /-- The line it was read from. -/
  line : Nat
  /-- The values by property name. -/
  values : List (String × String)
  deriving DecidableEq, Repr

namespace Record

/-- The value of a property that the record has. -/
def get? (record : Record) (property : String) : Option String :=
  record.values.lookup property

/-- The value of a property, empty if the record does not have it. -/
def value (record : Record) (property : String) : String :=
  (record.get? property).getD ""

def hasValue (record : Record) (property : String) : Bool :=
  record.value property ≠ ""

/-- The name by which a document links to the record. -/
def anchor (record : Record) : String := s!"r{record.id}"

end Record

/-- Property names in header order and the records. -/
structure Table where
  properties : List String
  records : List Record
  deriving DecidableEq, Repr

namespace Table

def hasProperty (table : Table) (name : String) : Bool := table.properties.contains name

def propertyIndex? (table : Table) (name : String) : Option Nat :=
  table.properties.findIdx? (· == name)

end Table
end RecordReport
