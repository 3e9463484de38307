import RecordReport.Markup
import RecordReport.Report.Context

/-!
The properties section: a summary for each property that is shown, with its values in every record,
and an alphabetical index of the summaries.
-/
namespace RecordReport.Report

/-- How a property comes to be summarised. -/
inductive Category where
  | normal
  | other
  | hidden
  /-- In the data and not in the specification. -/
  | unexpected
  deriving DecidableEq, Repr

def Category.name : Category → String
  | .normal => "normal"
  | .other => "other"
  | .hidden => "hidden"
  | .unexpected => "unexpected"

/-- What the properties section says about a property. -/
structure Summary where
  property : String
  label : String
  category : Category
  enumeration : Option Enumeration
  notes : String
  deriving DecidableEq, Repr

namespace Summary

def ofScalar (label : String) (s : Scalar) : Summary :=
  ⟨s.property, label, .normal, s.enumeration, s.notes⟩

def ofMention (category : Category) (m : Mention) : Summary :=
  ⟨m.property, m.property, category, m.enumeration, m.notes⟩

/-- The summary of a property that the specification does not refer to. -/
def unexpected (property : String) : Summary := ⟨property, property, .unexpected, none, ""⟩

/-- A member of a group is labelled by the group, and by its own label if it has one. -/
def memberLabel (group : Group) (member : Scalar) : String :=
  if member.label = "" then group.label else s!"{group.label}: {member.label}"

def ofItem (options : Options) : Item → List Summary
  | .scalar s => [ofScalar s.label s]
  | .group g => g.members.map fun m => ofScalar (memberLabel g m) m
  | .other m => if options.excludeOther then [] else [ofMention .other m]
  | .hidden m => if options.includeHidden then [ofMention .hidden m] else []

def legend (e : Enumeration) : Node :=
  .block ⟨"dl", [("class", "enumeration")]⟩
    (e.entries.flatMap fun (key, label) => [.plain "dt" key, .plain "dd" label])

def headNodes (s : Summary) : List Node :=
  [.block ⟨"h3", []⟩ [.classed "span" "label" s.label, .plain "code" s.property]] ++
    (if s.category = .normal then [] else [.classed "p" "category" s.category.name]) ++
    (if s.notes = "" then [] else [.classed "p" "notes" s.notes]) ++
    s.enumeration.toList.map legend

end Summary

/-- The summaries: for each property the first item that shows it, in the order of the items, then
the properties that the specification does not refer to. -/
def summariesOf (table : Table) (spec : Spec) (options : Options) : List Summary :=
  firstsBy Summary.property (spec.items.flatMap (Summary.ofItem options)) ++
    (spec.unused table).map Summary.unexpected

namespace Context

variable (c : Context)

def summaries : List Summary := summariesOf c.table c.spec c.options

/-- The cell that names a record, with a link if the record has an article. -/
def recordCell (record : Record) : Node :=
  if c.spec.visibility.records then
    .block ⟨"td", []⟩ [.link record.anchor (c.label record)]
  else .plain "td" (c.label record)

def summaryRow (s : Summary) (record : Record) : Noted Node :=
  (shown s.property (record.value s.property) s.enumeration).map fun value =>
    .block ⟨"tr", []⟩ [c.recordCell record, .plain "td" value]

def summaryArticle (s : Summary) : Noted Node :=
  let rows := c.records.map (c.summaryRow s)
  let head := Node.block ⟨"thead", []⟩
    [.block ⟨"tr", []⟩ [.plain "th" "Record", .plain "th" "Value"]]
  let id := (c.propertyAnchor s.property).getD ""
  ⟨.block ⟨"article", [("class", "property " ++ s.category.name), ("id", id)]⟩
      (s.headNodes ++
        [.block ⟨"table", []⟩ [head, .block ⟨"tbody", []⟩ (rows.map (·.value))]]),
    rows.flatMap (·.warnings)⟩

/-- The summaries in the order of their properties' names. -/
def indexed : List Summary :=
  c.summaries.mergeSort fun a b => (compare a.property b.property).isLE

/-- The index of properties with links to their summaries. A property without an anchor would have an
entry without a link. -/
def index : Node :=
  .block ⟨"nav", [("class", "index")]⟩
    [.block ⟨"ul", []⟩
      (c.indexed.map fun s =>
        .block ⟨"li", [("class", s.category.name)]⟩
          ((c.propertyAnchor s.property).toList.map (.link · s.property)))]

def propertiesSection : Noted Node :=
  let articles := c.summaries.map c.summaryArticle
  ⟨.block ⟨"section", [("id", "properties")]⟩
      (.plain "h2" "Properties" :: (if c.spec.visibility.index then [c.index] else []) ++
        articles.map (·.value)),
    articles.flatMap (·.warnings)⟩

end Context
end RecordReport.Report
