import RecordReport.Markup
import RecordReport.Report.Context

/-!
The records section: a list of contents and an article for each record with its values that are not
empty.
-/
namespace RecordReport.Report

/-- The label and value of a scalar, unless the value is empty. -/
def scalarEntry (record : Record) (scalar : Scalar) : Noted (List Node) :=
  let raw := record.value scalar.property
  if raw = "" then .silent []
  else (shown scalar.property raw scalar.enumeration).map fun value =>
    [.plain "dt" scalar.label, .plain "dd" value]

/-- The label of a group and the entries of its members, unless all their values are empty. -/
def groupEntry (record : Record) (group : Group) : Noted (List Node) :=
  if group.members.any fun m => record.hasValue m.property then
    (Noted.join (group.members.map (scalarEntry record))).map fun entries =>
      [.classed "dt" "group" group.label,
       .block ⟨"dd", []⟩ [.block ⟨"dl", [("class", "group")]⟩ entries]]
  else .silent []

def itemEntry (record : Record) : Item → Noted (List Node)
  | .scalar scalar => scalarEntry record scalar
  | .group group => groupEntry record group
  | .other _ | .hidden _ => .silent []

namespace Context

variable (c : Context)

/-- The heading of an article and the line above it. -/
def headingNodes (record : Record) : List Node :=
  ((c.headingContext? record).toList.map (.classed "p" "context")) ++
    [.plain "h3" (c.heading record)]

def article (record : Record) : Noted Node :=
  (Noted.join (c.spec.items.map (itemEntry record))).map fun entries =>
    .block ⟨"article", [("class", "record"), ("id", record.anchor)]⟩
      (c.headingNodes record ++ [.block ⟨"dl", []⟩ entries])

/-- The list of records with links to their articles. -/
def contents : Node :=
  .block ⟨"nav", [("class", "contents")]⟩
    [.block ⟨"ol", []⟩
      (c.records.map fun r => .block ⟨"li", []⟩ [.link r.anchor (c.label r)])]

def recordsSection : Noted Node :=
  let articles := c.records.map c.article
  ⟨.block ⟨"section", [("id", "records")]⟩
      (.plain "h2" "Records" :: (if c.spec.visibility.contents then [c.contents] else []) ++
        articles.map (·.value)),
    articles.flatMap (·.warnings)⟩

end Context
end RecordReport.Report
