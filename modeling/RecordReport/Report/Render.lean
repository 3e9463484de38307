import RecordReport.Delivery
import RecordReport.Report.Articles
import RecordReport.Report.Summary

/-!
Whole reports. The specification is checked against the table first; after that a report is always
made, and only a place with too little room can keep it from being written.
-/
namespace RecordReport.Report

/-- A document and what was found while making it. -/
structure Rendered where
  document : Node
  warnings : List Warning
  deriving Repr

namespace Rendered

def html (r : Rendered) : String := Markup.documentText r.document

/-- The pieces that a report is written in. An empty text or indentation is not written at all. -/
def pieces (r : Rendered) : List Bytes :=
  ((Markup.documentWrites r.document).map Text.encode).filter (!·.isEmpty)

end Rendered

def style : String :=
  "body \x7b font-family: sans-serif; margin: 2em auto; max-width: 60em; \x7d\n" ++
  "header .subtitle \x7b color: #555; \x7d\n" ++
  "article \x7b border-top: 1px solid #ccc; padding: 0.5em 0; \x7d\n" ++
  ".context \x7b color: #777; margin: 0; \x7d\n" ++
  "dl.group \x7b margin: 0; \x7d\n" ++
  "dt \x7b font-weight: bold; \x7d\n" ++
  "nav.index li.other, article.other .category \x7b color: #665; \x7d\n" ++
  "nav.index li.hidden, article.hidden .category \x7b color: #888; \x7d\n" ++
  "nav.index li.unexpected, article.unexpected .category \x7b color: #a33; \x7d\n" ++
  "table \x7b border-collapse: collapse; \x7d\n" ++
  "td, th \x7b border: 1px solid #ddd; padding: 0.2em 0.5em; text-align: left; \x7d\n" ++
  "footer \x7b color: #777; font-size: small; margin-top: 2em; \x7d\n"

namespace Context

variable (c : Context)

def head : Node :=
  .block ⟨"head", []⟩
    [.void ⟨"meta", [("charset", "utf-8")]⟩, .plain "title" c.title,
     .verbatim ⟨"style", []⟩ style]

def header : Node :=
  .block ⟨"header", []⟩
    (.plain "h1" c.title :: c.spec.subtitle.toList.map (.classed "p" "subtitle"))

def footer : List Node :=
  c.options.timestamp.toList.map fun t =>
    .block ⟨"footer", []⟩ [.plain "p" ("Generated " ++ t.toMinute)]

def sections : Noted (List Node) :=
  .join [
    if c.spec.visibility.records then c.recordsSection.map ([·]) else .silent [],
    if c.spec.visibility.properties then c.propertiesSection.map ([·]) else .silent []]

/-- The properties that the specification does not refer to, as findings. -/
def unreferenced : List Warning := (c.spec.unused c.table).map .unreferenced

/-- The report. Each finding is given once, where it was first met. -/
def render : Rendered :=
  let sections := c.sections
  ⟨.block ⟨"html", [("lang", "en")]⟩
      [c.head,
       .block ⟨"body", []⟩ ([c.header, .block ⟨"main", []⟩ sections.value] ++ c.footer)],
    firsts (c.unreferenced ++ sections.warnings)⟩

end Context

def render (table : Table) (spec : Spec) (options : Options) : Except Error Rendered :=
  (Context.of table spec options).map Context.render

/-- What comes of writing a report to a place with limited room. -/
def renderTo (limit : Option Nat) (table : Table) (spec : Spec) (options : Options) :
    Delivery × Except Error (List Warning) :=
  match render table spec options with
  | .error e => (⟨[], true⟩, .error e)
  | .ok report =>
    let delivery := Delivery.within limit report.pieces
    (delivery, if delivery.complete then .ok report.warnings else .error .noRoom)

end RecordReport.Report
