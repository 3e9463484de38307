import RecordReport.Proofs.Markup.Selection
import RecordReport.Proofs.Report.Links

/-!
# Lists of records

A report lists its records up to three times: in the contents, as articles and in the table of each
summary. Every list holds all records in the same order and under the same labels.
-/

namespace RecordReport.Report

open Node (named identified)

/-! ## Labels -/

/-- What an article is headed by. -/
structure Head where
  anchor : String
  context : Option String
  heading : String
  deriving DecidableEq, Repr

namespace Head

/-- The last identifier value that is not empty is the heading, and those before it are the context. -/
def of (identifiers : List String) (record : Record) : Head :=
  let values := (identifiers.map record.value).filter (· ≠ "")
  ⟨record.anchor, if 1 < values.length then some (" / ".intercalate values.dropLast) else none,
    values.getLast?.getD "(Untitled)"⟩

@[simp] theorem anchor_of (identifiers : List String) (record : Record) :
    (of identifiers record).anchor = record.anchor := rfl

/-- The heading, after the context if there is one. -/
def label (h : Head) : String :=
  match h.context with
  | none => h.heading
  | some context => context ++ " / " ++ h.heading

end Head

namespace Context

variable (c : Context) (record : Record)

theorem of_identifiers :
    Head.of c.spec.identifiers record = ⟨record.anchor, c.headingContext? record, c.heading record⟩ := by
  have hvalues : (c.spec.identifiers.map record.value).filter (· ≠ "") = c.identifierValues record := rfl
  rw [Head.of, hvalues, headingContext?, heading]
  cases c.identifierValues record with
  | nil => rfl
  | cons value values => cases values <;> simp [separator, untitled]

/-- The values are joined at once or after the last one has been taken off. -/
theorem label_of : (Head.of c.spec.identifiers record).label = c.label record := by
  rw [of_identifiers, Head.label, headingContext?, heading, label]
  rcases List.eq_nil_or_concat (c.identifierValues record) with hnil | ⟨values, last, hconcat⟩
  · rw [hnil]
    rfl
  · rw [hconcat, List.concat_eq_append, List.dropLast_concat, List.getLast?_concat]
    cases values with
    | nil => simp
    | cons value values =>
        have hjoin : separator.intercalate (value :: values ++ [last]) =
            separator.intercalate (value :: values) ++ separator ++ last := by
          rw [String.intercalate_append_of_ne_nil (by simp) (by simp), String.intercalate_singleton]
        exact hjoin.symm

end Context

/-! ## Reading the lists -/

/-- The links and the texts of a part of a document. -/
def linked (node : Node) : List String × List String := (node.links, node.texts)

namespace Rendered

variable (report : Rendered)

/-- The parts of a section of the document. -/
def parts (id : String) (path : List (Tag → Bool)) : List Node :=
  report.document.select ([named "body", named "main", identified id] ++ path)

/-- The entries of the list of contents. -/
def contents : List (List String × List String) :=
  (report.parts "records" [named "nav", named "ol", named "li"]).map linked

/-- The identities, context lines and headings of the articles. -/
def articles : List (Option String × List String × List String) :=
  (report.parts "records" [named "article"]).map fun article =>
    (article.tag.attributes.lookup "id", (article.select [named "p"]).flatMap Node.texts,
      (article.select [named "h3"]).flatMap Node.texts)

/-- The identities of the summaries, with the first cell of each row of their tables. -/
def tables : List (Option String × List (Option (List String × List String))) :=
  (report.parts "properties" [named "article"]).map fun article =>
    (article.tag.attributes.lookup "id",
      (article.select [named "table", named "tbody", named "tr"]).map fun row =>
        (row.select [named "td"]).head?.map linked)

end Rendered

/-! ## The parts of a section -/

section Section

variable {t : Tag} {title : String} {shown : Bool} {nav : Node} {articles : List Node}
  (hnav : nav.tag.name = "nav") (harticles : ∀ article ∈ articles, article.tag.name = "article")

include hnav harticles

theorem select_section_nav (path : List (Tag → Bool)) :
    (Node.block t (.plain "h2" title :: (if shown then [nav] else []) ++ articles)).select
      (named "nav" :: path) = if shown then nav.select path else [] := by
  have hnone : Node.among (named "nav") articles = [] :=
    Node.among_eq_nil fun article harticle => by simp [named, harticles article harticle]
  cases shown <;> simp [named, hnav, hnone]

theorem select_section_articles :
    (Node.block t (.plain "h2" title :: (if shown then [nav] else []) ++ articles)).select
      [named "article"] = articles := by
  have hall : Node.among (named "article") articles = articles :=
    Node.among_eq_self fun article harticle => by simp [named, harticles article harticle]
  have hnode : articles.flatMap (Node.select []) = articles := List.flatMap_singleton' _
  cases shown <;> simp [named, hnav, hall, hnode]

end Section

namespace Context

variable (c : Context)

theorem parts_render (id : String) (path : List (Tag → Bool)) :
    c.render.parts id path =
      (Node.block ⟨"main", []⟩ c.sections.value).select (identified id :: path) := by
  have hfooter : Node.among (named "main") c.footer = [] := by
    cases h : c.options.timestamp <;> simp [footer, h, named]
  simp [Rendered.parts, render, named, head, header, hfooter]

theorem tag_recordsSection : c.recordsSection.value.tag = ⟨"section", [("id", "records")]⟩ := rfl

theorem tag_propertiesSection : c.propertiesSection.value.tag = ⟨"section", [("id", "properties")]⟩ := rfl

theorem parts_records (path : List (Tag → Bool)) : c.render.parts "records" path =
    if c.spec.visibility.records then c.recordsSection.value.select path else [] := by
  rw [parts_render, sections_value]
  split <;> split <;> simp [identified, tag_recordsSection, tag_propertiesSection]

theorem parts_properties (path : List (Tag → Bool)) : c.render.parts "properties" path =
    if c.spec.visibility.properties then c.propertiesSection.value.select path else [] := by
  rw [parts_render, sections_value]
  split <;> split <;> simp [identified, tag_recordsSection, tag_propertiesSection]

/-! ## The three lists -/

theorem name_articles : ∀ article ∈ (c.records.map c.article).map (·.value),
    article.tag.name = "article" := by
  simp [article, Noted.map]

theorem name_summaryArticles : ∀ article ∈ (c.summaries.map c.summaryArticle).map (·.value),
    article.tag.name = "article" := by
  simp [summaryArticle]

theorem contents_render : c.render.contents =
    if c.spec.visibility.records ∧ c.spec.visibility.contents then
      c.records.map fun r => (["#" ++ r.anchor], [c.label r]) else [] := by
  have hentries : (c.contents.select [named "ol", named "li"]).map linked =
      c.records.map fun r => (["#" ++ r.anchor], [c.label r]) := by
    rw [contents, Node.select_only (by rfl), Node.select_map (fun _ => rfl), List.map_map]
    exact List.map_congr_left fun r _ => by simp [linked, Node.links_eq_values]
  rw [Rendered.contents, parts_records, recordsSection, select_section_nav (by rfl) c.name_articles]
  split <;> split <;> simp_all

theorem articles_render : c.render.articles =
    if c.spec.visibility.records then
      c.records.map fun r => (some r.anchor, (c.headingContext? r).toList, [c.heading r]) else [] := by
  have hid (r : Record) : (c.article r).value.tag.attributes.lookup "id" = some r.anchor := rfl
  have hcontext (r : Record) : ((c.article r).value.select [named "p"]).flatMap Node.texts =
      (c.headingContext? r).toList := by
    cases h : c.headingContext? r <;> simp [article, headingNodes, Noted.map, h, named]
  have hheading (r : Record) : ((c.article r).value.select [named "h3"]).flatMap Node.texts =
      [c.heading r] := by
    cases h : c.headingContext? r <;> simp [article, headingNodes, Noted.map, h, named]
  rw [Rendered.articles, parts_records, recordsSection,
    select_section_articles (by rfl) c.name_articles]
  split
  · simp [hid, hcontext, hheading]
  · rfl

/-- The table of a summary is the only one in its article. -/
theorem select_rows (s : Summary) :
    (c.summaryArticle s).value.select [named "table", named "tbody", named "tr"] =
      c.records.map fun r => (c.summaryRow s r).value := by
  have hhead : Node.among (named "table") s.headNodes = [] := by
    have hlegend : Node.among (named "table") (s.enumeration.toList.map Summary.legend) = [] :=
      Node.among_eq_nil (List.forall_mem_map.mpr fun _ _ => rfl)
    rw [Summary.headNodes]
    split <;> split <;> simp [named, hlegend]
  have hrows : (Node.block ⟨"tbody", []⟩ ((c.records.map (c.summaryRow s)).map (·.value))).select
      [named "tr"] = c.records.map fun r => (c.summaryRow s r).value := by
    rw [List.map_map]
    exact Node.select_map (fun _ => rfl) _ _
  simpa [summaryArticle, named, hhead] using hrows

theorem tables_render : c.render.tables =
    if c.spec.visibility.properties then
      c.summaries.map fun s => (some (c.table.columnAnchor s.property), c.records.map fun r =>
        some (if c.spec.visibility.records then ["#" ++ r.anchor] else [], [c.label r])) else [] := by
  have hid : ∀ s ∈ c.summaries, (c.summaryArticle s).value.tag.attributes.lookup "id" =
      some (c.table.columnAnchor s.property) := fun s hs => by
    have hlookup : (c.summaryArticle s).value.tag.attributes.lookup "id" =
        some ((c.propertyAnchor s.property).getD "") := rfl
    rw [hlookup, c.propertyAnchor_of_mem_summaries hs, Option.getD_some]
  have hcell (s : Summary) (r : Record) :
      ((c.summaryRow s r).value.select [named "td"]).head?.map linked =
        some (if c.spec.visibility.records then ["#" ++ r.anchor] else [], [c.label r]) := by
    cases h : c.spec.visibility.records <;>
      simp [summaryRow, Noted.map, recordCell, h, named, linked, Node.links_eq_values]
  rw [Rendered.tables, parts_properties, propertiesSection,
    select_section_articles (by rfl) c.name_summaryArticles]
  split
  · rw [List.map_map, List.map_map]
    refine List.map_congr_left fun s hs => ?_
    simp [hid s hs, select_rows, hcell]
  · rfl

end Context

/-- The contents, the articles and the table of each summary list all records of a loaded table, each of
them once, in the same order and under the same label. The label is the heading of the record's article,
after its context line if it has one. -/
theorem listed_of_render {rows : List Csv.Row} {table : Table} {spec : Spec} {options : Options}
    {report : Rendered} (hload : Table.load rows = .ok table)
    (h : render table spec options = .ok report) :
    let ordered := sortRecords spec.sortKeys table.records
    let heads := ordered.map (Head.of spec.identifiers)
    List.Perm ordered table.records ∧ (heads.map Head.anchor).Nodup ∧
      report.contents = (if spec.visibility.records ∧ spec.visibility.contents then
        heads.map fun h => (["#" ++ h.anchor], [h.label]) else []) ∧
      report.articles = (if spec.visibility.records then
        heads.map fun h => (some h.anchor, h.context.toList, [h.heading]) else []) ∧
      report.tables = if spec.visibility.properties then
        (summariesOf table spec options).map fun s =>
          (some (table.columnAnchor s.property), heads.map fun h =>
            some (if spec.visibility.records then ["#" ++ h.anchor] else [], [h.label])) else [] := by
  intro ordered heads
  obtain ⟨c, hc, rfl⟩ := exists_context_of_render h
  obtain ⟨rfl, rfl, rfl⟩ := Context.of_eq_ok hc
  have hheads {β : Type} (f : Head → β) :
      heads.map f = c.records.map fun r => f (Head.of c.spec.identifiers r) := List.map_map
  have hnodup := c.nodup_anchors (Table.wellFormed_of_load hload)
  refine ⟨c.records_perm, ?_, ?_, ?_, ?_⟩
  · rw [hheads]
    exact hnodup
  · simp only [hheads, c.contents_render, c.label_of, Head.anchor_of]
  · simp only [hheads, c.articles_render, c.of_identifiers]
  · simp only [hheads, c.tables_render, c.label_of, Head.anchor_of, Context.summaries]

/-- Two, one and no identifier values, and a record that is sorted before an earlier one. -/
theorem listed_of_render_untitled :
    let smith : Record := ⟨1, 2, [("dept", "Ops"), ("name", "Smith"), ("x", "")]⟩
    let adams : Record := ⟨2, 3, [("dept", ""), ("name", "Adams"), ("x", "")]⟩
    let nobody : Record := ⟨3, 5, [("dept", ""), ("name", ""), ("x", "1")]⟩
    let rows : List Csv.Row := [⟨1, ["dept", "name", "x"]⟩, ⟨2, ["Ops", "Smith"]⟩, ⟨3, ["", "Adams"]⟩,
      ⟨4, []⟩, ⟨5, ["", "", "1"]⟩]
    let table : Table := ⟨["dept", "name", "x"], [smith, adams, nobody]⟩
    let spec : Spec := ⟨none, none, ["name"], ["dept", "name"], [.scalar ⟨"x", "X", none, ""⟩], .all⟩
    Table.load rows = .ok table ∧ ∃ report, render table spec {} = .ok report ∧
      report.contents = [(["#r2"], ["Adams"]), (["#r1"], ["Ops / Smith"]), (["#r3"], ["(Untitled)"])] ∧
      report.articles = [(some "r2", [], ["Adams"]), (some "r1", ["Ops"], ["Smith"]),
        (some "r3", [], ["(Untitled)"])] := by
  intro smith adams nobody rows table spec
  have hload : Table.load rows = .ok table := by rfl
  obtain ⟨report, h⟩ : ∃ report, render table spec {} = .ok report := ⟨_, by rfl⟩
  have hsort : sortRecords spec.sortKeys table.records = [adams, smith, nobody] := by
    simp +decide [spec, table, smith, adams, nobody, sortRecords, List.mergeSort,
      List.MergeSort.Internal.splitInTwo]
  obtain ⟨-, -, hcontents, harticles, -⟩ := listed_of_render hload h
  rw [hsort] at hcontents harticles
  exact ⟨hload, report, h, hcontents.trans (by decide +kernel), harticles.trans (by decide +kernel)⟩

end RecordReport.Report
