import RecordReport.Proofs.Markup.Reading
import RecordReport.Proofs.Report.Context

/-!
# The structure of a report

Texts of a table and a specification become texts between tags and never anything else.
-/

namespace RecordReport

/-! ## Elements with plain names -/

@[simp] theorem Tag.plain_iff {name : String} {attributes : List (String × String)} :
    Tag.Plain ⟨name, attributes⟩ ↔
      Markup.PlainName name ∧ ∀ a ∈ attributes, Markup.PlainName a.1 :=
  ⟨fun h => ⟨h.name, h.attributes⟩, fun h => ⟨h.1, h.2⟩⟩

namespace Node

def AllPlain (nodes : List Node) : Prop := ∀ node ∈ nodes, node.Plain

@[simp] theorem allPlain_nil : AllPlain [] := by simp [AllPlain]

@[simp] theorem allPlain_cons {node : Node} {nodes : List Node} :
    AllPlain (node :: nodes) ↔ node.Plain ∧ AllPlain nodes := List.forall_mem_cons

@[simp] theorem allPlain_append {nodes others : List Node} :
    AllPlain (nodes ++ others) ↔ AllPlain nodes ∧ AllPlain others := List.forall_mem_append

@[simp] theorem allPlain_map {α : Type} {f : α → Node} {xs : List α} :
    AllPlain (xs.map f) ↔ ∀ x ∈ xs, (f x).Plain := List.forall_mem_map

@[simp] theorem allPlain_flatMap {α : Type} {f : α → List Node} {xs : List α} :
    AllPlain (xs.flatMap f) ↔ ∀ x ∈ xs, AllPlain (f x) := List.forall_mem_flatMap

@[simp] theorem plain_block {t : Tag} {children : List Node} :
    (block t children).Plain ↔ t.Plain ∧ AllPlain children := by
  constructor
  · rintro (_ | _ | _ | ⟨ht, h⟩)
    exact ⟨ht, h⟩
  · rintro ⟨ht, h⟩
    exact .block ht h

@[simp] theorem plain_text {t : Tag} {content : String} : (text t content).Plain ↔ t.Plain := by
  constructor
  · rintro (⟨_, ht⟩ | _ | _ | _)
    exact ht
  · exact .text content

@[simp] theorem plain_void {t : Tag} : (void t).Plain ↔ t.Plain := by
  constructor
  · rintro (_ | _ | ht | _)
    exact ht
  · exact .void

end Node

open Node

namespace Report

/-! ## Articles -/

theorem allPlain_scalarEntry (record : Record) (s : Scalar) :
    AllPlain (scalarEntry record s).value := by
  rw [scalarEntry]
  split
  · exact allPlain_nil
  · simp +decide [Noted.map, plain]

theorem allPlain_groupEntry (record : Record) (g : Group) :
    AllPlain (groupEntry record g).value := by
  rw [groupEntry]
  split
  · simp +decide [Noted.map, Noted.join, classed, allPlain_scalarEntry, List.flatMap_map]
  · exact allPlain_nil

theorem allPlain_itemEntry (record : Record) (item : Item) :
    AllPlain (itemEntry record item).value := by
  cases item with
  | scalar s => exact allPlain_scalarEntry record s
  | group g => exact allPlain_groupEntry record g
  | other _ | hidden _ => exact allPlain_nil

namespace Context

variable (c : Context)

theorem plain_article (record : Record) : (c.article record).value.Plain := by
  simp +decide [article, headingNodes, Noted.map, Noted.join, plain, classed, allPlain_itemEntry,
    List.flatMap_map]

theorem plain_contents : c.contents.Plain := by
  simp +decide [contents, link]

/-- A section has a heading, a list, if it is shown, and articles. -/
theorem plain_section {id title : String} {shown : Bool} {nav : Node} {articles : List Node}
    (hnav : nav.Plain) (harticles : AllPlain articles) :
    (Node.block ⟨"section", [("id", id)]⟩
      (.plain "h2" title :: (if shown then [nav] else []) ++ articles)).Plain := by
  cases shown <;> simp +decide [plain, hnav, harticles]

theorem plain_recordsSection : c.recordsSection.value.Plain :=
  plain_section c.plain_contents (by simp [plain_article])

/-! ## Summaries -/

end Context

theorem Summary.allPlain_headNodes (s : Summary) : AllPlain s.headNodes := by
  cases s.enumeration <;> rw [headNodes] <;> split <;> split <;> simp +decide [legend, plain, classed]

namespace Context

variable (c : Context)

theorem plain_recordCell (record : Record) : (c.recordCell record).Plain := by
  rw [recordCell]
  split <;> simp +decide [plain, link]

theorem plain_summaryArticle (s : Summary) : (c.summaryArticle s).value.Plain := by
  simp +decide [summaryArticle, summaryRow, Noted.map, plain, Summary.allPlain_headNodes,
    plain_recordCell]

theorem plain_index : c.index.Plain := by
  simp +decide [index, link]

theorem plain_propertiesSection : c.propertiesSection.value.Plain :=
  plain_section c.plain_index (by simp [plain_summaryArticle])

/-! ## Documents -/

theorem forall_mem_toList {p : Char → Prop} [DecidablePred p] {s : String} {cs : List Char}
    (hs : s = String.ofList cs) (h : cs.all p) : ∀ c ∈ s.toList, p c := by
  subst hs
  simpa using h

theorem plain_style : (Node.verbatim ⟨"style", []⟩ style).Plain := by
  refine .verbatim (by simp +decide) ?_
  delta style
  simp only [String.toList_append, List.forall_mem_append]
  and_intros <;> exact forall_mem_toList rfl rfl

theorem plain_head : c.head.Plain := by
  simp +decide [head, plain, plain_style]

theorem allPlain_sections : AllPlain c.sections.value := by
  rw [c.sections_value]
  split <;> split <;> simp [plain_recordsSection, plain_propertiesSection]

/-- Whatever the texts are, the tags of a report have plain names. -/
theorem plain_render : c.render.document.Plain := by
  simp +decide [render, header, footer, plain, classed, plain_head, allPlain_sections]

end Context

/-! ## Reports -/

theorem marks_of_shows {cuts : List Markup.Cut} {steps : List Markup.Step}
    (h : List.Forall₂ Markup.Cut.Shows cuts steps) :
    cuts.mapM (fun cut => Markup.mark? cut.inside) = some (steps.map Markup.Step.mark) :=
  Markup.mapM_eq_some (List.forall₂_map_right_iff.mpr (h.imp fun _ _ hshows => hshows.mark))

/-- Cut at its brackets, a report shows the tags that were passed on to be written, opened and closed in
turn, whatever its texts are, and between them the texts. -/
theorem cut_of_render {table : Table} {spec : Spec} {options : Options} {report : Rendered}
    (h : render table spec options = .ok report) :
    ∃ cuts marks, Markup.cut? report.html = some cuts ∧
      cuts.mapM (fun cut => Markup.mark? cut.inside) = some marks ∧
      marks = (Markup.documentEvents report.document).filterMap Markup.Event.mark? ∧
      Markup.Closed marks ∧
      List.Forall₂ Markup.Cut.Shows cuts
        (Markup.stepsFrom none (Markup.documentEvents report.document)) := by
  obtain ⟨c, -, rfl⟩ := exists_context_of_render h
  obtain ⟨cuts, hcut, hshows⟩ := Markup.exists_cut?_documentText c.plain_render
  have hmarks := marks_of_shows hshows
  rw [Markup.map_mark_stepsFrom] at hmarks
  exact ⟨cuts, _, hcut, hmarks, rfl, (Markup.balanced_documentEvents c.render.document).closed, hshows⟩

/-- Names, labels, notes and values that look like markup. -/
theorem cut_of_render_markup :
    let table : Table := ⟨["<a>", "b&c"], [⟨1, 2, [("<a>", "</td>"), ("b&c", "&lt;\n  <br/>")]⟩]⟩
    let spec : Spec := ⟨some "</title>", some "\"it's\"", [], ["<a>"],
      [.scalar ⟨"<a>", "-->", some ⟨[("</td>", "]]>")], by decide⟩, " x=\"1\" "⟩,
        .group ⟨"<!--", [⟨"b&c", "", none, "&#10;"⟩]⟩], .all⟩
    ∃ report, render table spec {} = .ok report ∧
      ∃ cuts marks, Markup.cut? report.html = some cuts ∧
        cuts.mapM (fun cut => Markup.mark? cut.inside) = some marks ∧
        marks = (Markup.documentEvents report.document).filterMap Markup.Event.mark? ∧
        Markup.Closed marks ∧
        List.Forall₂ Markup.Cut.Shows cuts
          (Markup.stepsFrom none (Markup.documentEvents report.document)) := by
  intro table spec
  obtain ⟨report, h⟩ : ∃ report, render table spec {} = .ok report := ⟨_, by rfl⟩
  exact ⟨report, h, cut_of_render h⟩

end Report
end RecordReport
