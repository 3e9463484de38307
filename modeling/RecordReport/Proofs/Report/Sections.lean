import RecordReport.Proofs.Markup.Printing
import RecordReport.Proofs.Report.Listing
import RecordReport.Proofs.Report.Warnings

/-!
# What the options of a section change

A report with another choice for one of its sections is the same text outside this section.
-/

namespace RecordReport.Report

open Node (named identified Frame enclose lineStart)

namespace Rendered

variable (report other : Rendered)

/-- One element of the document has the identity. It is given with the texts before and after it. -/
structure Holds (id : String) (part : Node) (before after : String) : Prop where
  parts : report.parts id [] = [part]
  once : report.document.ids.count id = 1
  html : report.html = before ++ part.textAt 3 ++ after

/-- The same text stands around the elements with the identity. -/
def SameAround (id : String) : Prop :=
  ∃ before after part changed, report.Holds id part before after ∧ other.Holds id changed before after

/-- The second report has a list in a section of the first, which has none there, and is otherwise the
same text. -/
def GainsList (id className : String) : Prop :=
  ∃ before after part longer list upper lower,
    report.Holds id part before after ∧ other.Holds id longer before after ∧
      report.parts id [named "nav"] = [] ∧ other.parts id [named "nav"] = [list] ∧
      list.tag = ⟨"nav", [("class", className)]⟩ ∧ part.textAt 3 = upper ++ lower ∧
      longer.textAt 3 = upper ++ (lineStart 4 ++ list.textAt 4) ++ lower

variable {report other}

theorem Holds.parts_eq {id before after : String} {part : Node} (h : report.Holds id part before after)
    (path : List (Tag → Bool)) : report.parts id path = part.select path := by
  have hpart : report.document.select [named "body", named "main", identified id] = [part] := h.parts
  rw [Rendered.parts, Node.select_append, hpart]
  exact List.flatMap_singleton _ _

/-- The parts of the two sections differ by the list after the title. -/
theorem GainsList.of_holds {id className title before after : String} {t : Tag} {list : Node}
    {articles : List Node} (hlist : list.tag = ⟨"nav", [("class", className)]⟩)
    (harticles : ∀ article ∈ articles, article.tag.name = "article")
    (hwithout : report.Holds id (.block t (.plain "h2" title :: articles)) before after)
    (hwith : other.Holds id (.block t (.plain "h2" title :: list :: articles)) before after) :
    report.GainsList other id className := by
  have hname : list.tag.name = "nav" := congrArg Tag.name hlist
  have hselect (shown : Bool) :
      (Node.block t (.plain "h2" title :: (if shown then [list] else []) ++ articles)).select
        [named "nav"] = if shown then [list] else [] := select_section_nav hname harticles []
  obtain ⟨upper, lower, hpart, hlonger⟩ :=
    Node.exists_textAt_insert 3 t [.plain "h2" title] articles
  refine ⟨_, _, _, _, list, upper, lower, hwithout, hwith, ?_, ?_, hlist, hpart, hlonger list⟩
  · rw [hwithout.parts_eq]
    exact hselect false
  · rw [hwith.parts_eq]
    exact hselect true

end Rendered

namespace Context

variable (c : Context)

/-! ## The elements around a section -/

def around (before after : List Node) : List Frame :=
  [⟨⟨"html", [("lang", "en")]⟩, [c.head], []⟩, ⟨⟨"body", []⟩, [c.header], c.footer⟩,
    ⟨⟨"main", []⟩, before, after⟩]

theorem html_render {before after : List Node} {part : Node}
    (h : c.sections.value = before ++ part :: after) :
    c.render.html = Markup.documentBefore (c.around before after) ++ part.textAt 3 ++
      Node.textAfter 0 (c.around before after) := by
  have hdocument : c.render.document = enclose (c.around before after) part := by
    simp [render, around, enclose, h]
  rw [Rendered.html, hdocument, Markup.documentText_enclose]
  rfl

/-- The records and the summaries have identities with numbers, so none of them is that of a section. -/
theorem count_ids_render {word : String} (hword : word.toList.tail.all Char.isDigit = false) :
    c.render.document.ids.count word =
      (if c.spec.visibility.records ∧ "records" = word then 1 else 0) +
        if c.spec.visibility.properties ∧ "properties" = word then 1 else 0 := by
  have hrecords : (c.records.map Record.anchor).count word = 0 :=
    List.count_eq_zero.mpr (Numbered.not_mem_map Record.numbered_anchor hword _)
  have hproperties : (c.summaries.map fun s => c.table.columnAnchor s.property).count word = 0 :=
    List.count_eq_zero.mpr
      (Numbered.not_mem_map (fun s : Summary => c.table.numbered_columnAnchor s.property) hword _)
  rw [ids_render, List.count_append]
  congr 1
  · cases c.spec.visibility.records <;> simp [List.count_cons, hrecords]
  · cases c.spec.visibility.properties <;> simp [List.count_cons, hproperties]

/-- What stands in the document before the records section and after it. -/
theorem holds_records (h : c.spec.visibility.records = true) :
    let frames := c.around [] (if c.spec.visibility.properties then [c.propertiesSection.value] else [])
    c.render.Holds "records" c.recordsSection.value (Markup.documentBefore frames)
      (Node.textAfter 0 frames) := by
  intro frames
  refine ⟨?_, ?_, c.html_render ?_⟩
  · rw [parts_records, if_pos h]
    rfl
  · simp +decide [count_ids_render, h]
  · rw [sections_value, if_pos h]
    rfl

theorem holds_properties (h : c.spec.visibility.properties = true) :
    let frames := c.around (if c.spec.visibility.records then [c.recordsSection.value] else []) []
    c.render.Holds "properties" c.propertiesSection.value (Markup.documentBefore frames)
      (Node.textAfter 0 frames) := by
  intro frames
  refine ⟨?_, ?_, c.html_render ?_⟩
  · rw [parts_properties, if_pos h]
    rfl
  · simp +decide [count_ids_render, h]
  · rw [sections_value, if_pos h]

/-! ## Other choices -/

def withSummaries (excludeOther includeHidden : Bool) : Context :=
  { c with options := { c.options with excludeOther, includeHidden } }

def withVisibility (v : Visibility) : Context :=
  { c with spec := { c.spec with visibility := v }, fits := c.fits }

theorem sameAround_withSummaries (h : c.spec.visibility.properties = true)
    (excludeOther includeHidden : Bool) :
    c.render.SameAround (c.withSummaries excludeOther includeHidden).render "properties" := by
  have hother := (c.withSummaries excludeOther includeHidden).holds_properties h
  exact ⟨_, _, _, _, c.holds_properties h, hother⟩

theorem render_withSummaries (h : c.spec.visibility.properties = false)
    (excludeOther includeHidden : Bool) :
    (c.withSummaries excludeOther includeHidden).render = c.render := by
  have hsections : (c.withSummaries excludeOther includeHidden).sections = c.sections := by
    have h' : (c.withSummaries excludeOther includeHidden).spec.visibility.properties = false := h
    rw [sections, sections, h, h']
    rfl
  rw [render, render, hsections]
  rfl

section Visibility

variable {v w : Visibility} (hrecords : v.records = w.records) (hproperties : v.properties = w.properties)

include hrecords hproperties

/-- The findings depend on the sections and not on their lists. -/
theorem warnings_withVisibility :
    (c.withVisibility v).render.warnings = (c.withVisibility w).render.warnings := by
  have hmisses : (c.withVisibility v).misses = (c.withVisibility w).misses := by
    simp only [misses, withVisibility, hrecords, hproperties]
    rfl
  rw [render, render, warnings_sections, warnings_sections, hmisses]
  rfl

/-- The flag of a list counts only where its section is shown. -/
theorem render_withVisibility (hcontents : v.records = true → v.contents = w.contents)
    (hindex : v.properties = true → v.index = w.index) :
    (c.withVisibility v).render = (c.withVisibility w).render := by
  have hsections : (c.withVisibility v).sections = (c.withVisibility w).sections := by
    obtain ⟨records, contents, properties, index⟩ := v
    obtain ⟨records', contents', properties', index'⟩ := w
    obtain rfl : records = records' := hrecords
    obtain rfl : properties = properties' := hproperties
    -- A section that is left out takes its list with it, and one that is shown has the same list.
    cases records <;> cases properties
    · rfl
    · obtain rfl : index = index' := hindex rfl
      rfl
    · obtain rfl : contents = contents' := hcontents rfl
      rfl
    · obtain rfl : contents = contents' := hcontents rfl
      obtain rfl : index = index' := hindex rfl
      rfl
  rw [render, render, hsections]
  rfl

end Visibility

theorem gainsList_contents {v : Visibility} (h : v.records = true) :
    (c.withVisibility { v with contents := false }).render.GainsList
      (c.withVisibility { v with contents := true }).render "records" "contents" := by
  have hwithout := (c.withVisibility { v with contents := false }).holds_records h
  have hwith := (c.withVisibility { v with contents := true }).holds_records h
  exact .of_holds rfl (c.withVisibility v).name_articles hwithout hwith

theorem gainsList_index {v : Visibility} (h : v.properties = true) :
    (c.withVisibility { v with index := false }).render.GainsList
      (c.withVisibility { v with index := true }).render "properties" "index" := by
  have hwithout := (c.withVisibility { v with index := false }).holds_properties h
  have hwith := (c.withVisibility { v with index := true }).holds_properties h
  exact .of_holds rfl (c.withVisibility v).name_summaryArticles hwithout hwith

end Context

/-- The options for summaries change the properties section and nothing outside it, and the flags for
lists put a list into their sections and change nothing else. Without its section no option has an
effect. -/
theorem render_of_section_options {table : Table} {spec : Spec}
    (hfits : ∀ p ∈ spec.references, p ∈ table.properties) (options : Options) :
    (∀ excludeOther includeHidden, ∃ report other,
      render table spec options = .ok report ∧
      render table spec { options with excludeOther, includeHidden } = .ok other ∧
      if spec.visibility.properties then report.SameAround other "properties"
      else other.html = report.html ∧ other.warnings = report.warnings) ∧
    (∃ report other,
      render table { spec with visibility.contents := false } options = .ok report ∧
      render table { spec with visibility.contents := true } options = .ok other ∧
      other.warnings = report.warnings ∧
      if spec.visibility.records then report.GainsList other "records" "contents"
      else other.html = report.html) ∧
    ∃ report other,
      render table { spec with visibility.index := false } options = .ok report ∧
      render table { spec with visibility.index := true } options = .ok other ∧
      other.warnings = report.warnings ∧
      if spec.visibility.properties then report.GainsList other "properties" "index"
      else other.html = report.html := by
  have hcolumns : ∀ p ∈ spec.references, table.hasProperty p = true := by
    simpa [Table.hasProperty] using hfits
  let c : Context := ⟨table, spec, options, hcolumns⟩
  refine ⟨fun excludeOther includeHidden => ?_, ?_, ?_⟩
  · refine ⟨_, _, c.render_eq_ok, (c.withSummaries excludeOther includeHidden).render_eq_ok, ?_⟩
    split
    · rename_i hvisible
      exact c.sameAround_withSummaries hvisible excludeOther includeHidden
    · rename_i hhidden
      rw [c.render_withSummaries (eq_false_of_ne_true hhidden)]
      exact ⟨rfl, rfl⟩
  · let without := c.withVisibility { spec.visibility with contents := false }
    let listed := c.withVisibility { spec.visibility with contents := true }
    refine ⟨_, _, without.render_eq_ok, listed.render_eq_ok, c.warnings_withVisibility rfl rfl, ?_⟩
    split
    · rename_i hvisible
      exact c.gainsList_contents hvisible
    · rename_i hhidden
      exact congrArg Rendered.html
        (c.render_withVisibility rfl rfl (fun hvisible => absurd hvisible hhidden) fun _ => rfl)
  · let without := c.withVisibility { spec.visibility with index := false }
    let listed := c.withVisibility { spec.visibility with index := true }
    refine ⟨_, _, without.render_eq_ok, listed.render_eq_ok, c.warnings_withVisibility rfl rfl, ?_⟩
    split
    · rename_i hvisible
      exact c.gainsList_index hvisible
    · rename_i hhidden
      exact congrArg Rendered.html
        (c.render_withVisibility rfl rfl (fun _ => rfl) fun hvisible => absurd hvisible hhidden)

/-- A value without an entry is found when the summary of its hidden property is asked for, and the text
around the properties stays. The records are not shown, so that a list of them has no effect. -/
theorem render_of_section_options_hidden :
    let table : Table := ⟨["a", "b"], [⟨1, 2, [("a", "1"), ("b", "x")]⟩]⟩
    let spec : Spec := ⟨none, none, [], ["a"],
      [.other ⟨"a", none, ""⟩, .hidden ⟨"b", some ⟨[("y", "yes")], by decide⟩, ""⟩],
      ⟨false, false, true, false⟩⟩
    (∀ p ∈ spec.references, p ∈ table.properties) ∧
      (∃ report other, render table spec {} = .ok report ∧
        render table spec { excludeOther := true, includeHidden := true } = .ok other ∧
        report.SameAround other "properties" ∧ report.warnings = [] ∧
        other.warnings = [.missingEntry "b" "x"]) ∧
      (∃ report other, render table { spec with visibility.contents := false } {} = .ok report ∧
        render table { spec with visibility.contents := true } {} = .ok other ∧
        other.warnings = report.warnings ∧ other.html = report.html) ∧
      ∃ report other, render table { spec with visibility.index := false } {} = .ok report ∧
        render table { spec with visibility.index := true } {} = .ok other ∧
        other.warnings = report.warnings ∧ report.GainsList other "properties" "index" := by
  intro table spec
  have hfits : ∀ p ∈ spec.references, p ∈ table.properties := by decide
  obtain ⟨hsummaries, hcontents, hindex⟩ := render_of_section_options hfits {}
  obtain ⟨report, other, hreport, hother, hsame⟩ := hsummaries true true
  refine ⟨hfits, ⟨report, other, hreport, hother, hsame, ?_, ?_⟩, hcontents, hindex⟩
  · cases hreport
    decide +kernel
  · cases hother
    decide +kernel

end RecordReport.Report
