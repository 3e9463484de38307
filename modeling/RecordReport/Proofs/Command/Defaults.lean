import RecordReport.Proofs.Command.Steps
import RecordReport.Proofs.Csv.Decoding
import RecordReport.Proofs.Report.Warnings
import RecordReport.Proofs.Report.Writing
import RecordReport.Proofs.Table.Load
import RecordReport.Proofs.Template.RoundTrip

/-!
# The template of a table

A table gives a specification by itself. Written as a template it is read back, and a report of it has no
findings.
-/

namespace RecordReport

/-! ## Names -/

/-- The names of columns come from cells. -/
theorem Table.isName_of_load {content : Bytes} {rows : List Csv.Row} {table : Table}
    (hrows : rowsOf .skip content = .ok rows) (h : load rows = .ok table)
    (hmarks : ∀ p ∈ table.properties, Text.Ends (· ≠ Text.byteOrderMark) p.toList) :
    ∀ p ∈ table.properties, Text.IsName p := by
  obtain ⟨header, later, rfl, hheader, -, -⟩ := from_of_load h
  obtain ⟨blanks, hfields, -⟩ := hheader.blanks
  intro p hp
  have htrim : Text.trim p = p := by
    refine Csv.trim_of_readRows (eq_ok_of_mapError hrows) header List.mem_cons_self p ?_
    rw [hfields]
    exact List.mem_append_left _ hp
  exact ⟨Text.isTrimmed_iff.mpr ⟨htrim, hmarks p hp⟩, hheader.named p hp⟩

theorem Table.properties_ne_nil_of_load {rows : List Csv.Row} {table : Table}
    (h : load rows = .ok table) : table.properties ≠ [] := by
  obtain ⟨header, later, -, hheader, -, -⟩ := from_of_load h
  exact hheader.ne_nil

/-! ## The specification -/

section Spec

variable {table : Table}

theorem Spec.clean_ofTable (hnames : ∀ p ∈ table.properties, Text.IsName p)
    (hne : table.properties ≠ []) : (ofTable table).Clean where
  title := by simp [ofTable]
  subtitle := by simp [ofTable]
  sortKeys := by simp [ofTable]
  identifiers name hname := hnames name (List.mem_of_mem_take hname)
  items item hitem := by
    obtain ⟨p, hp, rfl⟩ := List.mem_map.mp hitem
    exact ⟨⟨hnames p hp, (hnames p hp).trimmed, .empty, by simp [Scalar.plain]⟩, (hnames p hp).ne_empty⟩
  identified := by simpa [ofTable] using hne
  sortKeys_nodup := List.nodup_nil

/-- A scalar that is labelled by its property can do without the label. -/
theorem not_markedItem_ofTable : ∀ item ∈ (Spec.ofTable table).items, ¬Template.MarkedItem item := by
  intro item hitem
  obtain ⟨p, -, rfl⟩ := List.mem_map.mp hitem
  exact fun h => h.2 rfl

theorem mem_references_ofTable {p : String} :
    p ∈ (Spec.ofTable table).references ↔ p ∈ table.properties := by
  have hitems : (Spec.ofTable table).items.flatMap Item.properties = table.properties := by
    rw [Spec.ofTable, List.flatMap_map]
    exact List.flatMap_singleton' _
  rw [Spec.references, hitems]
  simp only [Spec.ofTable, List.append_nil, List.mem_append, or_iff_left_iff_imp]
  exact List.mem_of_mem_take

end Spec

/-! ## The report -/

namespace Report

/-- Without an enumeration there is no entry to lack. -/
theorem missesAt_none (record : Record) (property : String) : missesAt record property none = [] :=
  if_neg fun h => by simp at h

theorem enumeration_of_mem_scalars {table : Table} {item : Item}
    (hitem : item ∈ (Spec.ofTable table).items) : ∀ s ∈ item.scalars, s.enumeration = none := by
  obtain ⟨p, -, rfl⟩ := List.mem_map.mp hitem
  intro s hs
  rw [List.mem_singleton.mp hs]
  rfl

namespace Context

variable {c : Context}

theorem enumeration_of_mem_summaries (h : c.spec = Spec.ofTable c.table) :
    ∀ s ∈ c.summaries, s.enumeration = none := by
  intro s hs
  rcases List.mem_append.mp hs with hs | hs
  · obtain ⟨item, hitem, hs⟩ := List.mem_flatMap.mp ((firstsBy_sublist Summary.property _).subset hs)
    rw [h] at hitem
    obtain ⟨p, -, rfl⟩ := List.mem_map.mp hitem
    rw [List.mem_singleton.mp hs]
    rfl
  · obtain ⟨p, -, rfl⟩ := List.mem_map.mp hs
    rfl

theorem misses_of_ofTable (h : c.spec = Spec.ofTable c.table) : c.misses = [] := by
  have hrecords : c.missesInRecords = [] := by
    rw [missesInRecords, List.flatMap_eq_nil_iff]
    intro r _
    refine List.flatMap_eq_nil_iff.mpr fun item hitem => List.flatMap_eq_nil_iff.mpr fun s hs => ?_
    rw [h] at hitem
    rw [enumeration_of_mem_scalars hitem s hs, missesAt_none]
  have hproperties : c.missesInProperties = [] := by
    rw [missesInProperties, List.flatMap_eq_nil_iff]
    refine fun s hs => List.flatMap_eq_nil_iff.mpr fun r _ => ?_
    rw [enumeration_of_mem_summaries h s hs, missesAt_none]
  simp [misses, hrecords, hproperties]

theorem warnings_of_ofTable (h : c.spec = Spec.ofTable c.table) : c.render.warnings = [] := by
  have hunused : c.spec.unused c.table = [] := by
    rw [Spec.unused, List.filter_eq_nil_iff, h]
    intro p hp
    simpa [Spec.mentions] using mem_references_ofTable.mpr hp
  rw [render, warnings_sections, misses_of_ofTable h, unreferenced, hunused]
  rfl

end Context

/-- A table always has a report without a template. -/
theorem exists_render_ofTable (table : Table) (options : Options) :
    ∃ report, render table (Spec.ofTable table) options = .ok report ∧ report.warnings = [] := by
  have hfits : (Spec.ofTable table).references.find? (fun p => !table.hasProperty p) = none := by
    rw [List.find?_eq_none]
    intro p hp
    simpa [Table.hasProperty] using mem_references_ofTable.mp hp
  obtain ⟨c, hc⟩ := Context.exists_of_eq_ok options hfits
  obtain ⟨htable, hspec, -⟩ := Context.of_eq_ok hc
  refine ⟨c.render, by rw [render, hc]; rfl, Context.warnings_of_ofTable ?_⟩
  rw [hspec, htable]

end Report

/-! ## Commands -/

namespace Command

/-- The template that is printed for a table is as good as none: it is read as the specification that the
table gives by itself, and every report of it is the one without a template, which has no findings. Only a
byte order mark at the end of a name would not survive. -/
theorem export_of_loaded {content : Bytes} {rows : List Csv.Row} {table : Table}
    (hrows : rowsOf .skip content = .ok rows) (hload : Table.load rows = .ok table)
    (hmarks : ∀ p ∈ table.properties, Text.Ends (· ≠ Text.byteOrderMark) p.toList) :
    ∃ text, Template.exportText (Spec.ofTable table) = .ok text ∧
      Template.exportTo none (Spec.ofTable table) = (⟨Text.encode text, true⟩, .ok ()) ∧
      Template.parseText text = .ok (Spec.ofTable table) ∧
      (∀ options, ∃ report, Report.render table (Spec.ofTable table) options = .ok report ∧
        report.warnings = []) ∧
      ∀ (disk : Disk) (r : RenderRequest) (template : String) (now : Timestamp),
        disk.read r.data = .ok content → disk.read template = .ok (Text.encode text) →
          templateAt disk r.data = .ok text ∧
          ∃ report, reportAt disk now { r with template := some template } = .ok report ∧
            reportAt disk now { r with template := none } = .ok report ∧ report.warnings = [] := by
  have hmarked : ∀ item ∈ (Spec.ofTable table).items, ¬Template.MarkedItem item := not_markedItem_ofTable
  have hclean := Spec.clean_ofTable (Table.isName_of_load hrows hload hmarks)
    (Table.properties_ne_nil_of_load hload)
  have hexport := Template.exportText_of_not_marked hmarked
  have hparse := Template.parseText_rowsOfSpec hclean hmarked
  refine ⟨_, hexport, Template.exportTo_of_not_marked hmarked, hparse,
    Report.exists_render_ofTable table, ?_⟩
  intro disk r template now hdata htemplate
  have htable : tableAt disk r.data = .ok table := by
    rw [tableAt_of_read hdata, hrows]
    exact hload
  have hspec : Template.specAt disk template = .ok (Spec.ofTable table) := by
    rw [specAt_of_read htemplate]
    exact hparse
  obtain ⟨report, hreport, hwarnings⟩ := Report.exists_render_ofTable table (r.options now)
  refine ⟨?_, report, ?_, ?_, hwarnings⟩
  · rw [templateAt, htable]
    exact congrArg (Except.mapError Failure.export) hexport
  · simp only [reportAt, inputsAt, htable, hspec]
    exact congrArg (Except.mapError (Failure.render r.data)) hreport
  · simp only [reportAt, inputsAt, htable]
    exact congrArg (Except.mapError (Failure.render r.data)) hreport

/-- Names that look like a command and a comment, and ones with a comma, quotes and a line break. -/
theorem export_of_loaded_names :
    let content := Text.encode "_x,#y,\"c,d\",\"e\"\"f\",\"g\nh\"\n1,2,3\n"
    let table : Table := ⟨["_x", "#y", "c,d", "e\"f", "g\nh"],
      [⟨1, 3, [("_x", "1"), ("#y", "2"), ("c,d", "3"), ("e\"f", ""), ("g\nh", "")]⟩]⟩
    let template := "Label,Property,Enumeration,Notes\n_IDENTIFIER,_x,,\n,_x,,\n,#y,,\n" ++
      "\"c,d\",\"c,d\",,\n\"e\"\"f\",\"e\"\"f\",,\n\"g\nh\",\"g\nh\",,\n"
    (rowsOf .skip content >>= Table.load) = .ok table ∧
      Template.exportText (Spec.ofTable table) = .ok template ∧
      Template.parseText template = .ok (Spec.ofTable table) ∧
      ∃ report, Report.render table (Spec.ofTable table) {} = .ok report ∧ report.warnings = [] := by
  intro content table template
  obtain ⟨rows, hrows, hload⟩ : ∃ rows, rowsOf .skip content = .ok rows ∧ Table.load rows = .ok table :=
    ⟨_, rfl, rfl⟩
  obtain ⟨text, hexport, -, hparse, hrender, -⟩ := export_of_loaded hrows hload (by decide)
  obtain rfl : text = template := Except.ok.inj (hexport.symm.trans rfl)
  exact ⟨by rw [hrows]; exact hload, hexport, hparse, hrender {}⟩

end Command
end RecordReport
