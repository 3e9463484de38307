import RecordReport.Proofs.Distinct
import RecordReport.Proofs.Table.Load
import RecordReport.Report.Render

/-!
# What a report is made from

A report has a context that holds what was asked for. It summarises no property twice and none that the
table does not have.
-/

namespace RecordReport

/-- The letter of properties with the number of the property's column. -/
def Table.columnAnchor (table : Table) (property : String) : String :=
  s!"p{table.properties.idxOf property}"

namespace Report

/-! ## Contexts -/

theorem Context.of_eq_ok {table : Table} {spec : Spec} {options : Options} {c : Context}
    (h : Context.of table spec options = .ok c) :
    c.table = table ∧ c.spec = spec ∧ c.options = options := by
  unfold Context.of at h
  split at h
  · cases h
  · cases h
    exact ⟨rfl, rfl, rfl⟩

theorem exists_context_of_render {table : Table} {spec : Spec} {options : Options}
    {report : Rendered} (h : render table spec options = .ok report) :
    ∃ c, Context.of table spec options = .ok c ∧ report = c.render := by
  rw [render] at h
  obtain ⟨c, hc, h⟩ := exists_of_bind_eq_ok h
  cases h
  exact ⟨c, hc, rfl⟩

theorem Context.render_eq_ok (c : Context) : Report.render c.table c.spec c.options = .ok c.render := by
  have hof : of c.table c.spec c.options = .ok c := by
    have hfits := c.fits
    unfold of
    split
    · rename_i p hp
      have hp' := List.find?_some hp
      simp [hfits p (List.mem_of_find?_eq_some hp)] at hp'
    · rfl
  rw [Report.render, hof]
  rfl

/-- A specification that refers to columns only has a report. -/
theorem exists_context_of_fits {table : Table} {spec : Spec} (options : Options)
    (hfits : ∀ p ∈ spec.references, p ∈ table.properties) :
    ∃ c : Context, c.table = table ∧ c.spec = spec ∧ c.options = options ∧
      render table spec options = .ok c.render := by
  have hcolumns : ∀ p ∈ spec.references, table.hasProperty p = true := by
    simpa [Table.hasProperty] using hfits
  let c : Context := ⟨table, spec, options, hcolumns⟩
  exact ⟨c, rfl, rfl, rfl, c.render_eq_ok⟩

/-! ## Summaries -/

theorem property_of_mem_ofItem {options : Options} {item : Item} {s : Summary}
    (h : s ∈ Summary.ofItem options item) : s.property ∈ item.properties := by
  cases item with
  | scalar _ =>
      rw [List.mem_singleton.mp h]
      exact List.mem_singleton_self _
  | group g =>
      obtain ⟨m, hm, rfl⟩ := List.mem_map.mp h
      exact List.mem_map_of_mem hm
  | other _ =>
      rw [Summary.ofItem] at h
      split at h
      · cases h
      · rw [List.mem_singleton.mp h]
        exact List.mem_singleton_self _
  | hidden _ =>
      rw [Summary.ofItem] at h
      split at h
      · rw [List.mem_singleton.mp h]
        exact List.mem_singleton_self _
      · cases h

namespace Context

variable (c : Context)

theorem sections_value : c.sections.value =
    (if c.spec.visibility.records then [c.recordsSection.value] else []) ++
      if c.spec.visibility.properties then [c.propertiesSection.value] else [] := by
  cases hr : c.spec.visibility.records <;> cases hp : c.spec.visibility.properties <;>
    simp [sections, Noted.join, Noted.map, Noted.silent, hr, hp]

theorem records_perm : List.Perm c.records c.table.records := List.mergeSort_perm _ _

theorem mem_references_of_firstsBy {s : Summary}
    (h : s ∈ firstsBy Summary.property (c.spec.items.flatMap (Summary.ofItem c.options))) :
    s.property ∈ c.spec.references := by
  obtain ⟨item, hitem, hs⟩ := List.mem_flatMap.mp ((firstsBy_sublist _ _).subset h)
  have hproperty := List.mem_flatMap.mpr ⟨item, hitem, property_of_mem_ofItem hs⟩
  exact List.mem_append_left _ (List.mem_append_left _ hproperty)

theorem mem_unused {p : String} :
    p ∈ c.spec.unused c.table ↔ p ∈ c.table.properties ∧ p ∉ c.spec.references := by
  simp [Spec.unused, Spec.mentions]

theorem property_mem_table {s : Summary} (h : s ∈ c.summaries) :
    s.property ∈ c.table.properties := by
  rcases List.mem_append.mp h with h | h
  · simpa [Table.hasProperty] using c.fits _ (c.mem_references_of_firstsBy h)
  · obtain ⟨p, hp, rfl⟩ := List.mem_map.mp h
    exact (c.mem_unused.mp hp).1

/-- A property in the data has its anchor, whatever the specification says of it. -/
theorem propertyAnchor_of_mem {property : String} (h : property ∈ c.table.properties) :
    c.propertyAnchor property = some (c.table.columnAnchor property) := by
  have hindex : c.table.propertyIndex? property = some (c.table.properties.idxOf property) :=
    List.findIdx?_eq_some_iff_findIdx_eq.mpr ⟨List.idxOf_lt_length_of_mem h, rfl⟩
  rw [propertyAnchor, hindex]
  rfl

theorem propertyAnchor_of_mem_summaries {s : Summary} (h : s ∈ c.summaries) :
    c.propertyAnchor s.property = some (c.table.columnAnchor s.property) :=
  c.propertyAnchor_of_mem (c.property_mem_table h)

/-- The specification mentions a property in any number of items; it is summarised once. -/
theorem nodup_summaries (h : c.table.WellFormed) : (c.summaries.map Summary.property).Nodup := by
  have hunused : ((c.spec.unused c.table).map Summary.unexpected).map Summary.property =
      c.spec.unused c.table := by
    rw [List.map_map]
    exact List.map_id _
  rw [summaries, summariesOf, List.map_append, hunused, List.nodup_append]
  refine ⟨nodup_map_firstsBy _ _, h.properties_nodup.filter _, ?_⟩
  rintro _ hp q hq rfl
  obtain ⟨s, hs, rfl⟩ := List.mem_map.mp hp
  exact (c.mem_unused.mp hq).2 (c.mem_references_of_firstsBy hs)

end Context
end Report
end RecordReport
