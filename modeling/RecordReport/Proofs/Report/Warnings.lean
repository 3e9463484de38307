import RecordReport.Proofs.Report.Context

/-!
# Findings of a report

The findings that come with a report are read off the table and the specification: the properties that
are not referred to, and the values without an entry in the order in which they are shown.
-/

namespace RecordReport

/-- The scalars that articles show for an item. -/
def Item.scalars : Item → List Scalar
  | .scalar s => [s]
  | .group g => g.members
  | .other _ | .hidden _ => []

/-- No entry has the value as its key. -/
def Enumeration.Lacks (e : Enumeration) (raw : String) : Prop := ∀ entry ∈ e.entries, entry.1 ≠ raw

instance (e : Enumeration) (raw : String) : Decidable (e.Lacks raw) :=
  inferInstanceAs (Decidable (∀ entry ∈ e.entries, entry.1 ≠ raw))

theorem Enumeration.get?_eq_none_iff {e : Enumeration} {raw : String} :
    e.get? raw = none ↔ e.Lacks raw := by
  rw [get?, List.lookup_eq_none_iff]
  exact forall₂_congr fun entry _ => by rw [bne_iff_ne, ne_comm]

namespace Report

/-! ## Values without an entry -/

/-- The finding for a record's value, if it is not empty and an enumeration has no entry for it. -/
def missesAt (record : Record) (property : String) (e : Option Enumeration) : List Warning :=
  if record.value property ≠ "" ∧ ∃ e' ∈ e, e'.Lacks (record.value property) then
    [.missingEntry property (record.value property)]
  else []

namespace Context

/-- The findings in the articles, record by record. -/
def missesInRecords (c : Context) : List Warning :=
  c.records.flatMap fun r => c.spec.items.flatMap fun item =>
    item.scalars.flatMap fun s => missesAt r s.property s.enumeration

/-- The findings in the summaries, one summary after the other. -/
def missesInProperties (c : Context) : List Warning :=
  c.summaries.flatMap fun s => c.records.flatMap fun r => missesAt r s.property s.enumeration

/-- All values without an entry where they are shown. They may repeat. -/
def misses (c : Context) : List Warning :=
  (if c.spec.visibility.records then c.missesInRecords else []) ++
    if c.spec.visibility.properties then c.missesInProperties else []

end Context

theorem missesAt_of_value_eq {record : Record} {property : String} (h : record.value property = "")
    (e : Option Enumeration) : missesAt record property e = [] :=
  if_neg fun hmiss => hmiss.1 h

theorem warnings_shown (record : Record) (property : String) (e : Option Enumeration) :
    (shown property (record.value property) e).warnings = missesAt record property e := by
  cases e with
  | none => simp [shown, missesAt, Noted.silent]
  | some e =>
      by_cases hraw : record.value property = ""
      · rw [missesAt_of_value_eq hraw]
        simp [shown, hraw, Noted.silent]
      · cases hget : e.get? (record.value property) with
        | some label =>
            have hentry : ¬e.Lacks (record.value property) := by
              rw [← Enumeration.get?_eq_none_iff, hget]
              simp
            simp [shown, missesAt, hraw, hget, hentry, Noted.silent]
        | none =>
            have hentry := Enumeration.get?_eq_none_iff.mp hget
            simp [shown, missesAt, hraw, hget, hentry]

/-! ## Articles -/

theorem warnings_scalarEntry (record : Record) (s : Scalar) :
    (scalarEntry record s).warnings = missesAt record s.property s.enumeration := by
  rw [scalarEntry]
  split
  · rename_i hraw
    rw [missesAt_of_value_eq hraw]
    rfl
  · exact warnings_shown record s.property s.enumeration

/-- A group is left out only if it has no value, and so nothing to find. -/
theorem warnings_groupEntry (record : Record) (g : Group) :
    (groupEntry record g).warnings =
      g.members.flatMap fun m => missesAt record m.property m.enumeration := by
  rw [groupEntry]
  split
  · simp [Noted.map, Noted.join, List.flatMap_map, warnings_scalarEntry]
  · rename_i hany
    have hnone : ∀ m ∈ g.members, missesAt record m.property m.enumeration = [] := fun m hm => by
      refine missesAt_of_value_eq ?_ m.enumeration
      by_contra hvalue
      exact hany (List.any_eq_true.mpr ⟨m, hm, by simpa [Record.hasValue] using hvalue⟩)
    rw [List.flatMap_eq_nil_iff.mpr hnone]
    rfl

theorem warnings_itemEntry (record : Record) (item : Item) :
    (itemEntry record item).warnings =
      item.scalars.flatMap fun s => missesAt record s.property s.enumeration := by
  cases item with
  | scalar s =>
      rw [itemEntry, warnings_scalarEntry]
      exact (List.flatMap_singleton _ _).symm
  | group g => exact warnings_groupEntry record g
  | other _ | hidden _ => rfl

namespace Context

variable (c : Context)

theorem warnings_recordsSection : c.recordsSection.warnings = c.missesInRecords := by
  simp [recordsSection, article, Noted.map, Noted.join, List.flatMap_map, warnings_itemEntry,
    missesInRecords]

/-! ## Summaries -/

theorem warnings_propertiesSection : c.propertiesSection.warnings = c.missesInProperties := by
  simp [propertiesSection, summaryArticle, summaryRow, Noted.map, List.flatMap_map, warnings_shown,
    missesInProperties]

theorem warnings_sections : c.sections.warnings = c.misses := by
  cases hr : c.spec.visibility.records <;> cases hp : c.spec.visibility.properties <;>
    simp [sections, misses, Noted.join, Noted.map, Noted.silent, hr, hp, warnings_recordsSection,
      warnings_propertiesSection]

/-! ## Reports -/

theorem exists_of_mem_missesAt {record : Record} {property : String} {e : Option Enumeration}
    {w : Warning} (h : w ∈ missesAt record property e) : ∃ p v, w = .missingEntry p v := by
  rw [missesAt] at h
  split at h
  · exact ⟨_, _, List.mem_singleton.mp h⟩
  · cases h

theorem exists_of_mem_misses {w : Warning} (h : w ∈ c.misses) : ∃ p v, w = .missingEntry p v := by
  simp only [misses, missesInRecords, missesInProperties, List.mem_append, List.mem_ite_nil_right,
    List.mem_flatMap] at h
  rcases h with ⟨-, r, -, item, -, s, -, h⟩ | ⟨-, s, -, r, -, h⟩
  · exact exists_of_mem_missesAt h
  · exact exists_of_mem_missesAt h

theorem nodup_unreferenced (h : c.table.properties.Nodup) : c.unreferenced.Nodup :=
  (h.filter _).map fun _ _ heq => by cases heq; rfl

/-- The two kinds of findings do not mix, and only those of the second kind can repeat. -/
theorem warnings_render (h : c.table.properties.Nodup) :
    c.render.warnings = c.unreferenced ++ c.misses.eraseDups := by
  have hdisjoint : ∀ w ∈ c.misses, w ∉ c.unreferenced := by
    intro w hw hunreferenced
    obtain ⟨p, v, rfl⟩ := c.exists_of_mem_misses hw
    obtain ⟨q, -, hq⟩ := List.mem_map.mp hunreferenced
    cases hq
  calc
    c.render.warnings = firsts (c.unreferenced ++ c.misses) := by rw [render, warnings_sections]
    _ = firsts c.unreferenced ++ firsts c.misses := firsts_append_of_disjoint hdisjoint
    _ = c.unreferenced ++ c.misses.eraseDups := by
      rw [firsts_of_nodup (c.nodup_unreferenced h), firsts_eq_eraseDups]

end Context

/-- The findings are the properties that nothing refers to, in header order, and then the first
occurrences of the values without an entry: those in the articles, record by record, and those in the
summaries, one summary after the other. -/
theorem warnings_of_render {table : Table} {spec : Spec} {options : Options} {report : Rendered}
    (hnodup : table.properties.Nodup) (h : render table spec options = .ok report) :
    let ordered := sortRecords spec.sortKeys table.records
    let inArticles := ordered.flatMap fun r => spec.items.flatMap fun item =>
      item.scalars.flatMap fun s => missesAt r s.property s.enumeration
    let inSummaries := (summariesOf table spec options).flatMap fun s =>
      ordered.flatMap fun r => missesAt r s.property s.enumeration
    report.warnings = (table.properties.filter fun p => p ∉ spec.references).map .unreferenced ++
        ((if spec.visibility.records then inArticles else []) ++
          if spec.visibility.properties then inSummaries else []).eraseDups ∧
      report.warnings.Nodup := by
  intro ordered inArticles inSummaries
  obtain ⟨c, hc, rfl⟩ := exists_context_of_render h
  obtain ⟨rfl, rfl, rfl⟩ := Context.of_eq_ok hc
  have hunused : c.unreferenced =
      (c.table.properties.filter fun p => p ∉ c.spec.references).map .unreferenced := by
    simp [Context.unreferenced, Spec.unused, Spec.mentions]
  have hmisses : c.misses = (if c.spec.visibility.records then inArticles else []) ++
      if c.spec.visibility.properties then inSummaries else [] := rfl
  refine ⟨?_, nodup_firsts _⟩
  rw [c.warnings_render hnodup, hunused, hmisses]

/-- Values that are missed in records which are shown in another order than they stand in the table, one
of them twice, and one that is missed in a summary only. -/
theorem warnings_of_render_group :
    let first : Record := ⟨1, 2, [("a", "2"), ("b", "x"), ("c", "?"), ("d", "")]⟩
    let second : Record := ⟨2, 3, [("a", "1"), ("b", "z"), ("c", ""), ("d", "1")]⟩
    let third : Record := ⟨3, 4, [("a", "3"), ("b", "x"), ("c", "yes"), ("d", "")]⟩
    let table : Table := ⟨["a", "b", "c", "d"], [first, second, third]⟩
    let e : Enumeration := ⟨[("y", "yes"), ("n", "no")], by decide⟩
    let spec : Spec := ⟨none, none, ["a"], ["a"],
      [.other ⟨"c", some e, ""⟩, .group ⟨"G", [⟨"b", "", none, ""⟩, ⟨"b", "B", some e, ""⟩]⟩], .all⟩
    table.properties.Nodup ∧ ∃ report, render table spec {} = .ok report ∧
      report.warnings = [.unreferenced "d", .missingEntry "b" "z", .missingEntry "b" "x",
        .missingEntry "c" "?", .missingEntry "c" "yes"] := by
  intro first second third table e spec
  have hnodup : table.properties.Nodup := by decide
  obtain ⟨report, h⟩ : ∃ report, render table spec {} = .ok report := ⟨_, by rfl⟩
  have hsort : sortRecords spec.sortKeys table.records = [second, first, third] := by
    simp +decide [spec, table, first, second, third, sortRecords, List.mergeSort,
      List.MergeSort.Internal.splitInTwo]
  obtain ⟨hwarnings, -⟩ := warnings_of_render hnodup h
  rw [hsort] at hwarnings
  exact ⟨hnodup, report, h, hwarnings.trans (by decide +kernel)⟩

end Report
end RecordReport
