import RecordReport.Proofs.Report.Warnings
import RecordReport.Proofs.Report.Writing

/-!
# What the findings depend on

Of the options only those that select summaries matter to the findings. Neither the title nor the time
does, nor where the report is written to.
-/

namespace RecordReport.Report

/-- The options show the same summaries. -/
structure Options.Selects (o o' : Options) : Prop where
  excludeOther : o'.excludeOther = o.excludeOther
  includeHidden : o'.includeHidden = o.includeHidden

theorem Summary.ofItem_eq {o o' : Options} (h : o.Selects o') : Summary.ofItem o' = Summary.ofItem o := by
  funext item
  cases item with
  | scalar _ | group _ => rfl
  | other _ => rw [ofItem, ofItem, h.excludeOther]
  | hidden _ => rw [ofItem, ofItem, h.includeHidden]

namespace Context

variable {c c' : Context}

theorem misses_eq (htable : c'.table = c.table) (hspec : c'.spec = c.spec)
    (h : c.options.Selects c'.options) : c'.misses = c.misses := by
  have hrecords : c'.records = c.records := by rw [records, records, htable, hspec]
  have hsummaries : c'.summaries = c.summaries := by
    rw [summaries, summaries, summariesOf, summariesOf, htable, hspec, Summary.ofItem_eq h]
  rw [misses, misses, missesInRecords, missesInRecords, missesInProperties, missesInProperties, hrecords,
    hsummaries, hspec]

theorem warnings_eq (htable : c'.table = c.table) (hspec : c'.spec = c.spec)
    (h : c.options.Selects c'.options) : c'.render.warnings = c.render.warnings := by
  have hunreferenced : c'.unreferenced = c.unreferenced := by
    rw [unreferenced, unreferenced, htable, hspec]
  rw [render, render, warnings_sections, warnings_sections, misses_eq htable hspec h, hunreferenced]

end Context

theorem map_warnings_render (table : Table) (spec : Spec) {o o' : Options} (h : o.Selects o') :
    (render table spec o').map (·.warnings) = (render table spec o).map (·.warnings) := by
  cases hmissing : spec.references.find? fun p => !table.hasProperty p with
  | some p =>
      rw [render, render, Context.of_eq_error o hmissing, Context.of_eq_error o' hmissing]
  | none =>
      obtain ⟨c, hc⟩ := Context.exists_of_eq_ok o hmissing
      obtain ⟨c', hc'⟩ := Context.exists_of_eq_ok o' hmissing
      obtain ⟨htable, hspec, hoptions⟩ := Context.of_eq_ok hc
      obtain ⟨htable', hspec', hoptions'⟩ := Context.of_eq_ok hc'
      have hselects : c.options.Selects c'.options := by rwa [hoptions, hoptions']
      have hwarnings :=
        Context.warnings_eq (htable'.trans htable.symm) (hspec'.trans hspec.symm) hselects
      rw [render, render, hc, hc']
      exact congrArg Except.ok hwarnings

/-- A place that cannot fail. -/
theorem renderInto_eq {σ : Type} (w : Writer σ Empty) (s : σ) (table : Table) (spec : Spec)
    (options : Options) :
    (renderInto w s table spec options).2 =
      ((render table spec options).map (·.warnings)).mapError .refused := by
  rw [renderInto]
  cases render table spec options with
  | error _ => rfl
  | ok report =>
      dsimp only
      split
      · rfl
      · rename_i fault _
        cases fault

end RecordReport.Report
