import RecordReport.Report.Writer

/-!
# When a report is written

A specification that does not fit its table is refused before the first byte is written, and nothing else
is ever refused.
-/

namespace RecordReport

/-! ## Places -/

namespace Writer

theorem writeAll_memory (taken : Bytes) (pieces : List Bytes) :
    memory.writeAll taken pieces = (taken ++ pieces.flatten, none) := by
  induction pieces generalizing taken with
  | nil => simp [writeAll]
  | cons piece pieces ih =>
      have hstep : memory.writeAll taken (piece :: pieces) =
          memory.writeAll (taken ++ piece) pieces := rfl
      rw [hstep, ih, List.flatten_cons, List.append_assoc]

theorem deliver_memory (taken : Bytes) (pieces : List Bytes) :
    memory.deliver taken pieces = (taken ++ pieces.flatten, none) := by
  rw [deliver, writeAll_memory]
  rfl

/-- A place with limited room accepts what a delivery within that room does. -/
theorem deliver_limited (taken : Bytes) (room : Nat) (pieces : List Bytes) :
    (limited.deliver (taken, room) pieces).1.1 = taken ++ (Delivery.run room pieces).accepted ∧
      (limited.deliver (taken, room) pieces).2 =
        if (Delivery.run room pieces).complete then none else some () := by
  induction pieces generalizing taken room with
  | nil => simp [deliver, writeAll, limited, Delivery.run]
  | cons piece pieces ih =>
      by_cases hfits : piece.length ≤ room
      · have hstep : limited.deliver (taken, room) (piece :: pieces) =
            limited.deliver (taken ++ piece, room - piece.length) pieces := by
          simp [deliver, writeAll, limited, hfits]
        rw [hstep, Delivery.run, if_pos hfits]
        simpa using ih (taken ++ piece) (room - piece.length)
      · simp [deliver, writeAll, limited, Delivery.run, hfits]

end Writer

namespace Report

/-! ## Reports -/

/-- Pieces that are not written because they are empty do not count. -/
theorem flatten_pieces (report : Rendered) : report.pieces.flatten = Text.encode report.html := by
  rw [Rendered.pieces, List.flatten_filter_not_isEmpty, Rendered.html, Markup.documentText]
  induction Markup.documentWrites report.document with
  | nil => rfl
  | cons piece pieces ih =>
      rw [List.map_cons, List.flatten_cons, ih, String.join_cons, Text.encode_append]

/-- The delivery of a report within some room is that of writing it to a place with this room. -/
theorem renderTo_eq_renderInto (room : Nat) (table : Table) (spec : Spec) (options : Options) :
    let written := renderInto Writer.limited ([], room) table spec options
    (renderTo (some room) table spec options).1.accepted = written.1.1 ∧
      (renderTo (some room) table spec options).2 =
        written.2.mapError fun failure =>
          match failure with
          | .refused cause => cause
          | .unwritten () => .noRoom := by
  intro written
  cases hreport : render table spec options with
  | error cause =>
      have hto : renderTo (some room) table spec options = (⟨[], true⟩, .error cause) := by
        rw [renderTo, hreport]
      have hwritten : written = (([], room), .error (.refused cause)) := by
        simp only [written, renderInto, hreport]
      rw [hto, hwritten]
      exact ⟨rfl, rfl⟩
  | ok report =>
      have hto : renderTo (some room) table spec options =
          (Delivery.run room report.pieces,
            if (Delivery.run room report.pieces).complete then .ok report.warnings
            else .error .noRoom) := by
        rw [renderTo, hreport]
        rfl
      obtain ⟨haccepted, hfault⟩ := Writer.deliver_limited [] room report.pieces
      simp only [hto, written, renderInto, hreport]
      generalize Writer.limited.deliver ([], room) report.pieces = delivered at haccepted hfault
      obtain ⟨⟨accepted, left⟩, fault⟩ := delivered
      obtain rfl : accepted = _ := haccepted
      obtain rfl : fault = _ := hfault
      cases (Delivery.run room report.pieces).complete <;> exact ⟨rfl, rfl⟩

/-! ## Validation -/

theorem Context.of_eq_error {table : Table} {spec : Spec} (options : Options) {p : String}
    (h : spec.references.find? (fun q => !table.hasProperty q) = some p) :
    Context.of table spec options = .error (.missingProperty p) := by
  unfold Context.of
  split
  · rename_i q hq
    rw [h] at hq
    cases hq
    rfl
  · rename_i hq
    rw [h] at hq
    cases hq

theorem Context.exists_of_eq_ok {table : Table} {spec : Spec} (options : Options)
    (h : spec.references.find? (fun q => !table.hasProperty q) = none) :
    ∃ c, Context.of table spec options = .ok c := by
  unfold Context.of
  split
  · rename_i q hq
    rw [h] at hq
    cases hq
  · exact ⟨_, rfl⟩

theorem renderInto_eq_of_error {σ ε : Type} (w : Writer σ ε) (s : σ) {table : Table} {spec : Spec}
    {options : Options} {cause : Error} (h : render table spec options = .error cause) :
    renderInto w s table spec options = (s, .error (.refused cause)) := by
  rw [renderInto, h]

/-- Once there is a report only the place can fail. -/
theorem renderInto_ne_refused {σ ε : Type} (w : Writer σ ε) (s : σ) {table : Table} {spec : Spec}
    {options : Options} {report : Rendered} (h : render table spec options = .ok report)
    (cause : Error) : (renderInto w s table spec options).2 ≠ .error (.refused cause) := by
  rw [renderInto, h]
  dsimp only
  split <;> simp

theorem renderInto_memory {table : Table} {spec : Spec} {options : Options} {report : Rendered}
    (h : render table spec options = .ok report) :
    renderInto Writer.memory [] table spec options =
      (Text.encode report.html, .ok report.warnings) := by
  rw [renderInto, h]
  dsimp only
  rw [Writer.deliver_memory, flatten_pieces, List.nil_append]

/-- A property that is referred to and is no column keeps every place from being written to: the first
of the items, then of the sort keys, then of the identifiers is named. Without one only the place itself
can fail, and memory does not. -/
theorem renderInto_of_references {σ ε : Type} (w : Writer σ ε) (s : σ) (table : Table) (spec : Spec)
    (options : Options) :
    let references := spec.items.flatMap Item.properties ++ spec.sortKeys ++ spec.identifiers
    (∀ p, references.find? (· ∉ table.properties) = some p →
      renderInto w s table spec options = (s, .error (.refused (.missingProperty p))) ∧
      render table spec options = .error (.missingProperty p)) ∧
    ((∀ p ∈ references, p ∈ table.properties) →
      (∀ cause, (renderInto w s table spec options).2 ≠ .error (.refused cause)) ∧
      ∃ report, render table spec options = .ok report ∧
        renderInto Writer.memory [] table spec options =
          (Text.encode report.html, .ok report.warnings) ∧
        Text.decode (Text.encode report.html) = .ok report.html) := by
  intro references
  have hcolumns : (fun q => decide (q ∉ table.properties)) = fun q => !table.hasProperty q := by
    funext q
    simp [Table.hasProperty]
  constructor
  · intro p hp
    rw [hcolumns] at hp
    have hrender : render table spec options = .error (.missingProperty p) := by
      rw [render, Context.of_eq_error options hp]
      rfl
    exact ⟨renderInto_eq_of_error w s hrender, hrender⟩
  · intro (hfits : ∀ p ∈ spec.references, p ∈ table.properties)
    have hnone : spec.references.find? (fun q => !table.hasProperty q) = none := by
      simpa [Table.hasProperty] using hfits
    obtain ⟨c, hc⟩ := Context.exists_of_eq_ok options hnone
    have hrender : render table spec options = .ok c.render := by
      rw [render, hc]
      rfl
    exact ⟨renderInto_ne_refused w s hrender, c.render, hrender, renderInto_memory hrender,
      Text.decode_encode _⟩

/-- Of two properties that are no columns the group's is named before the sort key, and a place without
room is a fault of the place. -/
theorem renderInto_of_references_limited :
    let table : Table := ⟨["a"], [⟨1, 2, [("a", "x")]⟩]⟩
    let astray : Spec := ⟨none, none, ["c"], ["a"],
      [.scalar ⟨"a", "A", none, ""⟩, .group ⟨"G", [⟨"a", "", none, ""⟩, ⟨"b", "", none, ""⟩]⟩], .all⟩
    let fitting : Spec := ⟨none, none, ["a"], ["a"], [.hidden ⟨"a", none, ""⟩], .all⟩
    renderInto Writer.limited ([], 9) table astray {} =
        (([], 9), .error (.refused (.missingProperty "b"))) ∧
      (∀ cause, (renderInto Writer.limited ([], 9) table fitting {}).2 ≠ .error (.refused cause)) ∧
      ∃ report, render table fitting {} = .ok report := by
  intro table astray fitting
  have hastray := (renderInto_of_references Writer.limited ([], 9) table astray {}).1 "b" (by decide)
  have hfitting := (renderInto_of_references Writer.limited ([], 9) table fitting {}).2 (by decide)
  obtain ⟨hrefused, report, hreport, -⟩ := hfitting
  exact ⟨hastray.1, hrefused, report, hreport⟩

end Report
end RecordReport
