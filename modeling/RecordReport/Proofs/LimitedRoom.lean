import RecordReport.Proofs.Markup.Events
import RecordReport.Proofs.Report.Context
import RecordReport.Proofs.Report.Writing
import RecordReport.Proofs.Template.RoundTrip

/-!
# Places with too little room

A report and a template are written without a fault exactly if all their bytes have room. Otherwise the
fault of the place is reported, also when it comes with the last write.
-/

namespace RecordReport

/-- Of bytes that were to be written within some room, a delivery and the result that is reported for it:
everything has been accepted and all is well, or a beginning has been accepted and there is a fault. -/
structure Reports {ε α : Type} (room : Nat) (bytes : Bytes) (done : α) (fault : ε)
    (written : Delivery × Except ε α) : Prop where
  ok_iff : written.2 = .ok done ↔ bytes.length ≤ room
  accepted_of_le : bytes.length ≤ room → written.1.accepted = bytes
  fault_of_lt : room < bytes.length → written.2 = .error fault
  prefix_of_lt : room < bytes.length → written.1.accepted <+: bytes ∧ written.1.accepted ≠ bytes

/-- A result that says whether every write has been accepted. -/
theorem reports_run {ε α : Type} (room : Nat) {writes : List Bytes} {bytes : Bytes}
    (h : writes.flatten = bytes) (done : α) (fault : ε) :
    Reports room bytes done fault (Delivery.run room writes,
      if (Delivery.run room writes).complete then .ok done else .error fault) := by
  subst h
  have hcomplete := Delivery.complete_run_iff room writes
  refine ⟨?_, fun hle => ?_, fun hlt => ?_, fun hlt => ⟨Delivery.accepted_run_prefix room writes, ?_⟩⟩
  · rw [← hcomplete]
    cases (Delivery.run room writes).complete <;> simp
  · exact Delivery.accepted_run_of_complete (hcomplete.mpr hle)
  · exact if_neg fun hall => Nat.not_le_of_lt hlt (hcomplete.mp hall)
  · intro heq
    have hlength := Delivery.length_accepted_run_le room writes
    rw [heq] at hlength
    exact Nat.not_le_of_lt hlt hlength

namespace Report

theorem renderTo_of_render {table : Table} {spec : Spec} {options : Options} {report : Rendered}
    (room : Nat) (h : render table spec options = .ok report) :
    renderTo none table spec options = (⟨Text.encode report.html, true⟩, .ok report.warnings) ∧
      Reports room (Text.encode report.html) report.warnings .noRoom
        (renderTo (some room) table spec options) := by
  constructor
  · rw [renderTo, h, ← flatten_pieces]
    rfl
  · rw [renderTo, h]
    exact reports_run room (flatten_pieces report) _ _

end Report

namespace Template

theorem exportTo_of_exportText {spec : Spec} {text : String} (room : Nat)
    (h : exportText spec = .ok text) :
    Reports room (Text.encode text) () (.unwritable .noRoom) (exportTo (some room) spec) := by
  rw [exportText] at h
  split at h
  · rename_i rows hrows
    cases h
    rw [exportTo, hrows]
    exact reports_run room (by rw [flatten_blocks, Csv.flatten_parts]) () _
  · cases h

end Template

/-- The room decides whether a report that can be made, and a template that can be written, is reported as
written. -/
theorem reports_of_room (room : Nat) :
    (∀ (table : Table) (spec : Spec) (options : Report.Options),
      (∀ p ∈ spec.references, p ∈ table.properties) →
      ∃ report, Report.render table spec options = .ok report ∧
        Report.renderTo none table spec options =
          (⟨Text.encode report.html, true⟩, .ok report.warnings) ∧
        Reports room (Text.encode report.html) report.warnings .noRoom
          (Report.renderTo (some room) table spec options)) ∧
    ∀ (spec : Spec) (text : String), Template.exportText spec = .ok text →
      Reports room (Text.encode text) () (.unwritable .noRoom) (Template.exportTo (some room) spec) := by
  refine ⟨fun table spec options hfits => ?_, fun spec text => Template.exportTo_of_exportText room⟩
  obtain ⟨c, -, -, -, hreport⟩ := Report.exists_context_of_fits options hfits
  exact ⟨c.render, hreport, Report.renderTo_of_render room hreport⟩

/-- A report that stops within its first tag, and a template of 55 bytes that has room, or all but the last
of them. -/
theorem reports_of_room_last :
    let table : Table := ⟨["a"], [⟨1, 2, [("a", "x")]⟩]⟩
    let spec := Spec.ofTable table
    let text := "Label,Property,Enumeration,Notes\n_IDENTIFIER,a,,\na,a,,\n"
    (∀ p ∈ spec.references, p ∈ table.properties) ∧ Template.exportText spec = .ok text ∧
      (Report.renderTo (some 14) table spec {}).2 = .error .noRoom ∧
      (Template.exportTo (some 55) spec).2 = .ok () ∧
      (Template.exportTo (some 54) spec).2 = .error (.unwritable .noRoom) := by
  intro table spec text
  have hfits : ∀ p ∈ spec.references, p ∈ table.properties := by decide
  have htext : Template.exportText spec = .ok text := by rfl
  have hsize : (Text.encode text).length = 55 := by decide
  have hdoctype : (Text.encode "<!DOCTYPE html>").length = 15 := by decide
  obtain ⟨report, -, -, hshort⟩ := (reports_of_room 14).1 table spec {} hfits
  have hlong : 14 < (Text.encode report.html).length := by
    rw [Report.Rendered.html, Markup.documentText_eq, Text.encode_append, List.length_append]
    omega
  refine ⟨hfits, htext, hshort.fault_of_lt hlong, ?_, ?_⟩
  · exact ((reports_of_room 55).2 spec text htext).ok_iff.mpr (Nat.le_of_eq hsize)
  · exact ((reports_of_room 54).2 spec text htext).fault_of_lt (by omega)

end RecordReport
