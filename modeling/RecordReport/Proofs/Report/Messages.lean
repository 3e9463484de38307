import RecordReport.Proofs.Spec.Enumeration
import RecordReport.Report.Render
import RecordReport.Table.Load
import RecordReport.Template.Parse

/-!
# Printed findings

Names and values stand in the line of a finding as they are. There is one line for each finding exactly if no
name or value holds a line feed, and then a line tells its finding up to the words between a value and the
name of its property, which can occur in both.
-/

namespace RecordReport.Report.Warning

/-- The line of a finding, without its end. -/
def line (w : Warning) : String := "warning: " ++ w.message

/-- The names and values in the line of a finding. -/
def texts : Warning → List String
  | .unreferenced p => [p]
  | .missingEntry p value => [value, p]

/-- The words between a value and the name of its property. -/
def between : String := "' of property '"

theorem line_unreferenced (p : String) :
    line (.unreferenced p) = "warning: property '" ++ p ++ "' is not referenced by the template" := by
  have hmessage : message (.unreferenced p) =
      "property '" ++ p ++ "' is not referenced by the template" := rfl
  rw [line, hmessage, ← String.append_assoc, ← String.append_assoc]
  rfl

theorem line_missingEntry (p value : String) : line (.missingEntry p value) =
    "warning: no enumeration entry for value '" ++ (value ++ between ++ p) ++ "'" := by
  have hmessage : message (.missingEntry p value) =
      "no enumeration entry for value '" ++ value ++ between ++ p ++ "'" := rfl
  rw [line, hmessage]
  simp only [← String.append_assoc]
  rfl

theorem format_text_eq (ws : List Warning) :
    format ws .text = String.join ((ws.map line).map (· ++ '\n'.toString)) := by
  rw [format, List.map_map]
  rfl

/-! ## Lines -/

/-- Nothing in the line of a finding ends it. -/
def Unbroken (w : Warning) : Prop := ∀ t ∈ w.texts, '\n' ∉ t.toList

instance (w : Warning) : Decidable w.Unbroken :=
  inferInstanceAs (Decidable (∀ t ∈ w.texts, '\n' ∉ t.toList))

theorem count_line (w : Warning) :
    w.line.toList.count '\n' = (w.texts.flatMap String.toList).count '\n' := by
  cases w with
  | unreferenced p =>
      have hbefore : "warning: property '".toList.count '\n' = 0 := by decide
      have hafter : "' is not referenced by the template".toList.count '\n' = 0 := by decide
      rw [line_unreferenced]
      simp only [String.toList_append, List.count_append, hbefore, hafter, texts, List.flatMap_cons,
        List.flatMap_nil, List.count_nil, Nat.zero_add, Nat.add_zero]
  | missingEntry p value =>
      have hbefore : "warning: no enumeration entry for value '".toList.count '\n' = 0 := by decide
      have hbetween : between.toList.count '\n' = 0 := by decide
      have hafter : "'".toList.count '\n' = 0 := by decide
      rw [line_missingEntry]
      simp only [String.toList_append, List.count_append, hbefore, hbetween, hafter, texts,
        List.flatMap_cons, List.flatMap_nil, List.count_nil, Nat.zero_add, Nat.add_zero]

theorem count_format (ws : List Warning) : (format ws .text).toList.count '\n' =
    ws.length + (ws.flatMap fun w => w.texts.flatMap String.toList).count '\n' := by
  rw [format_text_eq]
  induction ws with
  | nil => rfl
  | cons w ws ih =>
      have hend : '\n'.toString.toList.count '\n' = 1 := by decide
      simp only [List.map_cons, String.join_cons, String.toList_append, List.count_append, ih, hend,
        count_line, List.length_cons, List.flatMap_cons]
      omega

theorem unbroken_iff {w : Warning} : w.Unbroken ↔ '\n' ∉ w.texts.flatMap String.toList := by
  simp [Unbroken]

theorem count_format_eq_length_iff {ws : List Warning} :
    (format ws .text).toList.count '\n' = ws.length ↔ ∀ w ∈ ws, w.Unbroken := by
  rw [count_format, Nat.add_eq_left, List.count_eq_zero, List.mem_flatMap]
  simp only [unbroken_iff, not_exists, not_and]

theorem split_format {ws : List Warning} (h : ∀ w ∈ ws, w.Unbroken) :
    Text.split '\n' (format ws .text) = ws.map line ++ [""] := by
  rw [format_text_eq, Text.split_join_ended]
  refine List.forall_mem_map.mpr fun w hw => ?_
  rw [← List.count_eq_zero, count_line, List.count_eq_zero]
  exact unbroken_iff.mp (h w hw)

/-! ## Words -/

/-- The findings are put in the same words. -/
def SameWords : Warning → Warning → Prop
  | .unreferenced p, .unreferenced q => p = q
  | .missingEntry p value, .missingEntry q other => value ++ between ++ p = other ++ between ++ q
  | _, _ => False

theorem line_ne (p q value : String) : line (.unreferenced p) ≠ line (.missingEntry q value) := by
  intro h
  rw [line_unreferenced, line_missingEntry] at h
  have hstart := congrArg (fun s => s.toList.take 10) h
  simp at hstart

theorem line_eq_iff {w u : Warning} : w.line = u.line ↔ w.SameWords u := by
  cases w with
  | unreferenced p =>
      cases u with
      | unreferenced q =>
          rw [line_unreferenced, line_unreferenced, String.append_left_inj, String.append_right_inj]
          rfl
      | missingEntry q other => exact ⟨line_ne p q other, False.elim⟩
  | missingEntry p value =>
      cases u with
      | unreferenced q => exact ⟨fun h => line_ne q p value h.symm, False.elim⟩
      | missingEntry q other =>
          rw [line_missingEntry, line_missingEntry, String.append_left_inj, String.append_right_inj]
          rfl

theorem eq_of_sameWords {w u : Warning} (hw : '\'' ∉ w.property.toList)
    (hu : '\'' ∉ u.property.toList) (h : w.SameWords u) : w = u := by
  cases w with
  | unreferenced p =>
      cases u with
      | unreferenced q => exact congrArg unreferenced h
      | missingEntry q other => exact h.elim
  | missingEntry p value =>
      cases u with
      | unreferenced q => exact h.elim
      | missingEntry q other =>
          -- The last quote of the words between is the last of all, since the name holds none.
          have hcut (p value : String) (hp : '\'' ∉ p.toList) :
              Text.splitLast? '\'' (value ++ between ++ p) = some (value ++ "' of property ", p) := by
            have hbetween : between = "' of property " ++ '\''.toString := by decide
            rw [hbetween, ← String.append_assoc, Text.splitLast?_append _ hp]
          have hwords : value ++ between ++ p = other ++ between ++ q := h
          have hlast := congrArg (Text.splitLast? '\'') hwords
          rw [hcut p value hw, hcut q other hu] at hlast
          simp only [Option.some.injEq, Prod.mk.injEq, String.append_left_inj] at hlast
          rw [hlast.1, hlast.2]

theorem eq_of_forall₂_sameWords {ws us : List Warning} (hws : ∀ w ∈ ws, '\'' ∉ w.property.toList)
    (hus : ∀ u ∈ us, '\'' ∉ u.property.toList) (h : List.Forall₂ SameWords ws us) : ws = us := by
  induction h with
  | nil => rfl
  | cons hwords _ ih =>
      rw [List.forall_mem_cons] at hws hus
      rw [eq_of_sameWords hws.1 hus.1 hwords, ih hws.2 hus.2]

theorem format_eq_iff {ws us : List Warning} (hws : ∀ w ∈ ws, w.Unbroken) (hus : ∀ u ∈ us, u.Unbroken) :
    format ws .text = format us .text ↔ List.Forall₂ SameWords ws us := by
  have hlines : ws.map line = us.map line ↔ List.Forall₂ SameWords ws us := by
    rw [← List.forall₂_eq_eq_eq, List.forall₂_map_left_iff, List.forall₂_map_right_iff]
    simp only [line_eq_iff]
  rw [← hlines]
  constructor
  · intro h
    have hsplit := congrArg (Text.split '\n') h
    rwa [split_format hws, split_format hus, List.append_left_inj] at hsplit
  · intro h
    rw [format_text_eq, format_text_eq, h]

/-- As many lines are printed as there are findings exactly if no name or value holds a line feed. Of such
findings the same is printed exactly if they are put in the same words one by one, and then they are the same
if no name of a property holds a quote. -/
theorem format_text (ws us : List Warning) :
    ((format ws .text).toList.count '\n' = ws.length ↔ ∀ w ∈ ws, w.Unbroken) ∧
      ((∀ w ∈ ws ++ us, w.Unbroken) →
        Text.split '\n' (format ws .text) = ws.map line ++ [""] ∧
        (format ws .text = format us .text ↔ List.Forall₂ SameWords ws us) ∧
        ((∀ w ∈ ws ++ us, '\'' ∉ w.property.toList) → format ws .text = format us .text → ws = us)) := by
  refine ⟨count_format_eq_length_iff, fun hunbroken => ?_⟩
  obtain ⟨hws, hus⟩ := List.forall_mem_append.mp hunbroken
  refine ⟨split_format hws, format_eq_iff hws hus, fun hquotes hsame => ?_⟩
  obtain ⟨hplain, hplain'⟩ := List.forall_mem_append.mp hquotes
  exact eq_of_forall₂_sameWords hplain hplain' ((format_eq_iff hws hus).mp hsame)

/-- The words between stand in a value and in the name of another property. -/
example : format [.missingEntry "c" "a' of property 'b"] .text =
    format [.missingEntry "b' of property 'c" "a"] .text := by decide

/-- Two findings, one of them about a value with a quote. -/
theorem format_text_quote :
    let ws : List Warning := [.unreferenced "b", .missingEntry "a" "it's"]
    let us : List Warning := [.unreferenced "b", .missingEntry "a" "its"]
    (∀ w ∈ ws ++ us, w.Unbroken) ∧ (∀ w ∈ ws ++ us, '\'' ∉ w.property.toList) ∧
      (format ws .text).toList.count '\n' = 2 ∧ format ws .text ≠ format us .text := by
  intro ws us
  have hunbroken : ∀ w ∈ ws ++ us, w.Unbroken := by decide
  have hquotes : ∀ w ∈ ws ++ us, '\'' ∉ w.property.toList := by decide
  obtain ⟨hcount, hsame⟩ := format_text ws us
  obtain ⟨-, -, hinj⟩ := hsame hunbroken
  have hne : ws ≠ us := by decide
  exact ⟨hunbroken, hquotes, hcount.mpr (by decide), fun h => hne (hinj hquotes h)⟩

/-- The name of a property that is not referred to goes on after a line feed like a line of its own, so that
one finding is printed as the two findings of another table are. -/
theorem format_text_forged :
    let load (data : String) := rowsOf .skip (Text.encode data) >>= Table.load
    let name := "a' is not referenced by the template\nwarning: property 'b"
    ∃ spec table other one two, Template.parseText "Label,Property\nX,x\n" = .ok spec ∧
      load ("x,\"" ++ name ++ "\"\n1,2\n") = .ok table ∧ load "x,a,b\n1,2,3\n" = .ok other ∧
      render table spec {} = .ok one ∧ render other spec {} = .ok two ∧
      one.warnings = [.unreferenced name] ∧ two.warnings = [.unreferenced "a", .unreferenced "b"] ∧
      (format one.warnings .text).toList.count '\n' = 2 ∧
      format one.warnings .text = format two.warnings .text := by
  intro load name
  let spec : Spec := ⟨none, none, [], ["x"], [.scalar ⟨"x", "X", none, ""⟩], .all⟩
  let table : Table := ⟨["x", name], [⟨1, 3, [("x", "1"), (name, "2")]⟩]⟩
  let other : Table := ⟨["x", "a", "b"], [⟨1, 2, [("x", "1"), ("a", "2"), ("b", "3")]⟩]⟩
  obtain ⟨one, hone, hforged⟩ : ∃ one, render table spec {} = .ok one ∧
      one.warnings = [.unreferenced name] := ⟨_, rfl, by decide +kernel⟩
  obtain ⟨two, htwo, hplain⟩ : ∃ two, render other spec {} = .ok two ∧
      two.warnings = [.unreferenced "a", .unreferenced "b"] := ⟨_, rfl, by decide +kernel⟩
  have hspec : Template.parseText "Label,Property\nX,x\n" = .ok spec := by decide +kernel
  have hload : load ("x,\"" ++ name ++ "\"\n1,2\n") = .ok table := by decide +kernel
  have hother : load "x,a,b\n1,2,3\n" = .ok other := by decide +kernel
  refine ⟨spec, table, other, one, two, hspec, hload, hother, hone, htwo, hforged, hplain, ?_, ?_⟩
  · rw [hforged]
    decide +kernel
  · rw [hforged, hplain]
    decide +kernel

end RecordReport.Report.Warning
