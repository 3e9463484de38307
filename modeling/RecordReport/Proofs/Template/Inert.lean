import Mathlib.Logic.Relation
import RecordReport.Proofs.Template.Layout
import RecordReport.Proofs.Template.Lines

/-!
# Rows that say nothing

Comments, rows without use, blank fields at the end of a row, and blank rows where no group is open can be
put into a template and taken out of it again. Whatever is wrong with it stays wrong on the same line.
-/

namespace RecordReport

namespace Csv.Row

/-- The row with blank fields after the last one. -/
def padded (row : Row) (count : Nat) : Row := ⟨row.line, row.fields ++ List.replicate count ""⟩

@[simp] theorem line_padded (row : Row) (count : Nat) : (row.padded count).line = row.line := rfl

@[simp] theorem length_padded (row : Row) (count : Nat) :
    (row.padded count).fields.length = row.fields.length + count := by
  simp [padded]

@[simp] theorem field_padded (row : Row) (count i : Nat) : (row.padded count).field i = row.field i := by
  rw [field, field, padded, List.getElem?_append]
  split
  · rfl
  · rename_i hi
    rw [List.getElem?_eq_none (Nat.le_of_not_lt hi), List.getElem?_replicate]
    split <;> rfl

@[simp] theorem isBlank_padded (row : Row) (count : Nat) : (row.padded count).isBlank = row.isBlank := by
  simp [isBlank, padded]

end Csv.Row

namespace Template

/-! ## Reading on -/

namespace Progress

variable {p : Progress}

/-- What comes of reading on to the end of a template. -/
def resultOf (p : Progress) (rows : List Csv.Row) : Except Error Spec :=
  match p.feedAll rows with
  | (q, none) => q.complete.finish
  | (_, some fault) => .error fault

theorem resultOf_cons (p : Progress) (row : Csv.Row) (rows : List Csv.Row) :
    p.resultOf (row :: rows) = p.feed row >>= fun q => q.resultOf rows := by
  rw [resultOf, feedAll]
  cases p.feed row with
  | error _ => rfl
  | ok q => rfl

/-- Rows that are read alike from everywhere can stand for each other. -/
theorem resultOf_congr {rows others : List Csv.Row} (h : ∀ p, resultOf p rows = resultOf p others)
    (before : List Csv.Row) (p : Progress) : p.resultOf (before ++ rows) = p.resultOf (before ++ others) := by
  induction before generalizing p with
  | nil => exact h p
  | cons row before ih =>
      rw [List.cons_append, List.cons_append, resultOf_cons, resultOf_cons]
      cases p.feed row with
      | error _ => rfl
      | ok q => exact ih q

/-- The rows that said nothing are remembered for the log only. -/
theorem resultOf_ignored (p : Progress) (lines : List Nat) (rows : List Csv.Row) :
    ({ p with ignored := lines } : Progress).resultOf rows = p.resultOf rows := by
  -- A row may be remembered itself, so the remembered lines are arbitrary on both sides of each step.
  induction rows generalizing p lines with
  | nil => rfl
  | cons row rows ih =>
      rw [resultOf_cons, resultOf_cons, feed, feed]
      cases Line.ofRow row with
      | error _ => rfl
      | ok line =>
          simp only [bind, Except.bind]
          cases p.draft.applyAll row.line (p.grouping.advance line).2 with
          | error _ => rfl
          | ok draft => exact (ih ⟨_, draft, p.ignored⟩ _).trans (ih ⟨_, draft, p.ignored⟩ _).symm

end Progress

theorem parse_cons (header : Csv.Row) (rows : List Csv.Row) :
    parse (header :: rows) = ({} : Progress).resultOf rows := by
  rw [parse, read, Progress.resultOf, List.tail_cons]
  cases ({} : Progress).feedAll rows with
  | mk q fault => cases fault <;> rfl

/-! ## Comments and rows without use -/

@[simp] theorem startsWith_empty (mark : Char) : Text.startsWith "" mark = false := rfl

/-- The row is a comment, or it has something in its later fields and nothing in the first two. -/
def IsSilent (row : Csv.Row) : Prop :=
  Text.startsWith (row.field 0) commentMark = true ∨
    row.fields.length ≤ maxFields ∧ row.field 0 = "" ∧ row.field 1 = "" ∧ row.isBlank = false

theorem ofRow_of_silent {row : Csv.Row} (h : IsSilent row) :
    Line.ofRow row = .ok .comment ∨ Line.ofRow row = .ok .ignored := by
  rw [Line.ofRow]
  rcases h with hcomment | ⟨hwidth, hlabel, hproperty, hcontent⟩
  · exact .inl (if_pos hcomment)
  · right
    simp [hlabel, hproperty, hcontent, Nat.not_lt.mpr hwidth]

theorem Progress.resultOf_silent {row : Csv.Row} (h : IsSilent row) (p : Progress) (rows : List Csv.Row) :
    p.resultOf (row :: rows) = p.resultOf rows := by
  rw [resultOf_cons, feed]
  rcases ofRow_of_silent h with hline | hline <;> rw [hline]
  · rfl
  · exact resultOf_ignored p (p.ignored ++ [row.line]) rows

/-! ## Padding -/

/-- A row says the same with blank fields after it, as long as there are not too many. -/
theorem ofRow_padded {row : Csv.Row} {count : Nat} (h : row.fields.length + count ≤ maxFields) :
    Line.ofRow (row.padded count) = Line.ofRow row := by
  have hpadded : ¬maxFields < row.fields.length + count := Nat.not_lt.mpr h
  have hrow : ¬maxFields < row.fields.length := by omega
  simp [Line.ofRow, commandOf, mentionOf, parameter, enumerationOf, hpadded, hrow]

theorem Progress.resultOf_padded {row : Csv.Row} {count : Nat} (h : row.fields.length + count ≤ maxFields)
    (p : Progress) (rows : List Csv.Row) : p.resultOf (row.padded count :: rows) = p.resultOf (row :: rows) := by
  rw [resultOf_cons, resultOf_cons, feed, feed, ofRow_padded h, Csv.Row.line_padded]

/-! ## Blank rows -/

structure IsBlankRow (row : Csv.Row) : Prop where
  width : row.fields.length ≤ maxFields
  blank : row.isBlank = true

/-- The row is a command or the head of a group. -/
def IsHead (row : Csv.Row) : Prop :=
  Text.startsWith (row.field 0) commandMark = true ∨
    Text.startsWith (row.field 0) commentMark = false ∧ row.field 0 ≠ "" ∧ row.field 1 = ""

/-- Between these rows a blank row ends no group that would not end there anyway. -/
inductive Gap : List Csv.Row → List Csv.Row → Prop
  | first (after : List Csv.Row) : Gap [] after
  | last (before : List Csv.Row) : Gap before []
  | afterBlank (before after : List Csv.Row) {row : Csv.Row} (h : row.isBlank = true) :
    Gap (before ++ [row]) after
  | beforeBlank (before after : List Csv.Row) {row : Csv.Row} (h : row.isBlank = true) :
    Gap before (row :: after)
  | afterCommand (before after : List Csv.Row) {row : Csv.Row}
    (h : Text.startsWith (row.field 0) commandMark = true) : Gap (before ++ [row]) after
  | beforeHead (before after : List Csv.Row) {row : Csv.Row} (h : IsHead row) : Gap before (row :: after)

theorem ofRow_of_isBlankRow {row : Csv.Row} (h : IsBlankRow row) : Line.ofRow row = .ok .blank := by
  simp [Line.ofRow, field_of_isBlank h.blank, h.blank, Nat.not_lt.mpr h.width]

theorem eq_blank_of_isBlank {row : Csv.Row} {line : Line} (h : row.isBlank = true)
    (hline : Line.ofRow row = .ok line) : line = .blank := by
  by_cases hwidth : row.fields.length ≤ maxFields
  · rw [ofRow_of_isBlankRow ⟨hwidth, h⟩] at hline
    cases hline
    rfl
  · simp [Line.ofRow, field_of_isBlank h, Nat.lt_of_not_le hwidth] at hline

/-- What begins with the mark of a command is a command, if it is anything. -/
theorem exists_command_of_mark {row : Csv.Row} {line : Line}
    (h : Text.startsWith (row.field 0) commandMark = true) (hline : Line.ofRow row = .ok line) :
    ∃ c, line = .command c := by
  have hholds := holds_of_ofRow hline
  have hmarked : isMarked (row.field 0) = true := by simp [isMarked, h]
  cases line with
  | command c => exact ⟨c, rfl⟩
  | comment =>
      have hcomment : Text.startsWith (row.field 0) commentMark = true := hholds
      have hmark := (eq_of_beq h).symm.trans (eq_of_beq hcomment)
      exact absurd hmark (by decide)
  | groupStart label =>
      obtain ⟨rfl, -, hunmarked⟩ := hholds
      exact absurd hmarked hunmarked
  | item s =>
      obtain ⟨hlabel, hunmarked, -⟩ := hholds
      rw [hlabel] at hunmarked
      exact absurd hmarked hunmarked
  | blank | ignored =>
      have hempty : row.field 0 = "" := hholds
      simp [hempty] at h

theorem closesGroup_of_isHead {row : Csv.Row} {line : Line} (h : IsHead row)
    (hline : Line.ofRow row = .ok line) : line.closesGroup = true := by
  rcases h with hmark | ⟨hcomment, hlabel, hproperty⟩
  · obtain ⟨c, rfl⟩ := exists_command_of_mark hmark hline
    rfl
  · have hholds := holds_of_ofRow hline
    cases line with
    | command _ | groupStart _ | blank => rfl
    | comment =>
        have hmarked : Text.startsWith (row.field 0) commentMark = true := hholds
        rw [hcomment] at hmarked
        cases hmarked
    | ignored => exact absurd hholds hlabel
    | item s =>
        obtain ⟨-, -, hmention⟩ := hholds
        exact absurd (hmention.property.trans hproperty) hmention.ne_empty

namespace Progress

variable {p : Progress}

/-- The progress with the group that is open ended. -/
def closed (p : Progress) : Progress := ⟨.idle, p.complete, p.ignored⟩

theorem closed_of_idle (h : p.grouping = .idle) : p.closed = p := by
  obtain ⟨grouping, draft, ignored⟩ := p
  obtain rfl : grouping = .idle := h
  rfl

theorem resultOf_blank {blank : Csv.Row} (h : IsBlankRow blank) (p : Progress) (rows : List Csv.Row) :
    p.resultOf (blank :: rows) = p.closed.resultOf rows := by
  rw [resultOf_cons, feed_of_blank (ofRow_of_isBlankRow h)]
  rfl

theorem applyAll_closing (p : Progress) (line : Nat) (effects : List Effect) :
    p.draft.applyAll line (p.grouping.closing ++ effects) = p.complete.applyAll line effects := by
  rw [complete]
  cases p.grouping <;> rfl

/-- A row that ends the group that is open does so whether or not it has been ended before. -/
theorem feed_closed {row : Csv.Row} (h : ∀ line, Line.ofRow row = .ok line → line.closesGroup = true)
    (p : Progress) : p.closed.feed row = p.feed row := by
  have hclosing (effects : List Effect) := p.applyAll_closing row.line effects
  rw [feed, feed]
  cases hline : Line.ofRow row with
  | error _ => rfl
  | ok line =>
      have hcloses := h line hline
      -- Rows that leave a group open are excluded; every other row begins with the effects that end it.
      cases line with
      | comment | ignored | item _ => cases hcloses
      | command c =>
          simp only [bind, Except.bind, Grouping.advance, hclosing]
          rfl
      | blank | groupStart _ =>
          have hnone := hclosing []
          rw [List.append_nil] at hnone
          simp only [bind, Except.bind, Grouping.advance, hnone]
          rfl

theorem idle_of_feed {q : Progress} {row : Csv.Row}
    (h : ∀ line, Line.ofRow row = .ok line → line = .blank ∨ ∃ c, line = .command c)
    (hfeed : p.feed row = .ok q) : q.grouping = .idle := by
  rw [feed] at hfeed
  obtain ⟨line, hline, hfeed⟩ := exists_of_bind_eq_ok hfeed
  rcases h line hline with rfl | ⟨c, rfl⟩ <;>
    · obtain ⟨draft, -, hq⟩ := exists_of_bind_eq_ok hfeed
      cases hq
      rfl

/-- After a row that leaves no group open a blank row has nothing to end. -/
theorem resultOf_blank_after {row blank : Csv.Row} (hblank : IsBlankRow blank)
    (h : ∀ line, Line.ofRow row = .ok line → line = .blank ∨ ∃ c, line = .command c) (p : Progress)
    (rows : List Csv.Row) : p.resultOf (row :: blank :: rows) = p.resultOf (row :: rows) := by
  rw [resultOf_cons, resultOf_cons]
  cases hfeed : p.feed row with
  | error _ => rfl
  | ok q =>
      have hq : q.resultOf (blank :: rows) = q.resultOf rows := by
        rw [resultOf_blank hblank, closed_of_idle (idle_of_feed h hfeed)]
      exact hq

theorem resultOf_blank_before {row blank : Csv.Row} (hblank : IsBlankRow blank)
    (h : ∀ line, Line.ofRow row = .ok line → line.closesGroup = true) (p : Progress)
    (rows : List Csv.Row) : p.resultOf (blank :: row :: rows) = p.resultOf (row :: rows) := by
  rw [resultOf_blank hblank, resultOf_cons, resultOf_cons, feed_closed h]

theorem resultOf_gap {before after : List Csv.Row} {blank : Csv.Row} (hblank : IsBlankRow blank)
    (h : Gap before after) :
    ({} : Progress).resultOf (before ++ blank :: after) = ({} : Progress).resultOf (before ++ after) := by
  cases h with
  | first after => rw [List.nil_append, resultOf_blank hblank, closed_of_idle rfl, List.nil_append]
  | last before =>
      refine resultOf_congr (fun p => ?_) before {}
      rw [resultOf_blank hblank]
      rfl
  | afterBlank before after hrow =>
      rw [List.append_assoc, List.append_assoc]
      exact resultOf_congr (fun p => resultOf_blank_after hblank
        (fun _ hline => .inl (eq_blank_of_isBlank hrow hline)) p after) before {}
  | beforeBlank before after hrow =>
      refine resultOf_congr (fun p => resultOf_blank_before hblank (fun line hline => ?_) p after) before {}
      rw [eq_blank_of_isBlank hrow hline]
      rfl
  | afterCommand before after hrow =>
      rw [List.append_assoc, List.append_assoc]
      exact resultOf_congr (fun p => resultOf_blank_after hblank
        (fun _ hline => .inr (exists_command_of_mark hrow hline)) p after) before {}
  | beforeHead before after hrow =>
      exact resultOf_congr (fun p => resultOf_blank_before hblank
        (fun _ hline => closesGroup_of_isHead hrow hline) p after) before {}

end Progress

/-! ## Templates -/

/-- The second template is the first with a row or blank fields put into it that say nothing there. -/
inductive Fills : List Csv.Row → List Csv.Row → Prop
  | silent (header : Csv.Row) (before after : List Csv.Row) {row : Csv.Row} (h : IsSilent row) :
    Fills (header :: (before ++ after)) (header :: (before ++ row :: after))
  | blank (header : Csv.Row) {before after : List Csv.Row} (hgap : Gap before after) {row : Csv.Row}
    (h : IsBlankRow row) : Fills (header :: (before ++ after)) (header :: (before ++ row :: after))
  | padded (before after : List Csv.Row) {row : Csv.Row} {count : Nat}
    (h : row.fields.length + count ≤ maxFields) :
    Fills (before ++ row :: after) (before ++ row.padded count :: after)

theorem parse_of_fills {rows others : List Csv.Row} (h : Fills rows others) : parse rows = parse others := by
  cases h with
  | silent header before after hrow =>
      rw [parse_cons, parse_cons]
      exact (Progress.resultOf_congr (fun p => p.resultOf_silent hrow after) before {}).symm
  | blank header hgap hrow =>
      rw [parse_cons, parse_cons, Progress.resultOf_gap hrow hgap]
  | padded before after hrow =>
      cases before with
      | nil => exact parse_eq_of_tail rfl
      | cons header before =>
          rw [List.cons_append, List.cons_append, parse_cons, parse_cons]
          exact (Progress.resultOf_congr (fun p => p.resultOf_padded hrow after) before {}).symm

/-- Templates that come of each other by putting in and taking out what says nothing say the same, and have
the same fault on the same line. -/
theorem parse_of_eqvGen_fills {rows others : List Csv.Row} (h : Relation.EqvGen Fills rows others) :
    parse rows = parse others := by
  induction h with
  | rel _ _ hfills => exact parse_of_fills hfills
  | refl _ => rfl
  | symm _ _ _ ih => exact ih.symm
  | trans _ _ _ _ _ hleft hright => exact hleft.trans hright

/-- A comment and a row without use stand in a group, blank rows around it, and a row of the group is padded;
the sort key that occurs again is at fault where it was. -/
theorem parse_of_eqvGen_fills_group :
    let rows : List Csv.Row := [⟨1, ["Label", "Property"]⟩, ⟨2, ["_SORT", "a"]⟩, ⟨3, ["Group"]⟩,
      ⟨4, ["", "a"]⟩, ⟨5, ["_SORT", "a"]⟩]
    let filled : List Csv.Row := [⟨1, ["Label", "Property"]⟩, ⟨2, ["_SORT", "a"]⟩, ⟨12, ["", ""]⟩,
      ⟨3, ["Group"]⟩, ⟨13, ["# a", "b", "c", "d", "e"]⟩, ⟨4, ["", "a", "", ""]⟩, ⟨14, ["", "", "", "e"]⟩,
      ⟨15, []⟩, ⟨5, ["_SORT", "a"]⟩]
    Relation.EqvGen Fills rows filled ∧ parse filled = parse rows ∧
      parse filled = .error (.repeatedSortKey 5 "a") := by
  intro rows filled
  let header : Csv.Row := ⟨1, ["Label", "Property"]⟩
  let sort : Csv.Row := ⟨2, ["_SORT", "a"]⟩
  let group : Csv.Row := ⟨3, ["Group"]⟩
  let item : Csv.Row := ⟨4, ["", "a"]⟩
  let again : Csv.Row := ⟨5, ["_SORT", "a"]⟩
  let note : Csv.Row := ⟨13, ["# a", "b", "c", "d", "e"]⟩
  let useless : Csv.Row := ⟨14, ["", "", "", "e"]⟩
  have hpadded : Fills rows [header, sort, group, item.padded 2, again] :=
    .padded [header, sort, group] [again] (by decide)
  have hcomment : Fills [header, sort, group, item.padded 2, again]
      [header, sort, group, note, item.padded 2, again] :=
    .silent header [sort, group] [item.padded 2, again] (.inl (by decide))
  have huseless : Fills [header, sort, group, note, item.padded 2, again]
      [header, sort, group, note, item.padded 2, useless, again] :=
    .silent header [sort, group, note, item.padded 2] [again] (.inr (by decide))
  have hbefore : Fills [header, sort, group, note, item.padded 2, useless, again]
      [header, sort, group, note, item.padded 2, useless, ⟨15, []⟩, again] :=
    .blank header (.beforeHead [sort, group, note, item.padded 2, useless] [] (.inl (by decide)))
      ⟨by decide, by decide⟩
  have hafter : Fills [header, sort, group, note, item.padded 2, useless, ⟨15, []⟩, again] filled :=
    .blank header (.afterCommand [] [group, note, item.padded 2, useless, ⟨15, []⟩, again] (by decide))
      ⟨by decide, by decide⟩
  have hfills : Relation.EqvGen Fills rows filled :=
    .trans _ _ _ (.rel _ _ hpadded) <| .trans _ _ _ (.rel _ _ hcomment) <|
      .trans _ _ _ (.rel _ _ huseless) <| .trans _ _ _ (.rel _ _ hbefore) (.rel _ _ hafter)
  have hsame : parse rows = parse filled := parse_of_eqvGen_fills hfills
  exact ⟨hfills, hsame.symm, hsame.symm.trans rfl⟩

end Template
end RecordReport
