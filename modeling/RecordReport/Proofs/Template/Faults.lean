import Mathlib.Data.List.Induction
import RecordReport.Proofs.Template.Reading

/-!
# What is wrong with a template

A row fails by itself or because it repeats a sort key. The first row that fails decides the reading; if
none does, only an identifier can be missing.
-/

namespace RecordReport.Template

/-- The property of a sort command. -/
def sortKey? (row : Csv.Row) : Option String :=
  match Line.ofRow row with
  | .ok (.command (.sort property)) => some property
  | _ => none

/-- The error of a row that comes after some others. -/
def faultAt (before : List Csv.Row) (row : Csv.Row) : Option Error :=
  match Line.ofRow row with
  | .error e => some e
  | .ok (.command (.sort property)) =>
    if property ∈ before.filterMap sortKey? then some (.repeatedSortKey row.line property) else none
  | .ok _ => none

/-- No row fails after the rows before it. -/
def Faultless (rows : List Csv.Row) : Prop :=
  ∀ before row after, rows = before ++ row :: after → faultAt before row = none

/-- A row names an identifier or holds a property that can stand in for one. -/
def identifies (row : Csv.Row) : Bool :=
  match Line.ofRow row with
  | .ok (.item _) | .ok (.command (.hide _)) | .ok (.command (.identifier _)) => true
  | _ => false

/-! ## The line of a fault -/

/-- If there is no result, the error is on this line. -/
def Blames {α : Type} (line : Nat) (result : Except Error α) : Prop :=
  ∀ e, result = .error e → e.line? = some line

namespace Blames

variable {α β : Type} {line : Nat}

theorem ok (a : α) : Blames line (.ok a) := by
  intro e h
  cases h

theorem error {e : Error} (h : e.line? = some line) : Blames line (.error e : Except Error α) := by
  intro e' he
  cases he
  exact h

theorem bind {x : Except Error α} {f : α → Except Error β} (hx : Blames line x)
    (hf : ∀ a, Blames line (f a)) : Blames line (x >>= f) := by
  cases x with
  | error e => exact .error (hx e rfl)
  | ok a => exact hf a

theorem map {x : Except Error α} (f : α → β) (hx : Blames line x) : Blames line (x.map f) := by
  cases x with
  | error e => exact .error (hx e rfl)
  | ok a => exact .ok (f a)

end Blames

theorem blames_parameter (row : Csv.Row) : Blames row.line (parameter row) := by
  rw [parameter]
  split
  · exact .error rfl
  · exact .ok _

theorem blames_enumerationOf (row : Csv.Row) : Blames row.line (enumerationOf row) := by
  rw [enumerationOf]
  cases Enumeration.parse (row.field 2) with
  | error _ => exact .error rfl
  | ok enumeration => exact .ok enumeration

theorem blames_mentionOf (row : Csv.Row) : Blames row.line (mentionOf row) :=
  (blames_parameter row).bind fun _ => (blames_enumerationOf row).bind fun _ => .ok _

theorem blames_enableNames (line : Nat) (v : Visibility) (names : List String) :
    Blames line (enableNames line v names) := by
  induction names generalizing v with
  | nil => exact .ok v
  | cons name names ih =>
      rw [enableNames]
      split
      · exact ih v
      · split
        · exact ih _
        · exact .error rfl

theorem blames_commandOf (row : Csv.Row) : Blames row.line (commandOf row) := by
  have hparameter := blames_parameter row
  have hmention := blames_mentionOf row
  rw [commandOf]
  cases CommandName.ofToken? (row.field 0) with
  | none => exact .error rfl
  | some name =>
      cases name with
      | title | subtitle | sort | identifier => exact hparameter.map _
      | other | hide => exact hmention.map _
      | sections =>
          exact hparameter.bind fun _ => (blames_enableNames row.line _ _).bind fun _ => .ok _

/-- Whatever is wrong with a row by itself is reported on its line. -/
theorem blames_ofRow (row : Csv.Row) : Blames row.line (Line.ofRow row) := by
  rw [Line.ofRow]
  split
  · exact .ok _
  split
  · exact .error rfl
  split
  · exact (blames_commandOf row).map _
  split
  · exact .ok _
  split
  · exact .ok _
  · exact (blames_enumerationOf row).bind fun _ => .ok _

theorem line?_of_faultAt {before : List Csv.Row} {row : Csv.Row} {e : Error}
    (h : faultAt before row = some e) : e.line? = some row.line := by
  unfold faultAt at h
  split at h
  · rename_i hrow
    cases h
    exact blames_ofRow row _ hrow
  · split at h
    · cases h; rfl
    · cases h
  · cases h

/-! ## Rows without a fault -/

theorem sortKeysOf_cons (line : Line) (lines : List Line) :
    sortKeysOf (line :: lines) = (line.command?.bind Command.sortKey?).toList ++ sortKeysOf lines := by
  cases line with
  | command c => cases c <;> rfl
  | _ => rfl

@[simp] theorem sortKeysOf_nil : sortKeysOf [] = [] := rfl

theorem sortKeysOf_append (lines others : List Line) :
    sortKeysOf (lines ++ others) = sortKeysOf lines ++ sortKeysOf others := by
  simp [sortKeysOf, commandsOf]

/-- Classified rows have the sort keys of their lines. -/
theorem filterMap_sortKey? {rows : List Csv.Row} {lines : List Line} (h : Classified rows lines) :
    rows.filterMap sortKey? = sortKeysOf lines := by
  induction h with
  | nil => rfl
  | @cons row line rows lines hrow _ ih =>
      have hkey : sortKey? row = line.command?.bind Command.sortKey? := by
        rw [sortKey?, hrow]
        cases line with
        | command c => cases c <;> rfl
        | _ => rfl
      rw [sortKeysOf_cons, ← ih]
      cases hk : sortKey? row <;> rw [hkey] at hk <;> simp [hk, hkey]

theorem faultAt_eq_none_iff {before : List Csv.Row} {row : Csv.Row} :
    faultAt before row = none ↔ ∃ line, Line.ofRow row = .ok line ∧
      ∀ key ∈ line.command?.bind Command.sortKey?, key ∉ before.filterMap sortKey? := by
  rw [faultAt]
  cases hrow : Line.ofRow row with
  | error _ => simp
  | ok line =>
      cases line with
      | command c => cases c <;> simp [Line.command?, Command.sortKey?]
      | _ => simp [Line.command?]

theorem faultless_concat {rows : List Csv.Row} {row : Csv.Row} :
    Faultless (rows ++ [row]) ↔ Faultless rows ∧ faultAt rows row = none := by
  constructor
  · intro h
    refine ⟨fun before r after hsplit => h before r (after ++ [row]) (by simp [hsplit]), ?_⟩
    exact h rows row [] rfl
  · rintro ⟨hrows, hrow⟩ before r after hsplit
    cases after using List.reverseRecOn with
    | nil =>
        obtain ⟨rfl, hr⟩ := List.append_inj' hsplit rfl
        cases hr
        exact hrow
    | append_singleton after last _ =>
        rw [← List.cons_append, ← List.append_assoc] at hsplit
        exact hrows before r after (List.append_inj' hsplit rfl).1

/-- The first row that fails, if any does. -/
theorem exists_fault_of_not_faultless {rows : List Csv.Row} (h : ¬Faultless rows) :
    ∃ before row after e, rows = before ++ row :: after ∧ Faultless before ∧
      faultAt before row = some e := by
  induction rows using List.reverseRecOn with
  | nil => exact absurd (fun before row after hsplit => by simp at hsplit) h
  | append_singleton rows row ih =>
      by_cases hrows : Faultless rows
      · cases hfault : faultAt rows row with
        | none => exact absurd (faultless_concat.mpr ⟨hrows, hfault⟩) h
        | some e => exact ⟨rows, row, [], e, rfl, hrows, hfault⟩
      · obtain ⟨before, first, after, e, rfl, hbefore, hfault⟩ := ih hrows
        exact ⟨before, first, after ++ [row], e, by simp, hbefore, hfault⟩

theorem Classified.split {before after : List Csv.Row} {row : Csv.Row} {lines : List Line}
    (h : Classified (before ++ row :: after) lines) :
    ∃ ls line rest, lines = ls ++ line :: rest ∧ Classified before ls ∧ Line.ofRow row = .ok line := by
  induction before generalizing lines with
  | nil =>
      cases h with
      | cons hrow _ => exact ⟨[], _, _, rfl, .nil, hrow⟩
  | cons first before ih =>
      cases h with
      | cons hfirst hrest =>
          obtain ⟨ls, line, rest, rfl, hls, hrow⟩ := ih hrest
          exact ⟨_ :: ls, line, rest, rfl, .cons hfirst hls, hrow⟩

/-- Rows are without a fault exactly if they can be classified and name no sort key twice. -/
theorem faultless_iff {rows : List Csv.Row} :
    Faultless rows ↔ ∃ lines, Classified rows lines ∧ (sortKeysOf lines).Nodup := by
  constructor
  · intro h
    induction rows using List.reverseRecOn with
    | nil => exact ⟨[], .nil, List.nodup_nil⟩
    | append_singleton rows row ih =>
        obtain ⟨hrows, hrow⟩ := faultless_concat.mp h
        obtain ⟨lines, hlines, hn⟩ := ih hrows
        obtain ⟨line, hline, hkey⟩ := faultAt_eq_none_iff.mp hrow
        rw [filterMap_sortKey? hlines] at hkey
        refine ⟨lines ++ [line], List.rel_append hlines (.cons hline .nil), ?_⟩
        rw [sortKeysOf_append, sortKeysOf_cons, sortKeysOf_nil, List.append_nil]
        cases hk : line.command?.bind Command.sortKey? with
        | none => simpa using hn
        | some key =>
            rw [Option.toList_some, ← List.concat_eq_append, List.nodup_concat]
            exact ⟨hkey key hk, hn⟩
  · rintro ⟨lines, hlines, hn⟩ before row after rfl
    obtain ⟨ls, line, rest, rfl, hls, hrow⟩ := hlines.split
    refine faultAt_eq_none_iff.mpr ⟨line, hrow, fun key hkey hmem => ?_⟩
    rw [filterMap_sortKey? hls] at hmem
    rw [sortKeysOf_append, sortKeysOf_cons, List.nodup_append] at hn
    exact hn.2.2 key hmem key (List.mem_append_left _ (Option.mem_toList.mpr hkey)) rfl

/-! ## Reading up to a fault -/

/-- After rows without a fault the draft has their sort keys. -/
theorem exists_feedAll_of_faultless {rows : List Csv.Row} (h : Faultless rows) :
    ∃ p, ({} : Progress).feedAll rows = (p, none) ∧
      p.draft.sortKeys = rows.filterMap sortKey? := by
  obtain ⟨lines, hlines, hn⟩ := faultless_iff.mp h
  have hdraft := putAll_effectsFrom lines
  obtain ⟨p, hp, hcomplete⟩ := Progress.feedAll_of_classified (p := {}) hlines (by rwa [hdraft])
  refine ⟨p, hp, ?_⟩
  rw [filterMap_sortKey? hlines, ← p.closing_sortKeys, ← p.complete_eq, hcomplete, hdraft]

theorem applyAll_closing_sort {d : Draft} {g : Grouping} {line : Nat} {property : String}
    (h : property ∈ d.sortKeys) :
    d.applyAll line (g.closing ++ [.command (.sort property)]) =
      .error (.repeatedSortKey line property) := by
  cases g <;>
    simp [Grouping.closing, Grouping.close, Draft.applyAll, Draft.apply, Draft.add, bind,
      Except.bind, h]

theorem feed_of_faultAt {p : Progress} {before : List Csv.Row} {row : Csv.Row} {e : Error}
    (hkeys : p.draft.sortKeys = before.filterMap sortKey?) (h : faultAt before row = some e) :
    p.feed row = .error e := by
  unfold faultAt at h
  unfold Progress.feed
  split at h
  · rename_i hrow
    cases h
    rw [hrow]
    rfl
  · rename_i property hrow
    split at h
    · rename_i hmem
      cases h
      rw [← hkeys] at hmem
      simp [hrow, Grouping.advance, applyAll_closing_sort hmem, bind, Except.bind]
    · cases h
  · cases h

theorem feedAll_of_fault {p q : Progress} {before after : List Csv.Row} {row : Csv.Row} {e : Error}
    (hbefore : p.feedAll before = (q, none)) (hrow : q.feed row = .error e) :
    p.feedAll (before ++ row :: after) = (q, some e) := by
  induction before generalizing p with
  | nil =>
      cases hbefore
      rw [List.nil_append, Progress.feedAll, hrow]
  | cons first before ih =>
      rw [Progress.feedAll] at hbefore
      rw [List.cons_append, Progress.feedAll]
      cases hfirst : p.feed first with
      | error _ => simp [hfirst] at hbefore
      | ok next =>
          rw [hfirst] at hbefore
          exact ih hbefore

/-- The first row that fails ends the reading with its error, whatever comes after it. -/
theorem parse_of_fault {header row : Csv.Row} {before : List Csv.Row} {e : Error}
    (hbefore : Faultless before) (h : faultAt before row = some e) (after : List Csv.Row) :
    parse (header :: (before ++ row :: after)) = .error e := by
  obtain ⟨p, hp, hkeys⟩ := exists_feedAll_of_faultless hbefore
  have hread : ({} : Progress).feedAll (before ++ row :: after) = (p, some e) :=
    feedAll_of_fault hp (feed_of_faultAt hkeys h)
  simp only [parse, read, List.tail_cons, hread]

/-! ## Rows without a fault that lack an identifier -/

theorem identifies_eq_false_iff {row : Csv.Row} {line : Line} (h : Line.ofRow row = .ok line) :
    identifies row = false ↔
      line.command?.bind Command.identifier? = none ∧ line.identifying? = none := by
  rw [identifies, h]
  cases line with
  | command c => cases c <;> simp [Line.command?, Command.identifier?, Line.identifying?]
  | _ => simp [Line.command?, Line.identifying?]

theorem identifiersOf_eq_nil {lines : List Line} :
    identifiersOf lines = [] ↔ ∀ line ∈ lines,
      line.command?.bind Command.identifier? = none ∧ line.identifying? = none := by
  have hnamed : (commandsOf lines).filterMap Command.identifier? = [] ↔
      ∀ line ∈ lines, line.command?.bind Command.identifier? = none := by
    rw [commandsOf, List.filterMap_filterMap, List.filterMap_eq_nil_iff]
  have hstandIn : lines.findSome? Line.identifying? = none ↔
      ∀ line ∈ lines, line.identifying? = none := List.findSome?_eq_none_iff
  rw [forall₂_and, ← hnamed, ← hstandIn, identifiersOf]
  cases (commandsOf lines).filterMap Command.identifier? <;> simp

theorem identifiersOf_eq_nil_iff {rows : List Csv.Row} {lines : List Line}
    (h : Classified rows lines) :
    identifiersOf lines = [] ↔ ∀ row ∈ rows, identifies row = false := by
  rw [identifiersOf_eq_nil]
  induction h with
  | nil => simp
  | cons hrow _ ih =>
      rw [List.forall_mem_cons, List.forall_mem_cons, identifies_eq_false_iff hrow]
      exact and_congr_right' ih

theorem parse_of_faultless {rows : List Csv.Row} (h : Faultless rows.tail) :
    (∀ e, parse rows = .error e → e = .noIdentifier) ∧
      (parse rows = .error .noIdentifier ↔ ∀ row ∈ rows.tail, identifies row = false) := by
  obtain ⟨lines, hlines, hn⟩ := faultless_iff.mp h
  rw [parse_of_classified hlines hn, ← identifiersOf_eq_nil_iff hlines]
  split
  · rename_i hnone
    refine ⟨fun e he => ?_, by simp [hnone]⟩
    cases he
    rfl
  · rename_i hsome
    refine ⟨fun e he => ?_, by simp [hsome]⟩
    cases he

/-- The first row that fails decides, on its own line, and nothing after it matters. If no row fails, an
identifier is missing exactly if no row names one or can stand in for one. -/
theorem parse_first_fault (rows : List Csv.Row) :
    (¬Faultless rows.tail → ∃ before row after e, rows.tail = before ++ row :: after ∧
      Faultless before ∧ faultAt before row = some e ∧ parse rows = .error e ∧
      e.line? = some row.line ∧
      ∀ header after', parse (header :: (before ++ row :: after')) = .error e) ∧
    (Faultless rows.tail → (∀ e, parse rows = .error e → e = .noIdentifier) ∧
      (parse rows = .error .noIdentifier ↔ ∀ row ∈ rows.tail, identifies row = false)) := by
  refine ⟨fun h => ?_, parse_of_faultless⟩
  obtain ⟨before, row, after, e, hsplit, hbefore, hfault⟩ := exists_fault_of_not_faultless h
  refine ⟨before, row, after, e, hsplit, hbefore, hfault, ?_, line?_of_faultAt hfault,
    fun _ after' => parse_of_fault hbefore hfault after'⟩
  cases rows with
  | nil => simp at hsplit
  | cons header rows =>
      obtain rfl : rows = before ++ row :: after := hsplit
      exact parse_of_fault hbefore hfault after

/-- A sort key that closes a group and occurs again comes before a row of too many fields; a group
without members and a comment lack an identifier. -/
theorem parse_first_fault_sort :
    let rows : List Csv.Row := [⟨1, []⟩, ⟨2, ["_SORT", "a"]⟩, ⟨4, ["Group"]⟩, ⟨5, ["_SORT", "a"]⟩,
      ⟨7, ["", "b", "", "", "", ""]⟩]
    let lacking : List Csv.Row := [⟨1, ["", "a"]⟩, ⟨2, ["Group"]⟩, ⟨3, ["#", "a", "", "", "", ""]⟩]
    (¬Faultless rows.tail ∧ ∃ before row after e, rows.tail = before ++ row :: after ∧
      Faultless before ∧ faultAt before row = some e ∧ parse rows = .error e ∧
      e.line? = some row.line ∧
      ∀ header after', parse (header :: (before ++ row :: after')) = .error e) ∧
    (Faultless lacking.tail ∧ parse lacking = .error .noIdentifier) := by
  intro rows lacking
  have hrows : ¬Faultless rows.tail := by
    intro h
    have hnone := h [⟨2, ["_SORT", "a"]⟩, ⟨4, ["Group"]⟩] ⟨5, ["_SORT", "a"]⟩ _ rfl
    cases hnone
  have hlacking : Faultless lacking.tail := by
    have hlines : Classified lacking.tail [.groupStart "Group", .comment] :=
      .cons rfl (.cons rfl .nil)
    exact faultless_iff.mpr ⟨_, hlines, List.nodup_nil⟩
  refine ⟨⟨hrows, (parse_first_fault rows).1 hrows⟩, hlacking, ?_⟩
  exact ((parse_first_fault lacking).2 hlacking).2.mpr (by decide)

end RecordReport.Template
