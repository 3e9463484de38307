import Mathlib.Data.List.DropRight
import Mathlib.Data.List.Forall2
import RecordReport.Proofs.Results
import RecordReport.Table.Load

/-!
# Loaded tables

Rows are a table exactly if the first one names distinct columns and none of the others reaches past
them. The records are the rows with content, numbered one after the other.
-/

namespace RecordReport

/-- What holds of every table that was loaded. -/
structure Table.WellFormed (table : Table) : Prop where
  properties_nodup : table.properties.Nodup
  ids_eq : table.records.map Record.id = List.range' 1 table.records.length

/-! ## The content of a row -/

namespace Csv.Row

/-- A field at an index or past it is not empty. -/
def Reaches (row : Row) (n : Nat) : Prop := ∃ i, n ≤ i ∧ row.field i ≠ ""

theorem content_eq_rdropWhile (row : Row) : row.content = row.fields.rdropWhile (· == "") := rfl

theorem exists_fields_eq (row : Row) :
    ∃ blanks, row.fields = row.content ++ blanks ∧ ∀ b ∈ blanks, b = "" := by
  refine ⟨row.fields.rtakeWhile (· == ""), ?_, fun b hb => ?_⟩
  · rw [content_eq_rdropWhile, List.rdropWhile_append_rtakeWhile]
  · simpa using List.mem_rtakeWhile_imp hb

theorem content_getLast_ne {row : Row} (h : row.content ≠ []) : row.content.getLast h ≠ "" := by
  have hlast := List.rdropWhile_last_not (· == "") row.fields h
  exact fun hempty => hlast (beq_iff_eq.mpr hempty)

theorem field_eq_of_width_le {row : Row} {i : Nat} (h : row.width ≤ i) : row.field i = "" := by
  obtain ⟨blanks, hfields, hblanks⟩ := row.exists_fields_eq
  rw [field, hfields, List.getElem?_append_right h]
  cases hb : blanks[i - row.content.length]? with
  | none => rfl
  | some b => exact hblanks b (List.mem_of_getElem? hb)

theorem field_pred_width_ne {row : Row} (h : 0 < row.width) : row.field (row.width - 1) ≠ "" := by
  obtain ⟨blanks, hfields, -⟩ := row.exists_fields_eq
  have hne : row.content ≠ [] := List.length_pos_iff.mp h
  have hlt : row.width - 1 < row.content.length := Nat.sub_lt h Nat.one_pos
  have hlast : row.fields[row.width - 1]? = some (row.content.getLast hne) := by
    rw [hfields, List.getElem?_append_left hlt, List.getLast_eq_getElem, List.getElem?_eq_getElem hlt]
    rfl
  rw [field, hlast]
  exact content_getLast_ne hne

/-- The width is where the content ends. -/
theorem lt_width_iff {row : Row} {n : Nat} : n < row.width ↔ row.Reaches n := by
  constructor
  · intro h
    exact ⟨row.width - 1, by omega, field_pred_width_ne (by omega)⟩
  · rintro ⟨i, hi, hfield⟩
    by_contra h
    exact hfield (field_eq_of_width_le (by omega))

theorem isBlank_eq_true_iff {row : Row} : row.isBlank = true ↔ ¬∃ f ∈ row.fields, f ≠ "" := by
  simp [isBlank]

theorem reaches_of_mem {row : Row} {f : String} (hf : f ∈ row.fields) (hne : f ≠ "") :
    ∃ i, row.field i ≠ "" := by
  obtain ⟨i, hi⟩ := List.getElem?_of_mem hf
  exact ⟨i, by rw [field, hi]; exact hne⟩

/-! ## Headers -/

/-- The row names these columns, and any further field is blank. -/
structure IsHeader (row : Row) (names : List String) : Prop where
  ne_nil : names ≠ []
  named : ∀ name ∈ names, name ≠ ""
  nodup : names.Nodup
  blanks : ∃ blanks, row.fields = names ++ blanks ∧ ∀ b ∈ blanks, b = ""

theorem IsHeader.content_eq {row : Row} {names : List String} (h : row.IsHeader names) :
    row.content = names := by
  obtain ⟨blanks, hfields, hblanks⟩ := h.blanks
  have hlast : ∀ name, names.reverse.head? = some name → (name == "") = false := by
    intro name hname
    rw [List.head?_reverse] at hname
    exact beq_eq_false_iff_ne.mpr (h.named name (List.mem_of_getLast? hname))
  rw [content, hfields, List.reverse_append, List.dropWhile_append_of_pos (by simpa using hblanks)]
  cases hnames : names.reverse with
  | nil => exact absurd (List.reverse_eq_nil_iff.mp hnames) h.ne_nil
  | cons name rest =>
      rw [List.dropWhile_cons, hlast name (by rw [hnames]; rfl)]
      simp [← hnames]

end Csv.Row

/-- No member has occurred before if the members are distinct and new. -/
theorem firstRepeat?_eq_none_iff {α : Type} [DecidableEq α] {seen xs : List α} {i : Nat} :
    firstRepeat? seen i xs = none ↔ xs.Nodup ∧ ∀ x ∈ xs, x ∉ seen := by
  induction xs generalizing seen i with
  | nil => simp [firstRepeat?]
  | cons x xs ih =>
      rw [firstRepeat?, List.nodup_cons, List.forall_mem_cons]
      by_cases hx : x ∈ seen
      · simp [hx]
      · rw [if_neg hx, ih]
        have hfresh : (∀ y ∈ xs, y ∉ x :: seen) ↔ x ∉ xs ∧ ∀ y ∈ xs, y ∉ seen := by
          constructor
          · intro h
            exact ⟨fun hmem => h x hmem List.mem_cons_self,
              fun y hy hmem => h y hy (List.mem_cons_of_mem _ hmem)⟩
          · rintro ⟨hxs, hseen⟩ y hy (_ | ⟨_, hmem⟩)
            · exact hxs hy
            · exact hseen y hy hmem
        rw [hfresh]
        tauto

theorem headerNames_eq_ok_iff {row : Csv.Row} {names : List String} :
    headerNames (some row) = .ok names ↔ row.IsHeader names := by
  have hunfold : headerNames (some row) = .ok names ↔ row.content ≠ [] ∧
      (∀ name ∈ row.content, name ≠ "") ∧ row.content.Nodup ∧ row.content = names := by
    rw [headerNames]
    cases hempty : row.content.isEmpty with
    | true => simp [List.isEmpty_iff.mp hempty]
    | false =>
        have hne : row.content ≠ [] := by simpa using hempty
        cases hblank : row.content.findIdx? (· == "") with
        | some i =>
            obtain ⟨hi, hname, -⟩ := List.findIdx?_eq_some_iff_getElem.mp hblank
            have hmem : "" ∈ row.content := by
              rw [← beq_iff_eq.mp hname]
              exact List.getElem_mem hi
            simp only [Bool.false_eq_true, if_false, reduceCtorEq, false_iff]
            exact fun h => h.2.1 "" hmem rfl
        | none =>
            have hnamed : ∀ name ∈ row.content, name ≠ "" := by
              simpa using List.findIdx?_eq_none_iff.mp hblank
            cases hrepeat : firstRepeat? [] 0 row.content with
            | some found =>
                have hn : ¬row.content.Nodup := fun hn => by
                  rw [firstRepeat?_eq_none_iff.mpr ⟨hn, by simp⟩] at hrepeat
                  cases hrepeat
                simp [hn]
            | none => simpa [hne, (firstRepeat?_eq_none_iff.mp hrepeat).1] using fun _ => hnamed
  rw [hunfold]
  constructor
  · rintro ⟨hne, hnamed, hn, rfl⟩
    exact ⟨hne, hnamed, hn, row.exists_fields_eq⟩
  · intro h
    rw [h.content_eq]
    exact ⟨h.ne_nil, h.named, h.nodup, rfl⟩

theorem nodup_headerNames {row : Option Csv.Row} {names : List String}
    (h : headerNames row = .ok names) : names.Nodup := by
  cases row with
  | none => cases h
  | some row => exact (headerNames_eq_ok_iff.mp h).nodup

namespace Table

theorem ids_recordsOf {names : List String} {id : Nat} {rows : List Csv.Row}
    {records : List Record} (h : recordsOf names id rows = .ok records) :
    records.map Record.id = List.range' id records.length := by
  induction rows generalizing id records with
  | nil => cases h; rfl
  | cons row rows ih =>
      rw [recordsOf] at h
      split at h
      · cases h
      · split at h
        · exact ih h
        · obtain ⟨rest, hrest, rfl⟩ := exists_of_map_eq_ok h
          rw [List.map_cons, ih hrest, List.length_cons, List.range'_succ]
          rfl

theorem wellFormed_of_load {rows : List Csv.Row} {table : Table} (h : load rows = .ok table) :
    table.WellFormed := by
  rw [load] at h
  split at h
  · cases h
  · rename_i names hnames
    obtain ⟨records, hrecords, rfl⟩ := exists_of_map_eq_ok h
    exact ⟨nodup_headerNames hnames, ids_recordsOf hrecords⟩

theorem WellFormed.ids_nodup {table : Table} (h : table.WellFormed) :
    (table.records.map Record.id).Nodup := by
  rw [h.ids_eq]
  exact List.nodup_range'

end Table

/-! ## The values of a record -/

theorem lookup_mapIdx {names : List String} (hn : names.Nodup) {i : Nat} {name : String}
    (hi : names[i]? = some name) (value : Nat → String) :
    (names.mapIdx fun j n => (n, value j)).lookup name = some (value i) := by
  induction names generalizing i value with
  | nil => cases hi
  | cons first names ih =>
      obtain ⟨hfirst, hnames⟩ := List.nodup_cons.mp hn
      rw [List.mapIdx_cons, List.lookup_cons]
      cases i with
      | zero =>
          obtain rfl : first = name := by simpa using hi
          simp
      | succ i =>
          have hi' : names[i]? = some name := by simpa using hi
          have hne : (name == first) = false := by
            refine beq_eq_false_iff_ne.mpr ?_
            rintro rfl
            exact hfirst (List.mem_of_getElem? hi')
          rw [hne]
          exact ih hnames hi' fun j => value (j + 1)

theorem lookup_mapIdx_of_not_mem {names : List String} {name : String} (h : name ∉ names)
    (value : Nat → String) : (names.mapIdx fun j n => (n, value j)).lookup name = none := by
  rw [List.lookup_eq_none_iff]
  intro entry hentry
  obtain ⟨j, hj, rfl⟩ := List.mem_mapIdx.mp hentry
  rw [bne_iff_ne]
  rintro rfl
  exact h (List.getElem_mem hj)

/-- The record has the row's line and, under each column's name and no other, the row's field. One of
the values is not empty. -/
structure Record.From (names : List String) (row : Csv.Row) (record : Record) : Prop where
  line_eq : record.line = row.line
  column : ∀ i name, names[i]? = some name → record.get? name = some (row.field i)
  other : ∀ name, name ∉ names → record.get? name = none
  content : ∃ name ∈ names, record.value name ≠ ""

namespace Table

theorem from_recordOf {names : List String} (hn : names.Nodup) {row : Csv.Row}
    (hreach : ¬row.Reaches names.length) (hcontent : ∃ f ∈ row.fields, f ≠ "") (id : Nat) :
    (recordOf names id row).From names row := by
  have hcolumn (i : Nat) (name : String) (hi : names[i]? = some name) :
      (recordOf names id row).get? name = some (row.field i) := lookup_mapIdx hn hi row.field
  refine ⟨rfl, hcolumn, fun name hname => lookup_mapIdx_of_not_mem hname row.field, ?_⟩
  obtain ⟨f, hf, hne⟩ := hcontent
  obtain ⟨i, hi⟩ := Csv.Row.reaches_of_mem hf hne
  have hlt : i < names.length := by
    by_contra hge
    exact hreach ⟨i, by omega, hi⟩
  refine ⟨names[i], List.getElem_mem hlt, ?_⟩
  rw [Record.value, hcolumn i names[i] (List.getElem?_eq_getElem hlt)]
  exact hi

/-! ## Rows as a table -/

theorem exists_recordsOf {names : List String} (hn : names.Nodup) {rows : List Csv.Row}
    (h : ∀ row ∈ rows, ¬row.Reaches names.length) (id : Nat) :
    ∃ records, recordsOf names id rows = .ok records ∧
      List.Forall₂ (Record.From names) (rows.filter fun row => ∃ f ∈ row.fields, f ≠ "") records := by
  induction rows generalizing id with
  | nil => exact ⟨[], rfl, .nil⟩
  | cons row rows ih =>
      obtain ⟨hrow, hrows⟩ := List.forall_mem_cons.mp h
      rw [recordsOf, if_neg (Csv.Row.lt_width_iff.not.mpr hrow)]
      cases hblank : row.isBlank with
      | true =>
          rw [List.filter_cons_of_neg (by simpa using Csv.Row.isBlank_eq_true_iff.mp hblank)]
          exact ih hrows id
      | false =>
          have hcontent : ∃ f ∈ row.fields, f ≠ "" := by
            by_contra hnone
            rw [Csv.Row.isBlank_eq_true_iff.mpr hnone] at hblank
            cases hblank
          obtain ⟨records, hrecords, hfrom⟩ := ih hrows (id + 1)
          rw [List.filter_cons_of_pos (by simpa using hcontent)]
          exact ⟨recordOf names id row :: records, by simp [hrecords, Except.map],
            .cons (from_recordOf hn hrow hcontent id) hfrom⟩

/-- The first row that reaches past the columns ends the reading. -/
theorem recordsOf_of_reaches {names : List String} {before after : List Csv.Row} {row : Csv.Row}
    (hbefore : ∀ r ∈ before, ¬r.Reaches names.length) (hrow : row.Reaches names.length) (id : Nat) :
    recordsOf names id (before ++ row :: after) =
      .error (.rowTooWide row.line names.length row.width) := by
  induction before generalizing id with
  | nil => rw [List.nil_append, recordsOf, if_pos (Csv.Row.lt_width_iff.mpr hrow)]
  | cons first before ih =>
      obtain ⟨hfirst, hbefore⟩ := List.forall_mem_cons.mp hbefore
      rw [List.cons_append, recordsOf, if_neg (Csv.Row.lt_width_iff.not.mpr hfirst)]
      split
      · exact ih hbefore id
      · rw [ih hbefore (id + 1)]
        rfl

theorem load_of_isHeader {header : Csv.Row} {names : List String} (h : header.IsHeader names)
    (later : List Csv.Row) :
    load (header :: later) = (recordsOf names 1 later).map (⟨names, ·⟩) := by
  rw [load, List.head?_cons, headerNames_eq_ok_iff.mpr h]
  rfl

theorem load_of_reaches {header row : Csv.Row} {names : List String} {before : List Csv.Row}
    (h : header.IsHeader names) (hbefore : ∀ r ∈ before, ¬r.Reaches names.length)
    (hrow : row.Reaches names.length) (after : List Csv.Row) :
    load (header :: (before ++ row :: after)) =
      .error (.rowTooWide row.line names.length row.width) := by
  rw [load_of_isHeader h, recordsOf_of_reaches hbefore hrow]
  rfl

theorem load_of_not_isHeader {rows : List Csv.Row}
    (h : ¬∃ header later names, rows = header :: later ∧ header.IsHeader names) :
    ∃ fault, load rows = .error (.header fault) := by
  cases rows with
  | nil => exact ⟨.missing, rfl⟩
  | cons header later =>
      cases hnames : headerNames (some header) with
      | error fault => exact ⟨fault, by rw [load, List.head?_cons, hnames]⟩
      | ok names => exact absurd ⟨header, later, names, rfl, headerNames_eq_ok_iff.mp hnames⟩ h

theorem from_of_load {rows : List Csv.Row} {table : Table} (h : load rows = .ok table) :
    ∃ header later, rows = header :: later ∧ header.IsHeader table.properties ∧
      (∀ row ∈ later, ¬row.Reaches table.properties.length) ∧
      List.Forall₂ (Record.From table.properties)
        (later.filter fun row => ∃ f ∈ row.fields, f ≠ "") table.records := by
  by_cases hheader : ∃ header later names, rows = header :: later ∧ header.IsHeader names
  · obtain ⟨header, later, names, rfl, hnames⟩ := hheader
    cases hwide : later.find? fun row => names.length < row.width with
    | none =>
        have hlater : ∀ row ∈ later, ¬row.Reaches names.length := fun row hrow =>
          Csv.Row.lt_width_iff.not.mp (by simpa using List.find?_eq_none.mp hwide row hrow)
        obtain ⟨records, hrecords, hfrom⟩ := exists_recordsOf hnames.nodup hlater 1
        rw [load_of_isHeader hnames, hrecords] at h
        cases h
        exact ⟨header, later, rfl, hnames, hlater, hfrom⟩
    | some row =>
        obtain ⟨hrow, before, after, rfl, hbefore⟩ := List.find?_eq_some_iff_append.mp hwide
        have hnarrow : ∀ r ∈ before, ¬r.Reaches names.length := fun r hr =>
          Csv.Row.lt_width_iff.not.mp (by simpa using hbefore r hr)
        rw [load_of_reaches hnames hnarrow (Csv.Row.lt_width_iff.mp (by simpa using hrow))] at h
        cases h
  · obtain ⟨fault, hfault⟩ := load_of_not_isHeader hheader
    rw [hfault] at h
    cases h

/-- Rows are a table exactly if the first names distinct columns and no other reaches past them. A bad
header is reported on the first line; after a good one the first row that is too wide is reported, with
its width up to the last field that is not empty. A table's records are the later rows with content,
one by one. -/
theorem load_of_rows (rows : List Csv.Row) :
    ((∃ table, load rows = .ok table) ↔ ∃ header later names, rows = header :: later ∧
      header.IsHeader names ∧ ∀ row ∈ later, ¬row.Reaches names.length) ∧
    ((¬∃ header later names, rows = header :: later ∧ header.IsHeader names) →
      ∃ fault, load rows = .error (.header fault) ∧ (LoadError.header fault).line? = some 1) ∧
    (∀ header before row after names, rows = header :: (before ++ row :: after) →
      header.IsHeader names → (∀ r ∈ before, ¬r.Reaches names.length) →
      row.Reaches names.length → ∃ last, row.field last ≠ "" ∧ (∀ i, last < i → row.field i = "") ∧
        load rows = .error (.rowTooWide row.line names.length (last + 1))) ∧
    (∀ table, load rows = .ok table → ∃ header later, rows = header :: later ∧
      header.IsHeader table.properties ∧
      List.Forall₂ (Record.From table.properties)
        (later.filter fun row => ∃ f ∈ row.fields, f ≠ "") table.records ∧
      table.records.map Record.id = List.range' 1 table.records.length) := by
  refine ⟨⟨?_, ?_⟩, fun h => ?_, ?_, fun table h => ?_⟩
  · rintro ⟨table, h⟩
    obtain ⟨header, later, hrows, hheader, hlater, -⟩ := from_of_load h
    exact ⟨header, later, table.properties, hrows, hheader, hlater⟩
  · rintro ⟨header, later, names, rfl, hheader, hlater⟩
    obtain ⟨records, hrecords, -⟩ := exists_recordsOf hheader.nodup hlater 1
    exact ⟨⟨names, records⟩, by rw [load_of_isHeader hheader, hrecords]; rfl⟩
  · obtain ⟨fault, hfault⟩ := load_of_not_isHeader h
    exact ⟨fault, hfault, rfl⟩
  · rintro header before row after names rfl hheader hbefore hrow
    have hwidth : 0 < row.width := Nat.zero_lt_of_lt (Csv.Row.lt_width_iff.mpr hrow)
    refine ⟨row.width - 1, Csv.Row.field_pred_width_ne hwidth, fun i hi => ?_, ?_⟩
    · exact Csv.Row.field_eq_of_width_le (by omega)
    · rw [load_of_reaches hheader hbefore hrow, Nat.sub_add_cancel hwidth]
  · obtain ⟨header, later, hrows, hheader, -, hfrom⟩ := from_of_load h
    exact ⟨header, later, hrows, hheader, hfrom, (wellFormed_of_load h).ids_eq⟩

/-- Blank columns at the end and in between, a short row and a blank one; two rows that are too wide,
and a blank name before another. -/
theorem load_of_rows_padded :
    let padded : List Csv.Row := [⟨1, ["a", "b", "", ""]⟩, ⟨2, ["1"]⟩, ⟨4, ["", "", ""]⟩,
      ⟨5, ["", "2", "", ""]⟩]
    let before : List Csv.Row := [⟨2, ["", "", "", ""]⟩, ⟨3, ["", "x"]⟩]
    let wide : Csv.Row := ⟨4, ["1", "", "", "y", ""]⟩
    let blank : List Csv.Row := [⟨3, ["a", "", "b"]⟩, wide]
    (∃ table, load padded = .ok table) ∧
      (∃ last, wide.field last ≠ "" ∧ (∀ i, last < i → wide.field i = "") ∧
        load (⟨1, ["a", "b"]⟩ :: (before ++ wide :: padded)) = .error (.rowTooWide 4 2 (last + 1))) ∧
      ∃ fault, load blank = .error (.header fault) ∧ (LoadError.header fault).line? = some 1 := by
  intro padded before wide blank
  have hnarrow (row : Csv.Row) (h : row.width ≤ 2) : ¬row.Reaches 2 :=
    Csv.Row.lt_width_iff.not.mp (Nat.not_lt.mpr h)
  have hheader (fields : List String) (n : Nat) (hfields : headerNames (some ⟨n, fields⟩) = .ok ["a", "b"]) :
      Csv.Row.IsHeader ⟨n, fields⟩ ["a", "b"] := headerNames_eq_ok_iff.mp hfields
  refine ⟨(load_of_rows padded).1.mpr ?_, ?_, (load_of_rows blank).2.1 ?_⟩
  · refine ⟨_, _, ["a", "b"], rfl, hheader _ _ rfl, fun row hrow => hnarrow row ?_⟩
    revert row
    decide
  · refine (load_of_rows _).2.2.1 _ before wide padded ["a", "b"] rfl (hheader _ _ rfl)
      (fun row hrow => hnarrow row ?_) (Csv.Row.lt_width_iff.mp (by decide))
    revert row
    decide
  · rintro ⟨header, later, names, hrows, hnames⟩
    obtain ⟨rfl, -⟩ := List.cons.inj hrows
    have h := headerNames_eq_ok_iff.mpr hnames
    cases h

end Table
end RecordReport
