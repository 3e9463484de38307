import RecordReport.Proofs.Template.Layout
import RecordReport.Table.Load

/-!
# A byte order mark before a text

A mark at the very beginning of a file is taken together with the first record and belongs to no field. It
moves every byte after it and no line, and the two readings tell lines, not bytes.
-/

namespace RecordReport

/-- The text with a byte order mark before it. -/
def Text.withMark (text : String) : String := byteOrderMark.toString ++ text

theorem Text.encode_withMark (text : String) : encode (withMark text) = Csv.markBytes ++ encode text := by
  rw [withMark, encode_append]
  rfl

namespace Csv

theorem isPrefixOf_encode {text : String} (h : text.toList.head? ≠ some Text.byteOrderMark) :
    markBytes.isPrefixOf (Text.encode text) = false := by
  by_contra hmark
  obtain ⟨cs, hcs⟩ := exists_cons_of_mark (Bool.of_not_eq_false hmark)
  exact h (by rw [hcs]; rfl)

/-! ## With empty lines dropped -/

/-- The row of a record. -/
def RawRecord.row (r : RawRecord) : Row := ⟨r.start.line, r.fields.map cellOf⟩

theorem rows_of_readRows_skip {file : Bytes} {rows : List Row} (h : readRows .skip file = .ok rows) :
    rows = (records file).map RawRecord.row := by
  obtain ⟨decoded, hdecoded, rfl⟩ := exists_of_map_eq_ok h
  rw [← raws_of_decodeRecords hdecoded, List.map_map]
  refine List.map_congr_left fun d hd => ?_
  rw [cells_of_decodeRecords hdecoded hd]
  rfl

/-- The reads have the same fields and stand on the same lines, whatever bytes were taken. -/
structure Partial.Alike (read other : Partial) : Prop where
  start : read.start.line = other.start.line
  here : read.here.line = other.here.line
  fields : read.fields = other.fields
  field : read.field = other.field

namespace Partial.Alike

variable {read other : Partial}

theorem fresh {p q : Position} (h : p.line = q.line) : (Partial.fresh p).Alike (.fresh q) :=
  ⟨h, h, rfl, rfl⟩

theorem skip (h : read.Alike other) (b : UInt8) : (read.skip b).Alike (other.skip b) :=
  ⟨h.start, by simp [Partial.skip, Position.advance, h.here], h.fields, h.field⟩

theorem keep (h : read.Alike other) (b : UInt8) : (read.keep b).Alike (other.keep b) :=
  ⟨h.start, (h.skip b).here, h.fields, congrArg (b :: ·) h.field⟩

theorem endField (h : read.Alike other) : read.endField.Alike other.endField :=
  ⟨h.start, h.here, by rw [Partial.endField, Partial.endField, h.fields, h.field], rfl⟩

theorem row_finish (h : read.Alike other) : read.finish.row = other.finish.row := by
  rw [Partial.finish, Partial.finish, RawRecord.row, RawRecord.row, h.start, h.endField.fields]

end Partial.Alike

theorem rows_recordsFrom {read other : Partial} (h : read.Alike other) (s : State) (bytes : Bytes) :
    (recordsFrom s read bytes).map RawRecord.row = (recordsFrom s other bytes).map RawRecord.row := by
  -- Every byte keeps the reads alike, and a record that ends leaves two fresh reads on one line.
  induction bytes generalizing s read other with
  | nil =>
      rw [recordsFrom, recordsFrom]
      split
      · rfl
      · exact congrArg (fun row => [row]) h.row_finish
  | cons b bytes ih =>
      rw [recordsFrom, recordsFrom]
      cases s.step (Symbol.ofByte b) with
      | skip next => exact ih (h.skip b) next
      | keep next => exact ih (h.keep b) next
      | endField => exact ih (h.skip b).endField .fieldStart
      | endRecord =>
          simp only [List.map_cons]
          rw [(h.skip b).row_finish, ih (.fresh (h.skip b).here) .recordStart]

theorem rows_records_mark {file : Bytes} (h : markBytes.isPrefixOf file = false) :
    (records (markBytes ++ file)).map RawRecord.row = (records file).map RawRecord.row := by
  have hmark : markBytes.isPrefixOf (markBytes ++ file) = true := rfl
  have halike : (markBytes.foldl Partial.skip (.fresh .start)).Alike (.fresh .start) := ⟨rfl, rfl, rfl, rfl⟩
  rw [records, if_pos hmark, records, h]
  exact rows_recordsFrom halike .recordStart file

theorem readRows_skip_withMark {text : String} (h : text.toList.head? ≠ some Text.byteOrderMark) :
    readRows .skip (Text.encode (Text.withMark text)) = readRows .skip (Text.encode text) := by
  obtain ⟨rows, hrows⟩ := exists_readRows .skip text
  obtain ⟨others, hothers⟩ := exists_readRows .skip (Text.withMark text)
  rw [hrows, hothers, rows_of_readRows_skip hrows, rows_of_readRows_skip hothers, Text.encode_withMark,
    rows_records_mark (isPrefixOf_encode h)]

/-! ## With empty lines kept -/

theorem lineBreaks_mark (bytes : Bytes) : lineBreaks (markBytes ++ bytes) = lineBreaks bytes := by
  have hapart : Apart markBytes bytes := Or.inl (by decide)
  rw [lineBreaks_append hapart]
  exact Nat.zero_add _

theorem rows_after_mark {p : Placed} (hp : ∃ b ∈ p.before, isBreak b = false) :
    (p.after markBytes).rows = p.rows := by
  simp only [Placed.rows, Placed.line, Placed.after]
  rw [lineBreaks_mark, trailingBreaks_append_content _ hp]

theorem laterRows_mark {file : Bytes} (h : markBytes.isPrefixOf file = false) :
    laterRows (markBytes ++ file) = laterRows file := by
  have hfile : placed file = placedFrom .recordStart {} file := by
    have hnone : markOf ([] ++ file) = [] := by rw [List.nil_append, markOf, h]; rfl
    exact placed_eq hnone
  have hmarked : placed (markBytes ++ file) = (placed file).map (Placed.after markBytes) := by
    rw [placed_eq rfl, placedFrom_recordStart, hfile]
  -- What stands before the first record is not told from the mark, but the first row is left out.
  rw [laterRows, laterRows, hmarked, hfile]
  rcases placedFrom_cases file with hnil | ⟨gap, fields, ps, hcons, -, hps⟩
  · rw [hnil]
    rfl
  · rw [hcons, List.map_cons, List.tail_cons, List.tail_cons, List.flatMap_map]
    exact List.flatMap_congr fun p hp => rows_after_mark (hps p hp)

end Csv

theorem Template.parseText_mark {text : String} (h : text.toList.head? ≠ some Text.byteOrderMark) :
    parseText (Text.withMark text) = parseText text := by
  refine parseText_eq_of_laterRows ?_
  rw [Text.encode_withMark, Csv.laterRows_mark (Csv.isPrefixOf_encode h)]

/-- A byte order mark before a text changes neither the table nor the specification that is read from it, nor
the error. -/
theorem reads_withMark {text : String} (h : text.toList.head? ≠ some Text.byteOrderMark) :
    (∃ rows, rowsOf .skip (Text.encode text) = .ok rows ∧
      rowsOf .skip (Text.encode (Text.withMark text)) = .ok rows) ∧
      (rowsOf .skip (Text.encode (Text.withMark text)) >>= Table.load) =
        (rowsOf .skip (Text.encode text) >>= Table.load) ∧
      Template.parseText (Text.withMark text) = Template.parseText text := by
  have hsame : rowsOf .skip (Text.encode (Text.withMark text)) = rowsOf .skip (Text.encode text) := by
    rw [rowsOf, rowsOf, Csv.readRows_skip_withMark h]
  obtain ⟨rows, hrows⟩ := Csv.exists_readRows .skip text
  have hok : rowsOf .skip (Text.encode text) = .ok rows := by
    rw [rowsOf, hrows]
    rfl
  exact ⟨⟨rows, hok, hsame.trans hok⟩, by rw [hsame], Template.parseText_mark h⟩

/-- An empty line, then a header whose first field is quoted and holds a line break. -/
theorem reads_withMark_quoted :
    let text := "\n\"La\nbel\",Property\n\n_SORT\n"
    let table : Table := ⟨["La\nbel", "Property"], [⟨1, 4, [("La\nbel", "_SORT"), ("Property", "")]⟩]⟩
    text.toList.head? ≠ some Text.byteOrderMark ∧
      (rowsOf .skip (Text.encode (Text.withMark text)) >>= Table.load) = .ok table ∧
      Template.parseText (Text.withMark text) = .error (.missingParameter 5 "_SORT") := by
  intro text table
  have hstart : text.toList.head? ≠ some Text.byteOrderMark := by decide
  have htable : (rowsOf .skip (Text.encode text) >>= Table.load) = .ok table := by rfl
  have hfault : Template.parseText text = .error (.missingParameter 5 "_SORT") := by rfl
  obtain ⟨-, hload, hparse⟩ := reads_withMark hstart
  exact ⟨hstart, hload.trans htable, hparse.trans hfault⟩

end RecordReport
