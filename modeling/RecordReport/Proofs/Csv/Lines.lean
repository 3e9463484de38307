import Mathlib.Data.List.TakeWhile
import RecordReport.Proofs.Results
import RecordReport.Table.Load

/-!
# Where rows stand

The records are consecutive pieces of the file. A row that is read with empty lines dropped has the line
on which the read of its record began, which is not always the line on which the record begins.
-/

namespace RecordReport.Csv

/-! ## Consecutive records -/

/-- The records are consecutive pieces of the bytes after a position. Each holds more than line
breaks. -/
inductive Pieces : Position → Bytes → List RawRecord → Prop where
  | nil (p : Position) (rest : Bytes) : Pieces p rest []
  | cons {r : RawRecord} {rest : Bytes} {rs : List RawRecord}
    (hcontent : ∃ b ∈ r.source, isBreak b = false)
    (h : Pieces (r.source.foldl Position.advance r.start) rest rs) :
    Pieces r.start (r.source ++ rest) (r :: rs)

/-- A read in progress stands after what it has taken, and once a record has begun that is more than line
breaks. -/
structure Partial.WellFormed (read : Partial) (state : State) : Prop where
  here : read.here = read.source.reverse.foldl Position.advance read.start
  content : state ≠ .recordStart → ∃ b ∈ read.source, isBreak b = false

theorem step_recordStart_of_isBreak {b : UInt8} (h : isBreak b = true) :
    State.recordStart.step (Symbol.ofByte b) = .skip .recordStart := by
  have hb : b = 10 ∨ b = 13 := by simpa [isBreak] using h
  rcases hb with rfl | rfl <;> rfl

namespace Partial.WellFormed

variable {read : Partial} {state : State}

theorem fresh (p : Position) : (Partial.fresh p).WellFormed .recordStart :=
  ⟨rfl, fun h => absurd rfl h⟩

theorem here_skip (h : read.WellFormed state) (b : UInt8) :
    (read.skip b).here = (read.skip b).source.reverse.foldl Position.advance (read.skip b).start := by
  simp [Partial.skip, h.here]

/-- Unless a byte is dropped before a record, there is content once it has been taken. -/
theorem content_skip (h : read.WellFormed state) {b : UInt8}
    (hb : state.step (Symbol.ofByte b) ≠ .skip .recordStart) :
    ∃ c ∈ (read.skip b).source, isBreak c = false := by
  by_cases hs : state = .recordStart
  · subst hs
    refine ⟨b, List.mem_cons_self, ?_⟩
    by_contra hbreak
    exact hb (step_recordStart_of_isBreak (by simpa using hbreak))
  · obtain ⟨c, hc, hcontent⟩ := h.content hs
    exact ⟨c, List.mem_cons_of_mem _ hc, hcontent⟩

end Partial.WellFormed

/-- What is read is what has been taken and what follows, piece by piece. -/
theorem pieces_recordsFrom {state : State} {read : Partial} (h : read.WellFormed state)
    (bytes : Bytes) :
    Pieces read.start (read.source.reverse ++ bytes) (recordsFrom state read bytes) := by
  induction bytes generalizing state read with
  | nil =>
      rw [recordsFrom]
      split
      · exact .nil _ _
      · rename_i hs
        exact .cons (r := read.finish) (by simpa [Partial.finish] using h.content hs) (.nil _ _)
  | cons b bytes ih =>
      have hsource : read.source.reverse ++ b :: bytes = (read.skip b).source.reverse ++ bytes := by
        simp [Partial.skip]
      rw [recordsFrom, hsource]
      cases hstep : state.step (Symbol.ofByte b) with
      | skip next =>
          refine ih ⟨h.here_skip b, fun hnext => h.content_skip ?_⟩
          simpa [hstep] using hnext
      | keep next =>
          have hkeep : (read.keep b).WellFormed next :=
            ⟨h.here_skip b, fun _ => h.content_skip (by simp [hstep])⟩
          exact ih hkeep
      | endField =>
          have hend : (read.skip b).endField.WellFormed .fieldStart :=
            ⟨h.here_skip b, fun _ => h.content_skip (by simp [hstep])⟩
          exact ih hend
      | endRecord =>
          have hcontent := h.content_skip (b := b) (by simp [hstep])
          have hhere : (read.skip b).finish.source.foldl Position.advance (read.skip b).finish.start =
              (read.skip b).here := (h.here_skip b).symm
          refine .cons (r := (read.skip b).finish) (by simpa [Partial.finish] using hcontent) ?_
          rw [hhere]
          exact ih (.fresh _)

/-- The records of a file are consecutive pieces of it. -/
theorem pieces_records (file : Bytes) : Pieces .start file (records file) := by
  rw [records]
  split
  · rename_i hmark
    obtain ⟨rest, rfl⟩ := List.isPrefixOf_iff_prefix.mp hmark
    have h : (markBytes.foldl Partial.skip (.fresh .start)).WellFormed .recordStart :=
      ⟨rfl, fun hs => absurd rfl hs⟩
    exact pieces_recordsFrom h rest
  · exact pieces_recordsFrom (.fresh .start) file

/-- What stands before a record, and where. -/
theorem Pieces.split {p : Position} {bytes : Bytes} {before after : List RawRecord} {r : RawRecord}
    (h : Pieces p bytes (before ++ r :: after)) :
    ∃ rest, bytes = before.flatMap RawRecord.source ++ r.source ++ rest ∧
      r.start = (before.flatMap RawRecord.source).foldl Position.advance p ∧
      ∃ b ∈ r.source, isBreak b = false := by
  induction before generalizing p bytes with
  | nil =>
      cases h with
      | @cons r rest _ hcontent _ => exact ⟨rest, rfl, rfl, hcontent⟩
  | cons first before ih =>
      cases h with
      | cons _ h =>
          obtain ⟨rest, rfl, hstart, hcontent⟩ := ih h
          exact ⟨rest, by simp, by simp [hstart], hcontent⟩

theorem lead_append_body (r : RawRecord) : r.lead ++ r.body = r.source :=
  List.takeWhile_append_dropWhile

/-- A record with content has a first byte, which is no break. -/
theorem exists_body_eq_cons {r : RawRecord} (h : ∃ b ∈ r.source, isBreak b = false) :
    ∃ b rest, r.body = b :: rest ∧ isBreak b = false := by
  obtain ⟨c, hc, hcontent⟩ := h
  cases hbody : r.body with
  | nil => simpa [hcontent] using List.dropWhile_eq_nil_iff.mp hbody c hc
  | cons b rest =>
      have hb := List.head?_dropWhile_not isBreak r.source
      rw [← RawRecord.body, hbody] at hb
      exact ⟨b, rest, rfl, hb⟩

/-! ## Line breaks -/

/-- The number of carriage returns without a line feed after them. -/
def loneReturns : Bytes → Nat
  | [] => 0
  | b :: rest => (if b = 13 && rest.head? != some 10 then 1 else 0) + loneReturns rest

theorem lineBreaks_eq (bytes : Bytes) : lineBreaks bytes = bytes.count 10 + loneReturns bytes := by
  induction bytes with
  | nil => rfl
  | cons b bytes ih =>
      rw [lineBreaks, loneReturns, List.count_cons, ih]
      by_cases hb : b = 10
      · subst hb
        simp
        omega
      · simp [hb]
        omega

theorem line_foldl_advance (p : Position) (bytes : Bytes) :
    (bytes.foldl Position.advance p).line = p.line + bytes.count 10 := by
  induction bytes generalizing p with
  | nil => rfl
  | cons b bytes ih =>
      rw [List.foldl_cons, ih, List.count_cons, Position.advance]
      by_cases hb : b = 10
      · simp [hb]
        omega
      · simp [hb]

/-- The line on which a record begins, one more than the number of breaks before its first byte. -/
def firstLine (earlier : List RawRecord) (r : RawRecord) : Nat :=
  1 + lineBreaks (earlier.flatMap RawRecord.source ++ r.lead)

/-! ## Rows -/

theorem raws_of_decodeRecords {ordinal : Nat} {rs : List RawRecord} {decoded : List Decoded}
    (h : decodeRecords ordinal rs = .ok decoded) : decoded.map Decoded.raw = rs := by
  induction rs generalizing ordinal decoded with
  | nil =>
      cases h
      rfl
  | cons r rs ih =>
      obtain ⟨cells, hcells, h⟩ := exists_of_bind_eq_ok h
      obtain ⟨others, hothers, h⟩ := exists_of_bind_eq_ok h
      cases h
      rw [List.map_cons, ih hothers]

theorem lines_of_readRows_skip {file : Bytes} {rows : List Row} (h : readRows .skip file = .ok rows) :
    rows.map Row.line = (records file).map fun r => r.start.line := by
  obtain ⟨decoded, hdecoded, rfl⟩ := exists_of_map_eq_ok h
  simp [← raws_of_decodeRecords hdecoded, skippingRows]

/-- A row that is read with empty lines dropped has a line that counts line feeds only, and of those only
what earlier records have taken. It is the line on which the record begins exactly if no carriage return
stands alone before the record and no line feed directly before it has been left to it. -/
theorem line_of_readRows_skip {file : Bytes} {rows before after : List Row} {row : Row}
    (h : readRows .skip file = .ok rows) (hrow : rows = before ++ row :: after) :
    ∃ earlier r later b rest, records file = earlier ++ r :: later ∧
      earlier.length = before.length ∧
      file = earlier.flatMap RawRecord.source ++ r.lead ++ b :: rest ∧ isBreak b = false ∧
      row.line = 1 + (earlier.flatMap RawRecord.source).count 10 ∧
      (row.line = firstLine earlier r ↔
        loneReturns (earlier.flatMap RawRecord.source ++ r.lead) = 0 ∧ r.lead.count 10 = 0) := by
  have hlines := lines_of_readRows_skip h
  rw [hrow, List.map_append, List.map_cons, eq_comm, List.map_eq_append_iff] at hlines
  obtain ⟨earlier, others, hsplit, hearlier, hothers⟩ := hlines
  obtain ⟨r, later, rfl, hr, -⟩ := List.map_eq_cons_iff.mp hothers
  have hpieces := pieces_records file
  rw [hsplit] at hpieces
  obtain ⟨rest, hfile, hstart, hcontent⟩ := hpieces.split
  obtain ⟨b, body, hbody, hb⟩ := exists_body_eq_cons hcontent
  have hline : row.line = 1 + (earlier.flatMap RawRecord.source).count 10 := by
    rw [← hr, hstart, line_foldl_advance]
    rfl
  refine ⟨earlier, r, later, b, body ++ rest, hsplit, ?_, ?_, hb, hline, ?_⟩
  · simpa using congrArg List.length hearlier
  · rw [hfile, ← lead_append_body r, hbody]
    simp
  · rw [hline, firstLine, lineBreaks_eq, List.count_append]
    omega

/-- A line feed, then an empty line between two carriage returns with their line feeds. -/
theorem line_of_readRows_skip_mixed :
    let file := Text.encode "a\n1\r\n\r\n2"
    let row : Row := ⟨2, ["2"]⟩
    readRows .skip file = .ok ([⟨1, ["a"]⟩, ⟨2, ["1"]⟩] ++ row :: []) ∧
      ∃ earlier r later b rest, records file = earlier ++ r :: later ∧ earlier.length = 2 ∧
        file = earlier.flatMap RawRecord.source ++ r.lead ++ b :: rest ∧ isBreak b = false ∧
        row.line = 1 + (earlier.flatMap RawRecord.source).count 10 ∧
        (row.line = firstLine earlier r ↔
          loneReturns (earlier.flatMap RawRecord.source ++ r.lead) = 0 ∧ r.lead.count 10 = 0) := by
  intro file row
  have h : readRows .skip file = .ok ([⟨1, ["a"]⟩, ⟨2, ["1"]⟩] ++ row :: []) := by rfl
  exact ⟨h, line_of_readRows_skip h rfl⟩

/-- The line feed after a carriage return is left to the next record, which is reported a line early
unless empty lines are kept. -/
theorem line_of_readRows_skip_return :
    let file := Text.encode "a,b\r\n1,2,3\r\n"
    let rows : List Row := [⟨1, ["a", "b"]⟩, ⟨1, ["1", "2", "3"]⟩]
    readRows .skip file = .ok rows ∧
      readRows .keep file = .ok [⟨1, ["a", "b"]⟩, ⟨2, ["1", "2", "3"]⟩] ∧
      Table.load rows = .error (.rowTooWide 1 2 3) ∧
      ∃ earlier r, records file = [earlier, r] ∧ firstLine [earlier] r = 2 := by
  intro file rows
  refine ⟨by rfl, by rfl, by rfl, _, _, by rfl, by rfl⟩

end RecordReport.Csv
