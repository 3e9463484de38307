import RecordReport.Proofs.Csv.EmptyLines

/-!
# What stands before a record

With empty lines kept, the rows after the first depend on the fields of the records and on what stands in
the file before them. What stands before a record is found by a reader that has no need of positions.
-/

namespace RecordReport.Csv

/-! ## Cells -/

/-- The cell of a field, empty if the field is no text. -/
def cellOf (field : Bytes) : String :=
  match Text.decode (Text.trimBy isAsciiBlank field) with
  | .ok text => Text.cell text
  | .error _ => ""

theorem cells_of_decodeRecords {ordinal : Nat} {rs : List RawRecord} {decoded : List Decoded}
    (h : decodeRecords ordinal rs = .ok decoded) {d : Decoded} (hd : d ∈ decoded) :
    d.cells = d.raw.fields.map cellOf := by
  obtain ⟨k, hcells⟩ := exists_decodeFields_of_mem h hd
  have hmap : d.raw.fields.map cellOf = d.cells.map id := by
    refine map_eq_of_forall₂ (forall₂_of_decodeFields hcells) ?_
    rintro field cell ⟨text, htext, rfl⟩
    rw [cellOf, htext]
    rfl
  rw [hmap, List.map_id]

/-! ## Rows -/

/-- A record with the bytes of the file before its first byte. -/
structure Placed where
  before : Bytes
  fields : List Bytes

namespace Placed

/-- The line on which the record begins. -/
def line (p : Placed) : Nat := 1 + lineBreaks p.before

/-- The row of the record, after those of the empty lines before it. -/
def rows (p : Placed) : List Row :=
  emptyRows p.line (lineBreaks (trailingBreaks p.before) - 1) ++ [⟨p.line, p.fields.map cellOf⟩]

end Placed

/-- The records after some bytes. -/
def placedOf (taken : Bytes) : List RawRecord → List Placed
  | [] => []
  | r :: rs => ⟨taken ++ r.lead, r.fields⟩ :: placedOf (taken ++ r.source) rs

theorem isBreak_lineFeed : ∀ b ∈ ([10] : Bytes), isBreak b = true := List.forall_mem_singleton.mpr rfl

theorem trailingBreaks_append_breaks (bytes : Bytes) {gap : Bytes} (h : ∀ b ∈ gap, isBreak b = true) :
    trailingBreaks (bytes ++ gap) = trailingBreaks bytes ++ gap := by
  rw [trailingBreaks, List.reverse_append, List.takeWhile_append_of_pos (by simpa using h),
    List.reverse_append, List.reverse_reverse]
  rfl

theorem trailingBreaks_append_content (bytes : Bytes) {body : Bytes}
    (h : ∃ b ∈ body, isBreak b = false) : trailingBreaks (bytes ++ body) = trailingBreaks body := by
  obtain ⟨b, hb, hcontent⟩ := h
  have hstop : (body.reverse.takeWhile isBreak).length ≠ body.reverse.length := by
    intro hlength
    have hall := (List.takeWhile_prefix isBreak).eq_of_length hlength
    rw [List.takeWhile_eq_self_iff.mp hall b (List.mem_reverse.mpr hb)] at hcontent
    cases hcontent
  rw [trailingBreaks, trailingBreaks, List.reverse_append, List.takeWhile_append, if_neg hstop]

theorem content_body {r : RawRecord} (h : r.HasContent) : ∃ b ∈ r.body, isBreak b = false := by
  obtain ⟨b, rest, hbody, hb⟩ := exists_body_eq_cons h
  exact ⟨b, by simp [hbody], hb⟩

/-- The rows after a record. -/
theorem rowsAfter_eq (taken : Bytes) {r : RawRecord} (hr : r.HasContent) {ds : List Decoded}
    (hds : ∀ d ∈ ds, d.raw.HasContent ∧ d.cells = d.raw.fields.map cellOf) :
    rowsAfter (1 + lineBreaks taken) r.body ds =
      (placedOf (taken ++ r.body) (ds.map Decoded.raw)).flatMap Placed.rows := by
  induction ds generalizing taken r with
  | nil => rfl
  | cons d ds ih =>
      obtain ⟨⟨hd, hcells⟩, hds⟩ := List.forall_mem_cons.mp hds
      have hgap : trailingBreaks (taken ++ r.body ++ d.raw.lead) = trailingBreaks r.body ++ d.raw.lead := by
        rw [trailingBreaks_append_breaks _ fun _ => d.raw.isBreak_of_mem_lead,
          trailingBreaks_append_content _ (content_body hr)]
      have hsource : taken ++ r.body ++ d.raw.source = taken ++ r.body ++ d.raw.lead ++ d.raw.body := by
        rw [List.append_assoc _ d.raw.lead, lead_append_body]
      rw [rowsAfter, line_rowsAfter (RawRecord.body_ne_nil hr) (RawRecord.head_body hr), ih _ hd hds,
        List.map_cons, placedOf, List.flatMap_cons, Placed.rows, Placed.line, hgap, hsource, hcells,
        emptyLinesBetween]
      simp

theorem tail_keepingRows {ds : List Decoded}
    (hds : ∀ d ∈ ds, d.raw.HasContent ∧ d.cells = d.raw.fields.map cellOf) :
    (keepingRows ds).tail = (placedOf [] (ds.map Decoded.raw)).tail.flatMap Placed.rows := by
  cases ds with
  | nil => rfl
  | cons d ds =>
      obtain ⟨⟨hd, -⟩, hds⟩ := List.forall_mem_cons.mp hds
      rw [keepingRows, List.tail_cons, rowsAfter_eq _ hd hds, lead_append_body, List.map_cons, placedOf,
        List.tail_cons, List.nil_append]

/-! ## A reader without positions -/

theorem recordStart_of_step_skip {s : State} {symbol : Symbol}
    (h : s.step symbol = .skip .recordStart) : s = .recordStart := by
  cases s <;> cases symbol <;> simp_all [State.step]

theorem isBreak_of_step_skip {s : State} {b : UInt8}
    (h : s.step (Symbol.ofByte b) = .skip .recordStart) : isBreak b = true := by
  have hsymbol : Symbol.ofByte b = .carriageReturn ∨ Symbol.ofByte b = .lineFeed := by
    cases s <;> cases hb : Symbol.ofByte b <;> simp_all [State.step]
  grind [Symbol.ofByte, isBreak]

theorem ne_recordStart_of_step_keep {s next : State} {symbol : Symbol}
    (h : s.step symbol = .keep next) : next ≠ .recordStart := by
  rintro rfl
  cases s <;> cases symbol <;> simp_all [State.step]

theorem ne_recordStart_of_step_endRecord {s : State} {symbol : Symbol}
    (h : s.step symbol = .endRecord) : s ≠ .recordStart := by
  rintro rfl
  cases symbol <;> simp_all [State.step]

/-- A record that is not complete, and the bytes before it. -/
structure Current where
  before : Bytes := []
  /-- The bytes of the record. -/
  taken : Bytes := []
  fields : List Bytes := []
  field : Bytes := []

namespace Current

/-- A byte that belongs to no field. It is not in the record either if the record has not begun after it. -/
def skip (c : Current) (next : State) (b : UInt8) : Current :=
  if next = .recordStart then { c with before := c.before ++ [b] }
  else { c with taken := c.taken ++ [b] }

def keep (c : Current) (b : UInt8) : Current :=
  { c with taken := c.taken ++ [b], field := c.field ++ [b] }

def endField (c : Current) (b : UInt8) : Current :=
  { c with taken := c.taken ++ [b], fields := c.fields ++ [c.field], field := [] }

def placed (c : Current) : Placed := ⟨c.before, c.fields ++ [c.field]⟩

/-- Before the record after the one that a byte ends. -/
def next (c : Current) (b : UInt8) : Current := { before := c.before ++ c.taken ++ [b] }

end Current

/-- The records of the bytes that follow. -/
def placedFrom (s : State) (c : Current) : Bytes → List Placed
  | [] => if s = .recordStart then [] else [c.placed]
  | b :: rest =>
    match s.step (Symbol.ofByte b) with
    | .skip next => placedFrom next (c.skip next b) rest
    | .keep next => placedFrom next (c.keep b) rest
    | .endField => placedFrom .fieldStart (c.endField b) rest
    | .endRecord => c.placed :: placedFrom .recordStart (c.next b) rest

/-- The byte order mark that belongs to no field. -/
def markOf (file : Bytes) : Bytes := if markBytes.isPrefixOf file then markBytes else []

/-- The records of a file. -/
def placed (file : Bytes) : List Placed :=
  placedFrom .recordStart { before := markOf file } (file.drop (markOf file).length)

theorem markOf_append_drop (file : Bytes) : markOf file ++ file.drop (markOf file).length = file := by
  rw [markOf]
  split
  · rename_i hmark
    obtain ⟨rest, rfl⟩ := List.isPrefixOf_iff_prefix.mp hmark
    rw [List.drop_left]
  · rfl

theorem placed_eq {mark rest : Bytes} (h : markOf (mark ++ rest) = mark) :
    placed (mark ++ rest) = placedFrom .recordStart { before := mark } rest := by
  rw [placed, h, List.drop_left]

/-! ### Both readers -/

namespace Current

/-- The two readers have the same fields. -/
structure Reads (c : Current) (read : Partial) : Prop where
  fields : read.fields.reverse = c.fields
  field : read.field.reverse = c.field

namespace Reads

variable {c : Current} {read : Partial}

theorem fresh (p : Position) (before : Bytes) : Reads { before := before } (.fresh p) := ⟨rfl, rfl⟩

theorem skip (h : c.Reads read) (next : State) (b : UInt8) : (c.skip next b).Reads (read.skip b) := by
  rw [Current.skip]
  split <;> exact ⟨h.fields, h.field⟩

theorem keep (h : c.Reads read) (b : UInt8) : (c.keep b).Reads (read.keep b) :=
  ⟨h.fields, by simp [Partial.keep, Current.keep, h.field]⟩

theorem endField (h : c.Reads read) (b : UInt8) : (c.endField b).Reads (read.skip b).endField :=
  ⟨by simp [Partial.skip, Partial.endField, Current.endField, h.fields, h.field], rfl⟩

theorem finish (h : c.Reads read) : read.finish.fields = c.placed.fields := by
  simp [Partial.finish, Partial.endField, placed, h.fields, h.field]

end Reads

/-- The record begins after the bytes taken by records before it and some breaks. -/
structure Begins (c : Current) (taken : Bytes) (read : Partial) (s : State) : Prop where
  gap : ∃ gap, (∀ b ∈ gap, isBreak b = true) ∧ read.source.reverse = gap ++ c.taken ∧
    c.before = taken ++ gap
  taken_eq_nil : c.taken = [] ↔ s = .recordStart
  head : ∀ b, c.taken.head? = some b → isBreak b = false

namespace Begins

variable {c c' : Current} {taken : Bytes} {read read' : Partial} {s next : State} {b : UInt8}

theorem fresh (taken : Bytes) (p : Position) :
    Begins { before := taken } taken (.fresh p) .recordStart :=
  ⟨⟨[], by simp, rfl, by simp⟩, by simp, by simp⟩

theorem drop (h : c.Begins taken read .recordStart) (hb : isBreak b = true) :
    (c.skip .recordStart b).Begins taken (read.skip b) .recordStart := by
  obtain ⟨gap, hgap, hsource, hbefore⟩ := h.gap
  have hnil : c.taken = [] := h.taken_eq_nil.mpr rfl
  rw [Current.skip, if_pos rfl]
  refine ⟨⟨gap ++ [b], ?_, ?_, ?_⟩, h.taken_eq_nil, h.head⟩
  · exact List.forall_mem_append.mpr ⟨hgap, List.forall_mem_singleton.mpr hb⟩
  · simp [Partial.skip, hsource, hnil]
  · simp [hbefore]

/-- A byte that is not dropped is one of the record. -/
theorem take (h : c.Begins taken read s) (hb : s.step (Symbol.ofByte b) ≠ .skip .recordStart)
    (hnext : next ≠ .recordStart) (hread : read'.source = b :: read.source)
    (hbefore : c'.before = c.before) (htaken : c'.taken = c.taken ++ [b]) :
    c'.Begins taken read' next := by
  obtain ⟨gap, hgap, hsource, heq⟩ := h.gap
  refine ⟨⟨gap, hgap, ?_, hbefore.trans heq⟩, by simp [htaken, hnext], ?_⟩
  · rw [hread, List.reverse_cons, hsource, htaken, List.append_assoc]
  · intro first hfirst
    rw [htaken] at hfirst
    cases hc : c.taken with
    | nil =>
        obtain rfl : b = first := by simpa [hc] using hfirst
        rw [h.taken_eq_nil.mp hc] at hb
        by_contra hbreak
        exact hb (step_recordStart_of_isBreak (by simpa using hbreak))
    | cons c cs =>
        refine h.head first ?_
        simpa [hc] using hfirst

/-- The breaks before the record are those with which its source begins. -/
theorem before_eq (h : c.Begins taken read s) (hs : s ≠ .recordStart) {r : RawRecord} {rest : Bytes}
    (hr : r.source = read.source.reverse ++ rest) : taken ++ r.lead = c.before := by
  obtain ⟨gap, hgap, hsource, hbefore⟩ := h.gap
  obtain ⟨b, bytes, hbytes⟩ := List.exists_cons_of_ne_nil fun hnil => hs (h.taken_eq_nil.mp hnil)
  have hb := h.head b (by simp [hbytes])
  have hlead : r.lead = gap := by
    rw [RawRecord.lead, hr, hsource, hbytes, List.append_assoc,
      List.takeWhile_append_of_pos hgap, List.cons_append, List.takeWhile_cons_of_neg (by simp [hb]),
      List.append_nil]
  rw [hlead, hbefore]

end Begins
end Current

/-- The records are found where they are. -/
theorem placedOf_recordsFrom {s : State} {read : Partial} {c : Current} {taken : Bytes}
    (h : c.Reads read) (hbegins : c.Begins taken read s) (bytes : Bytes) :
    placedOf taken (recordsFrom s read bytes) = placedFrom s c bytes := by
  -- Both invariants are kept by a byte. At the end of a record they hold afresh, with more bytes taken.
  induction bytes generalizing s read c taken with
  | nil =>
      rw [recordsFrom, placedFrom]
      split
      · rfl
      · rename_i hs
        have hsource : read.finish.source = read.source.reverse ++ [] := by simp [Partial.finish]
        rw [placedOf, placedOf, hbegins.before_eq hs hsource, h.finish]
        rfl
  | cons b bytes ih =>
      rw [recordsFrom, placedFrom]
      cases hstep : s.step (Symbol.ofByte b) with
      | skip next =>
          refine ih (h.skip next b) ?_
          by_cases hnext : next = .recordStart
          · subst hnext
            obtain rfl := recordStart_of_step_skip hstep
            exact hbegins.drop (isBreak_of_step_skip hstep)
          · refine hbegins.take (by simp [hstep, hnext]) hnext rfl ?_ ?_ <;>
              simp [Current.skip, hnext]
      | keep next =>
          have hnext := ne_recordStart_of_step_keep hstep
          exact ih (h.keep b) (hbegins.take (by simp [hstep]) hnext rfl rfl rfl)
      | endField =>
          exact ih (h.endField b) (hbegins.take (by simp [hstep]) (by simp) rfl rfl rfl)
      | endRecord =>
          have hs := ne_recordStart_of_step_endRecord hstep
          have hsource : (read.skip b).finish.source = read.source.reverse ++ [b] := by
            simp [Partial.skip, Partial.finish]
          have hnext : c.next b = { before := taken ++ (read.skip b).finish.source } := by
            obtain ⟨gap, -, hread, hbefore⟩ := hbegins.gap
            simp [Current.next, hsource, hread, hbefore]
          have hfields : (read.skip b).finish.fields = c.placed.fields := h.finish
          simp only [placedOf]
          rw [hbegins.before_eq hs hsource, hfields, hnext]
          exact congrArg _ (ih (.fresh _ _) (.fresh _ _))

/-- After the first record both readers agree, whatever is skipped before it. -/
theorem tail_placedOf_recordsFrom {s : State} {read : Partial} {c : Current} {taken : Bytes}
    (h : c.Reads read) (htaken : taken ++ read.source.reverse = c.before ++ c.taken)
    (hstart : s = .recordStart → c.taken = []) (bytes : Bytes) :
    (placedOf taken (recordsFrom s read bytes)).map Placed.fields =
        (placedFrom s c bytes).map Placed.fields ∧
      (placedOf taken (recordsFrom s read bytes)).tail = (placedFrom s c bytes).tail := by
  -- The source may begin with the byte order mark, which is no break. So it is not known where the lead
  -- of the first record ends, and `Begins` holds from the end of that record only.
  induction bytes generalizing s read c with
  | nil =>
      rw [recordsFrom, placedFrom]
      split
      · exact ⟨rfl, rfl⟩
      · exact ⟨congrArg (fun fields => [fields]) h.finish, rfl⟩
  | cons b bytes ih =>
      rw [recordsFrom, placedFrom]
      cases hstep : s.step (Symbol.ofByte b) with
      | skip next =>
          by_cases hnext : next = .recordStart
          · subst hnext
            have hnil := hstart (recordStart_of_step_skip hstep)
            rw [hnil, List.append_nil] at htaken
            exact ih (h.skip _ b) (by simp [Partial.skip, Current.skip, hnil, ← htaken]) fun _ => hnil
          · refine ih (h.skip next b) ?_ fun hs => absurd hs hnext
            simp [Partial.skip, Current.skip, hnext, ← htaken, ← List.append_assoc]
      | keep next =>
          refine ih (h.keep b) ?_ fun hs => absurd hs (ne_recordStart_of_step_keep hstep)
          simp [Partial.keep, Partial.skip, Current.keep, ← htaken, ← List.append_assoc]
      | endField =>
          refine ih (h.endField b) ?_ fun hs => absurd hs (by simp)
          simp [Partial.skip, Partial.endField, Current.endField, ← htaken, ← List.append_assoc]
      | endRecord =>
          have hnext : c.next b = { before := taken ++ (read.skip b).finish.source } := by
            simp [Current.next, Partial.skip, Partial.finish, ← htaken]
          have hrest := placedOf_recordsFrom (.fresh (read.skip b).here _)
            (.fresh (taken ++ (read.skip b).finish.source) _) bytes
          have hfields : (read.skip b).finish.fields = c.placed.fields := h.finish
          simp only [placedOf]
          rw [hrest, hnext]
          exact ⟨congrArg (· :: _) hfields, rfl⟩

/-- The records of a file are where they are found without positions. What stands before the first is not
told from the byte order mark. -/
theorem tail_placedOf_records (file : Bytes) :
    (placedOf [] (records file)).map Placed.fields = (placed file).map Placed.fields ∧
      (placedOf [] (records file)).tail = (placed file).tail := by
  rw [records, placed, markOf]
  split
  · exact tail_placedOf_recordsFrom ⟨rfl, rfl⟩ rfl (fun _ => rfl) _
  · exact tail_placedOf_recordsFrom (.fresh _ _) rfl (fun _ => rfl) _

theorem placed_eq_nil_iff {file : Bytes} : placed file = [] ↔ records file = [] := by
  have hfields := congrArg List.length (tail_placedOf_records file).1
  rw [List.length_map, List.length_map] at hfields
  rw [← List.length_eq_zero_iff, ← hfields, List.length_eq_zero_iff]
  cases records file <;> simp [placedOf]

/-- The rows of the records after the first. -/
def laterRows (file : Bytes) : List Row := (placed file).tail.flatMap Placed.rows

theorem tail_of_readRows_keep {file : Bytes} {rows : List Row} (h : readRows .keep file = .ok rows) :
    rows.tail = laterRows file := by
  obtain ⟨decoded, hdecoded, rfl⟩ := exists_of_map_eq_ok h
  have hds : ∀ d ∈ decoded, d.raw.HasContent ∧ d.cells = d.raw.fields.map cellOf := fun d hd =>
    ⟨(hasContent_of_decodeRecords hdecoded d hd).1, cells_of_decodeRecords hdecoded hd⟩
  rw [laterRows, ← (tail_placedOf_records file).2, ← raws_of_decodeRecords hdecoded]
  exact tail_keepingRows hds

end RecordReport.Csv
