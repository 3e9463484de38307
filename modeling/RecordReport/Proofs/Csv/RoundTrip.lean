import Mathlib.Data.List.Forall2
import Mathlib.Tactic.ByContra
import RecordReport.Csv.Format
import RecordReport.Proofs.Text.Bytes

/-!
# Reading what has been written

Every row that is written is read back as one record with the same fields, whatever characters they
hold, and no empty line appears between two of them.
-/

namespace RecordReport.Csv

/-! ## Taking several bytes at once -/

namespace Partial

/-- A read that has taken more of its source, of which some belongs to the field. -/
def take (r : Partial) (source field : Bytes) : Partial :=
  { r with
    here := source.foldl Position.advance r.here
    source := source.reverse ++ r.source
    field := field.reverse ++ r.field }

@[simp] theorem take_nil (r : Partial) : r.take [] [] = r := rfl

@[simp] theorem take_take (r : Partial) (s f s' f' : Bytes) :
    (r.take s f).take s' f' = r.take (s ++ s') (f ++ f') := by
  simp [take]

theorem skip_eq_take (r : Partial) (b : UInt8) : r.skip b = r.take [b] [] := by
  simp [skip, take]

theorem keep_eq_take (r : Partial) (b : UInt8) : r.keep b = r.take [b] [b] := by
  simp [keep, skip, take]

end Partial

/-! ## Fields -/

/-- The bytes of a field with each quote twice. -/
def doubled (field : Bytes) : Bytes := field.flatMap fun b => if b = 34 then [34, 34] else [b]

/-- The bytes that stand for a field: the field itself, if none of its bytes has a meaning, or the
field in quotes. -/
inductive Stands : Bytes → Bytes → Prop where
  | bare {field : Bytes} (h : ∀ b ∈ field, Symbol.ofByte b = .other) : Stands field field
  | quoted (field : Bytes) : Stands (34 :: doubled field ++ [34]) field

namespace Stands

theorem field_eq_nil {source field : Bytes} (h : Stands source field) (hs : source = []) :
    field = [] := by
  cases h with
  | bare _ => exact hs
  | quoted => simp at hs

/-- No field is written with a line break at either end. -/
theorem ends {source field : Bytes} (h : Stands source field) :
    Text.Ends (isBreak · = false) source := by
  cases h with
  | bare hplain =>
      have hbreak (b : UInt8) (hb : Symbol.ofByte b = .other) : isBreak b = false := by
        grind [Symbol.ofByte, isBreak]
      rintro b (hb | hb)
      · exact hbreak b (hplain b (List.mem_of_head? hb))
      · exact hbreak b (hplain b (List.mem_of_getLast? hb))
  | quoted =>
      rintro b (hb | hb)
      · obtain rfl : 34 = b := by simpa using hb
        rfl
      · rw [List.getLast?_concat] at hb
        cases hb; rfl

end Stands

theorem ofByte_eq_quote {b : UInt8} (h : Symbol.ofByte b = .quote) : b = 34 := by
  grind [Symbol.ofByte]

theorem recordsFrom_bare (r : Partial) {field : Bytes} (rest : Bytes)
    (h : ∀ b ∈ field, Symbol.ofByte b = .other) :
    recordsFrom .bare r (field ++ rest) = recordsFrom .bare (r.take field field) rest := by
  induction field generalizing r with
  | nil => rfl
  | cons b field ih =>
      have hb : Symbol.ofByte b = .other := h b (by simp)
      rw [List.cons_append, recordsFrom]
      simp only [hb, State.step]
      rw [ih _ fun c hc => h c (List.mem_cons_of_mem _ hc), Partial.keep_eq_take, Partial.take_take]
      rfl

theorem recordsFrom_doubled (r : Partial) (field rest : Bytes) :
    recordsFrom .quoted r (doubled field ++ rest) =
      recordsFrom .quoted (r.take (doubled field) field) rest := by
  induction field generalizing r with
  | nil => rfl
  | cons b field ih =>
      by_cases hb : b = 34
      · subst hb
        have hq : Symbol.ofByte 34 = .quote := rfl
        rw [show doubled (34 :: field) = 34 :: 34 :: doubled field from rfl, List.cons_append,
          List.cons_append, recordsFrom]
        simp only [hq, State.step]
        rw [recordsFrom]
        simp only [hq, State.step]
        rw [ih, Partial.keep_eq_take, Partial.skip_eq_take, Partial.take_take, Partial.take_take]
        rfl
      · have hstep : State.quoted.step (Symbol.ofByte b) = .keep .quoted := by
          cases hs : Symbol.ofByte b with
          | quote => exact absurd (ofByte_eq_quote hs) hb
          | comma | carriageReturn | lineFeed | other => rfl
        rw [show doubled (b :: field) = b :: doubled field by simp [doubled, hb], List.cons_append,
          recordsFrom]
        simp only [hstep]
        rw [ih, Partial.keep_eq_take, Partial.take_take]
        rfl

/-- Where the reader stands after a field that began in state `s`: a comma ends the field, and so does
a line feed, except that a line feed at the start of a record ends nothing. -/
theorem exists_state_after_field {s : State} (hs : s = .recordStart ∨ s = .fieldStart)
    {source field : Bytes} (h : Stands source field) :
    ∃ s', (∀ r rest, recordsFrom s r (source ++ rest) = recordsFrom s' (r.take source field) rest) ∧
      s'.step .comma = .endField ∧
      (s = .fieldStart ∨ source ≠ [] → s'.step .lineFeed = .endRecord) := by
  cases h with
  | bare h =>
      cases source with
      | nil =>
          refine ⟨s, fun _ _ => rfl, ?_, ?_⟩
          · rcases hs with rfl | rfl <;> rfl
          · rintro (rfl | hne)
            · rfl
            · exact absurd rfl hne
      | cons b source =>
          refine ⟨.bare, fun r rest => ?_, rfl, fun _ => rfl⟩
          have hb : Symbol.ofByte b = .other := h b (by simp)
          have hstep : s.step .other = .keep .bare := by rcases hs with rfl | rfl <;> rfl
          rw [List.cons_append, recordsFrom]
          simp only [hb, hstep]
          rw [recordsFrom_bare _ _ fun c hc => h c (List.mem_cons_of_mem _ hc),
            Partial.keep_eq_take, Partial.take_take]
          rfl
  | quoted =>
      refine ⟨.quoteSeen, fun r rest => ?_, rfl, fun _ => rfl⟩
      have hq : Symbol.ofByte 34 = .quote := rfl
      have hstep : s.step .quote = .skip .quoted := by rcases hs with rfl | rfl <;> rfl
      rw [List.cons_append, List.cons_append, recordsFrom]
      simp only [hq, hstep]
      rw [List.append_assoc, recordsFrom_doubled, List.singleton_append, recordsFrom]
      simp only [hq, State.step]
      rw [Partial.skip_eq_take, Partial.skip_eq_take, Partial.take_take, Partial.take_take]
      simp

/-! ## Rows -/

/-- The bytes of a row whose fields are written as `sources`. -/
def rowBytes (sources : List Bytes) : Bytes := [44].intercalate sources ++ [10]

theorem rowBytes_singleton (source : Bytes) : rowBytes [source] = source ++ [10] := by
  simp [rowBytes]

theorem rowBytes_cons {sources : List Bytes} (source : Bytes) (h : sources ≠ []) :
    rowBytes (source :: sources) = source ++ 44 :: rowBytes sources := by
  simp [rowBytes, List.intercalate_cons_of_ne_nil h]

/-- A row is read as one record. At the start of a record a single field must not be empty, since its
line feed would be dropped. -/
theorem recordsFrom_row {s : State} (hs : s = .recordStart ∨ s = .fieldStart)
    {sources fields : List Bytes} (h : List.Forall₂ Stands sources fields) (hne : sources ≠ [])
    (hblank : s = .fieldStart ∨ sources ≠ [[]]) (r : Partial) (hr : r.field = []) (rest : Bytes) :
    recordsFrom s r (rowBytes sources ++ rest) =
      ⟨r.start, r.source.reverse ++ rowBytes sources, r.fields.reverse ++ fields⟩ ::
        recordsFrom .recordStart (.fresh ((rowBytes sources).foldl Position.advance r.here)) rest := by
  induction h generalizing s r with
  | nil => exact absurd rfl hne
  | @cons source field sources fields hfield hfields ih =>
      obtain ⟨s', hrun, hcomma, hfeed⟩ := exists_state_after_field hs hfield
      cases hfields with
      | nil =>
          have hend : s'.step .lineFeed = .endRecord :=
            hfeed (hblank.imp_right fun hb hsource => hb (by rw [hsource]))
          have hlf : Symbol.ofByte 10 = .lineFeed := rfl
          rw [rowBytes_singleton, List.append_assoc, hrun, List.singleton_append, recordsFrom]
          simp only [hlf, hend]
          simp [Partial.finish, Partial.endField, Partial.skip, Partial.take, hr]
      | @cons source₂ field₂ sources fields hfield₂ hfields =>
          have hc : Symbol.ofByte 44 = .comma := rfl
          rw [rowBytes_cons _ (by simp), List.append_assoc, hrun, List.cons_append, recordsFrom]
          simp only [hc, hcomma]
          rw [ih (Or.inr rfl) (by simp) (Or.inl rfl) _ rfl]
          simp [Partial.endField, Partial.skip, Partial.take, hr]

/-! ## The written form as bytes -/

theorem encode_ofList (cs : List Char) :
    Text.encode (String.ofList cs) = cs.flatMap String.utf8EncodeChar := by
  rw [Text.encode_eq, String.toList_ofList]

theorem doubled_append (bs cs : Bytes) : doubled (bs ++ cs) = doubled bs ++ doubled cs :=
  List.flatMap_append

theorem doubled_eq_self {bs : Bytes} (h : ∀ b ∈ bs, b ≠ 34) : doubled bs = bs := by
  rw [doubled, List.flatMap_congr fun b hb => if_neg (h b hb), List.flatMap_singleton']

theorem doubled_utf8EncodeChar {c : Char} (h : c ≠ '"') :
    doubled (String.utf8EncodeChar c) = String.utf8EncodeChar c := by
  refine doubled_eq_self ?_
  rintro b hb rfl
  exact h (Char.toNat_inj.mp (Text.toNat_of_mem_utf8EncodeChar hb (by decide)))

theorem flatMap_doubleQuotes (cs : List Char) :
    (doubleQuotes cs).flatMap String.utf8EncodeChar =
      doubled (cs.flatMap String.utf8EncodeChar) := by
  induction cs with
  | nil => rfl
  | cons c cs ih =>
      rw [List.flatMap_cons, doubled_append, ← ih, doubleQuotes]
      by_cases hc : c = '"'
      · subst hc; rfl
      · rw [if_neg hc, List.flatMap_cons, doubled_utf8EncodeChar hc]

theorem eq_of_ofByte_ne_other {b : UInt8} (h : Symbol.ofByte b ≠ .other) :
    b = 34 ∨ b = 44 ∨ b = 13 ∨ b = 10 := by
  grind [Symbol.ofByte]

/-- No byte of a field that needs no quotes has a meaning. -/
theorem ofByte_of_not_needsQuotes {field : String} (h : ¬needsQuotes field = true) {b : UInt8}
    (hb : b ∈ Text.encode field) : Symbol.ofByte b = .other := by
  by_contra hmeaning
  apply h
  rcases eq_of_ofByte_ne_other hmeaning with rfl | rfl | rfl | rfl
  all_goals
    obtain ⟨c, hc, hcb⟩ := Text.mem_of_mem_encode hb (by decide)
    refine List.any_eq_true.mpr ⟨c, hc, ?_⟩
  · obtain rfl : c = '"' := Char.toNat_inj.mp hcb
    rfl
  · obtain rfl : c = ',' := Char.toNat_inj.mp hcb
    rfl
  · obtain rfl : c = '\r' := Char.toNat_inj.mp hcb
    rfl
  · obtain rfl : c = '\n' := Char.toNat_inj.mp hcb
    rfl

/-- A field is written as bytes that stand for it. -/
theorem stands_formatField (field : String) :
    Stands (Text.encode (formatField field)) (Text.encode field) := by
  rw [formatField]
  split
  · rw [encode_ofList, List.cons_append, List.flatMap_cons, List.flatMap_append,
      flatMap_doubleQuotes, ← Text.encode_eq]
    exact .quoted _
  · rename_i hneeds
    exact .bare fun b hb => ofByte_of_not_needsQuotes hneeds hb

/-- The bytes that the fields of a row are written as. -/
def sourcesOf (fields : List String) : List Bytes :=
  if fields = [""] then [[34, 34]] else fields.map fun field => Text.encode (formatField field)

theorem sourcesOf_ne_nil {fields : List String} (h : fields ≠ []) : sourcesOf fields ≠ [] := by
  unfold sourcesOf; split <;> simp [h]

theorem sourcesOf_ne_blank (fields : List String) : sourcesOf fields ≠ [[]] := by
  unfold sourcesOf
  split
  · simp
  · rename_i hlone
    intro hblank
    obtain ⟨field, rfl, hfield⟩ := List.map_eq_singleton_iff.mp hblank
    exact hlone (by rw [Text.encode_eq_nil.mp ((stands_formatField field).field_eq_nil hfield)])

theorem stands_sourcesOf (fields : List String) :
    List.Forall₂ Stands (sourcesOf fields) (fields.map Text.encode) := by
  unfold sourcesOf
  split
  · rename_i hlone
    subst hlone
    exact .cons (.quoted []) .nil
  · rw [List.forall₂_map_left_iff, List.forall₂_map_right_iff]
    exact List.forall₂_same.mpr fun field _ => stands_formatField field

theorem encode_formatRow (fields : List String) :
    Text.encode (formatRow fields) = rowBytes (sourcesOf fields) := by
  rw [formatRow.eq_def, sourcesOf]
  split
  · rfl
  · rename_i hlone
    rw [if_neg hlone, Text.encode_append, Text.encode_intercalate, List.map_map]; rfl

theorem encode_format (rows : List (List String)) :
    Text.encode (format rows) = rows.flatMap fun fields => rowBytes (sourcesOf fields) := by
  unfold format
  induction rows with
  | nil => rfl
  | cons fields rows ih =>
      rw [List.map_cons, String.join_cons, Text.encode_append, ih, encode_formatRow, List.flatMap_cons]

/-! ## Empty lines -/

/-- A record that begins with its first field and ends with a single line break. -/
structure Dense (r : RawRecord) : Prop where
  lead_eq_nil : r.lead = []
  one_break : lineBreaks (trailingBreaks r.body) = 1

/-- A line feed after something else is the only line break at the end. -/
theorem trailingBreaks_concat {line : Bytes} (h : Text.Ends (isBreak · = false) line) :
    trailingBreaks (line ++ [10]) = [10] := by
  have hhead : line.reverse.takeWhile isBreak = [] := by
    cases hl : line.reverse with
    | nil => rfl
    | cons b bs =>
        have hb : isBreak b = false := h b (Or.inr (by rw [List.getLast?_eq_head?_reverse, hl]; rfl))
        rw [List.takeWhile_cons, hb]; rfl
  rw [trailingBreaks, List.reverse_append, List.reverse_singleton, List.singleton_append,
    List.takeWhile_cons, if_pos (by rfl), hhead]
  rfl

theorem dense_of_source {r : RawRecord} {line : Bytes} (hr : r.source = line ++ [10])
    (hne : line ≠ []) (h : Text.Ends (isBreak · = false) line) : Dense r := by
  obtain ⟨b, bs, rfl⟩ := List.exists_cons_of_ne_nil hne
  have hb : isBreak b = false := h b (Or.inl rfl)
  have hlead : r.lead = [] := by
    rw [RawRecord.lead, hr, List.cons_append, List.takeWhile_cons, hb]; rfl
  have hbody : r.body = r.source := by
    rw [RawRecord.body, hr, List.cons_append, List.dropWhile_cons, hb]; rfl
  exact ⟨hlead, by rw [hbody, hr, trailingBreaks_concat h]; rfl⟩

theorem intercalate_sourcesOf_ne_nil {fields : List String} (h : fields ≠ []) :
    [44].intercalate (sourcesOf fields) ≠ [] := by
  intro hnil
  cases hs : sourcesOf fields with
  | nil => exact sourcesOf_ne_nil h hs
  | cons source sources =>
      rw [hs] at hnil
      cases sources with
      | nil =>
          rw [List.intercalate_singleton] at hnil
          exact sourcesOf_ne_blank fields (by rw [hs, hnil])
      | cons _ _ => simp at hnil

theorem ends_sourcesOf (fields : List String) :
    Text.Ends (isBreak · = false) ([44].intercalate (sourcesOf fields)) := by
  refine Text.Ends.intercalate rfl fun source hsource => ?_
  unfold sourcesOf at hsource
  split at hsource
  · rw [List.mem_singleton.mp hsource]
    exact (Stands.quoted []).ends
  · obtain ⟨field, -, rfl⟩ := List.mem_map.mp hsource
    exact (stands_formatField field).ends

/-- No empty line is found between records that are dense. -/
theorem rowsAfter_fields {ds : List Decoded} (h : ∀ d ∈ ds, Dense d.raw) {body : Bytes}
    (hbody : lineBreaks (trailingBreaks body) = 1) (line : Nat) :
    (rowsAfter line body ds).map Row.fields = ds.map Decoded.cells := by
  induction ds generalizing line body with
  | nil => rfl
  | cons d ds ih =>
      have hd := h d (by simp)
      have hempty : emptyLinesBetween body d.raw.lead = 0 := by
        rw [emptyLinesBetween, hd.lead_eq_nil, List.append_nil, hbody]
      rw [rowsAfter]
      simp [hempty, emptyRows, ih (fun e he => h e (List.mem_cons_of_mem _ he)) hd.one_break]

theorem keepingRows_fields {ds : List Decoded} (h : ∀ d ∈ ds, Dense d.raw) :
    (keepingRows ds).map Row.fields = ds.map Decoded.cells := by
  cases ds with
  | nil => rfl
  | cons d ds =>
      simp [keepingRows, rowsAfter_fields (fun e he => h e (List.mem_cons_of_mem _ he))
        (h d (by simp)).one_break]

/-! ## Files -/

/-- What the reader makes of a row that has been written. -/
structure Reads (fields : List String) (r : RawRecord) : Prop where
  fields_eq : r.fields = fields.map Text.encode
  dense : Dense r

/-- Each row that has been written is read as one record. -/
theorem reads_recordsFrom {rows : List (List String)} (h : ∀ fields ∈ rows, fields ≠ [])
    (p : Position) :
    List.Forall₂ Reads rows (recordsFrom .recordStart (.fresh p) (Text.encode (format rows))) := by
  rw [encode_format]
  induction rows generalizing p with
  | nil => exact .nil
  | cons fields rows ih =>
      have hne := h fields (by simp)
      rw [List.flatMap_cons, recordsFrom_row (Or.inl rfl) (stands_sourcesOf fields)
        (sourcesOf_ne_nil hne) (Or.inr (sourcesOf_ne_blank fields)) _ rfl]
      exact .cons ⟨rfl, dense_of_source rfl (intercalate_sourcesOf_ne_nil hne) (ends_sourcesOf fields)⟩
        (ih (fun fs hfs => h fs (List.mem_cons_of_mem _ hfs)) _)

/-- The fields of a row that is read. -/
def cells (fields : List String) : List String := fields.map Text.cell

theorem decodeFields_encode (ordinal : Nat) (r : RawRecord) (field : Nat) {fields : List String}
    (h : ∀ f ∈ fields, Text.trim f = f) :
    decodeFields ordinal r field (fields.map Text.encode) = .ok (cells fields) := by
  induction fields generalizing field with
  | nil => rfl
  | cons f fields ih =>
      have hf := Text.trimBy_encode (Text.trim_eq_iff.mp (h f (by simp)))
      rw [List.map_cons, decodeFields, hf, Text.decode_encode,
        ih _ fun g hg => h g (List.mem_cons_of_mem _ hg)]
      rfl

theorem decodeRecords_of_reads {rows : List (List String)} {raws : List RawRecord}
    (hraws : List.Forall₂ Reads rows raws) (h : ∀ fields ∈ rows, ∀ f ∈ fields, Text.trim f = f)
    (ordinal : Nat) :
    ∃ ds, decodeRecords ordinal raws = .ok ds ∧ ds.map Decoded.cells = rows.map cells ∧
      ∀ d ∈ ds, Dense d.raw := by
  induction hraws generalizing ordinal with
  | nil => exact ⟨[], rfl, rfl, by simp⟩
  | @cons fields raw rows raws hraw _ ih =>
      obtain ⟨ds, hds, hcells, hdense⟩ :=
        ih (fun fs hfs => h fs (List.mem_cons_of_mem _ hfs)) (ordinal + 1)
      have hfields := decodeFields_encode ordinal raw 0 (h fields (by simp))
      rw [← hraw.fields_eq] at hfields
      refine ⟨⟨raw, cells fields⟩ :: ds, ?_, by rw [List.map_cons, List.map_cons, hcells], ?_⟩
      · simp [decodeRecords, hfields, hds, bind, Except.bind, pure, Except.pure]
      · exact List.forall_mem_cons.mpr ⟨hraw.dense, hdense⟩

/-- Rows of texts without blank ends that are written are read back as their cells, and nothing else is,
unless the file begins with what is taken for a byte order mark. -/
theorem readRows_format {rows : List (List String)} (hne : ∀ fields ∈ rows, fields ≠ [])
    (htrim : ∀ fields ∈ rows, ∀ f ∈ fields, Text.trim f = f)
    (hmark : markBytes.isPrefixOf (Text.encode (format rows)) = false) :
    ∃ read, readRows .keep (Text.encode (format rows)) = .ok read ∧
      read.map Row.fields = rows.map cells := by
  obtain ⟨ds, hds, hcells, hdense⟩ := decodeRecords_of_reads (reads_recordsFrom hne .start) htrim 0
  refine ⟨keepingRows ds, ?_, by rw [keepingRows_fields hdense, hcells]⟩
  simp [readRows, records, hmark, hds, Except.map]

end RecordReport.Csv
