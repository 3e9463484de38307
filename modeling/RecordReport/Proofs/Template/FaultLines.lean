import RecordReport.Proofs.Csv.Places
import RecordReport.Proofs.Disk
import RecordReport.Proofs.Template.Faults

/-!
# The lines of faults

A row that fails is reported on the line on which its record begins. A record that is no text has the line on
which the read of it began, which is not always that line.
-/

namespace RecordReport

namespace Csv

/-! ## Records that are no text -/

/-- All fields of the record are texts. -/
def RawRecord.Decodes (r : RawRecord) : Prop :=
  ∀ raw ∈ r.fields, ∃ text, Text.decode (Text.trimBy isAsciiBlank raw) = .ok text

theorem fault_of_decodeFields {ordinal field : Nat} {r : RawRecord} {raws : List Bytes} {fault : Undecodable}
    (h : decodeFields ordinal r field raws = .error fault) :
    fault.record = ordinal ∧ fault.position = r.start ∧
      ∃ raw ∈ raws, ∀ text, Text.decode (Text.trimBy isAsciiBlank raw) ≠ .ok text := by
  induction raws generalizing field with
  | nil => cases h
  | cons raw raws ih =>
      rw [decodeFields] at h
      cases hdecode : Text.decode (Text.trimBy isAsciiBlank raw) with
      | error whole =>
          rw [hdecode] at h
          cases h
          exact ⟨rfl, rfl, raw, List.mem_cons_self, by simp [hdecode]⟩
      | ok text =>
          rw [hdecode] at h
          obtain ⟨hordinal, hposition, raw', hraw, hfault⟩ := ih (eq_error_of_map h)
          exact ⟨hordinal, hposition, raw', List.mem_cons_of_mem _ hraw, hfault⟩

theorem decodes_of_decodeFields {ordinal : Nat} {r : RawRecord} {cells : List String}
    (h : decodeFields ordinal r 0 r.fields = .ok cells) : r.Decodes := by
  intro raw hraw
  obtain ⟨-, -, text, htext, -⟩ := exists_of_mem_forall₂ (forall₂_of_decodeFields h).flip hraw
  exact ⟨text, htext⟩

/-- The first record that is no text is at fault. -/
theorem exists_of_decodeRecords_eq_error {ordinal : Nat} {rs : List RawRecord} {fault : Undecodable}
    (h : decodeRecords ordinal rs = .error fault) :
    ∃ earlier r later, rs = earlier ++ r :: later ∧ (∀ s ∈ earlier, s.Decodes) ∧ ¬r.Decodes ∧
      fault.record = ordinal + earlier.length ∧ fault.position = r.start := by
  induction rs generalizing ordinal with
  | nil => cases h
  | cons r rs ih =>
      rw [decodeRecords] at h
      cases hcells : decodeFields ordinal r 0 r.fields with
      | error fault' =>
          rw [hcells] at h
          cases h
          obtain ⟨hordinal, hposition, raw, hraw, hfault⟩ := fault_of_decodeFields hcells
          refine ⟨[], r, rs, rfl, List.forall_mem_nil _, fun hdecodes => ?_, hordinal, hposition⟩
          obtain ⟨text, htext⟩ := hdecodes raw hraw
          exact hfault text htext
      | ok cells =>
          rw [hcells] at h
          cases hothers : decodeRecords (ordinal + 1) rs with
          | ok others =>
              rw [hothers] at h
              cases h
          | error fault' =>
              rw [hothers] at h
              cases h
              obtain ⟨earlier, r', later, rfl, hearlier, hr', hordinal, hposition⟩ := ih hothers
              refine ⟨r :: earlier, r', later, rfl, ?_, hr', ?_, hposition⟩
              · exact List.forall_mem_cons.mpr ⟨decodes_of_decodeFields hcells, hearlier⟩
              · rw [hordinal, List.length_cons]
                omega

/-! ## Where records begin -/

variable {file : Bytes} {earlier later : List RawRecord} {r : RawRecord}

theorem exists_first_byte (h : records file = earlier ++ r :: later) :
    ∃ b rest, file = earlier.flatMap RawRecord.source ++ r.lead ++ b :: rest ∧ isBreak b = false := by
  have hpieces := pieces_records file
  rw [h] at hpieces
  obtain ⟨rest, hfile, -, hcontent⟩ := hpieces.split
  obtain ⟨b, body, hbody, hb⟩ := exists_body_eq_cons hcontent
  refine ⟨b, body ++ rest, ?_, hb⟩
  rw [hfile, ← lead_append_body r, hbody]
  simp

theorem line_start_of_records (h : records file = earlier ++ r :: later) :
    r.start.line = 1 + (earlier.flatMap RawRecord.source).count 10 := by
  have hpieces := pieces_records file
  rw [h] at hpieces
  obtain ⟨-, -, hstart, -⟩ := hpieces.split
  rw [hstart, line_foldl_advance]
  rfl

/-! ## The rows of records -/

/-- A member of some kind is found by the number of those before it. -/
theorem append_cons_inj_of_filter {α : Type} {p : α → Bool} {x y : α} {xs xs' ys ys' : List α} (hx : p x)
    (hy : p y) (h : xs ++ x :: ys = xs' ++ y :: ys')
    (hcount : (xs.filter p).length = (xs'.filter p).length) : xs = xs' ∧ x = y ∧ ys = ys' := by
  induction xs generalizing xs' with
  | nil =>
      cases xs' with
      | nil => simpa using h
      | cons z zs =>
          obtain ⟨rfl, -⟩ := List.cons_eq_cons.mp h
          simp [hx] at hcount
  | cons z zs ih =>
      cases xs' with
      | nil =>
          obtain ⟨rfl, -⟩ := List.cons_eq_cons.mp h
          simp [hy] at hcount
      | cons z' zs' =>
          obtain ⟨rfl, hsplit⟩ := List.cons_eq_cons.mp h
          have hrest : (zs.filter p).length = (zs'.filter p).length := by
            rw [List.filter_cons, List.filter_cons] at hcount
            split at hcount <;> simpa using hcount
          obtain ⟨rfl, heq⟩ := ih hsplit hrest
          exact ⟨rfl, heq⟩

/-- A row with fields stands for a record and has the line on which the record begins. -/
theorem exists_record_of_row {before after : List Row} {row : Row}
    (h : readRows .keep file = .ok (before ++ row :: after)) (hfields : row.fields ≠ []) :
    ∃ earlier r later, records file = earlier ++ r :: later ∧ (recordRows before).length = earlier.length ∧
      row.fields = r.fields.map cellOf ∧ row.line = firstLine earlier r := by
  obtain ⟨decoded, hdecoded, (hrows : keepingRows decoded = before ++ row :: after)⟩ :=
    exists_of_map_eq_ok h
  have hds := hasContent_of_decodeRecords hdecoded
  have hcells := recordRows_keepingRows hds
  rw [hrows, recordRows_append, recordRows_cons hfields, List.map_append, List.map_cons, eq_comm,
    List.map_eq_append_iff] at hcells
  obtain ⟨earlier, others, rfl, hearlier, hothers⟩ := hcells
  obtain ⟨d, later, rfl, hd, -⟩ := List.map_eq_cons_iff.mp hothers
  obtain ⟨before', hkeep, hbefore'⟩ :=
    exists_keepingRows_split (fun e he => hds e (List.mem_append_left _ he)) d later
  have hcount : (recordRows before').length = (recordRows before).length := by
    simpa using congrArg List.length (hbefore'.trans hearlier)
  have hdcells : d.cells ≠ [] := (hds d (by simp)).2
  -- Both splits are at a row with fields, with the same number of such rows before it.
  obtain ⟨rfl, rfl, -⟩ := append_cons_inj_of_filter (p := fun row : Row => !row.fields.isEmpty)
    (by simpa using hdcells) (by simpa using hfields) (hkeep.symm.trans hrows) hcount
  refine ⟨earlier.map Decoded.raw, d.raw, later.map Decoded.raw, ?_, ?_, ?_, ?_⟩
  · rw [← raws_of_decodeRecords hdecoded, List.map_append, List.map_cons]
  · simpa using congrArg List.length hearlier.symm
  · exact cells_of_decodeRecords hdecoded (by simp)
  · rw [firstLine, List.flatMap_map]

end Csv

namespace Template

theorem fields_ne_nil_of_faultAt {before : List Csv.Row} {row : Csv.Row} {e : Error}
    (h : faultAt before row = some e) : row.fields ≠ [] := by
  obtain ⟨line, fields⟩ := row
  rintro (rfl : fields = [])
  cases h

theorem line?_readError_keep (path : String) (cause : Disk.Failure) :
    (readError .keep path cause).line? = none := by
  cases cause <;> rfl

/-- Rows whose reading fails on a line hold a row that fails. -/
theorem exists_fault_of_parse {rows : List Csv.Row} {e : Error} {n : Nat} (h : parse rows = .error e)
    (hline : e.line? = some n) : ∃ header before row after, rows = header :: (before ++ row :: after) ∧
      Faultless before ∧ faultAt before row = some e := by
  by_cases hrows : Faultless rows.tail
  · rw [(parse_of_faultless hrows).1 e h] at hline
    cases hline
  · obtain ⟨before, row, after, fault, htail, hbefore, hfault⟩ := exists_fault_of_not_faultless hrows
    cases rows with
    | nil => simp at htail
    | cons header rows =>
        obtain rfl : rows = before ++ row :: after := htail
        rw [parse_of_fault hbefore hfault after] at h
        cases h
        exact ⟨header, before, row, after, rfl, hbefore, hfault⟩

/-- An error with a line is that of a record that is no text or of a row that fails. -/
theorem exists_fault_of_specAt {disk : Disk} {path : String} {e : Error} {n : Nat}
    (h : specAt disk path = .error e) (hline : e.line? = some n) :
    ∃ content, disk.read path = .ok content ∧
      ((∃ fault, Csv.decodeRecords 0 (Csv.records content) = .error fault ∧
          e = .unreadable (.undecodable fault)) ∨
        ∃ header before row after, Csv.readRows .keep content = .ok (header :: (before ++ row :: after)) ∧
          Faultless before ∧ faultAt before row = some e) := by
  rw [specAt, rowsAt] at h
  cases hread : disk.read path with
  | error cause =>
      rw [hread] at h
      cases h
      rw [Error.line?, line?_readError_keep] at hline
      cases hline
  | ok content =>
      refine ⟨content, rfl, ?_⟩
      rw [hread] at h
      dsimp only at h
      rw [RecordReport.rowsOf, Csv.readRows] at h
      rw [Csv.readRows]
      cases hdecoded : Csv.decodeRecords 0 (Csv.records content) with
      | error fault =>
          rw [hdecoded] at h
          cases h
          exact .inl ⟨fault, rfl, rfl⟩
      | ok decoded =>
          rw [hdecoded] at h
          obtain ⟨header, before, row, after, hrows, hfault⟩ := exists_fault_of_parse h hline
          exact .inr ⟨header, before, row, after, congrArg Except.ok hrows, hfault⟩

/-- A template that is refused on some line is refused for a record of its file. A row that fails is reported
on the line on which its record begins; a record that is no text is reported there exactly if no carriage
return stands alone before it and no line feed directly before it has been left to it. -/
theorem line_of_specAt {disk : Disk} {path : String} {e : Error} {n : Nat}
    (h : specAt disk path = .error e) (hline : e.line? = some n) :
    ∃ content earlier r later b rest, disk.read path = .ok content ∧
      Csv.records content = earlier ++ r :: later ∧
      content = earlier.flatMap Csv.RawRecord.source ++ r.lead ++ b :: rest ∧ Csv.isBreak b = false ∧
      ((∃ fault, e = .unreadable (.undecodable fault) ∧ fault.record = earlier.length ∧
          (∀ s ∈ earlier, s.Decodes) ∧ ¬r.Decodes ∧
          n = 1 + (earlier.flatMap Csv.RawRecord.source).count 10 ∧
          (n = Csv.firstLine earlier r ↔
            Csv.loneReturns (earlier.flatMap Csv.RawRecord.source ++ r.lead) = 0 ∧ r.lead.count 10 = 0)) ∨
        ∃ header before row after, Csv.readRows .keep content = .ok (header :: (before ++ row :: after)) ∧
          (Csv.recordRows (header :: before)).length = earlier.length ∧
          row.fields = r.fields.map Csv.cellOf ∧ Faultless before ∧ faultAt before row = some e ∧
          n = row.line ∧ n = Csv.firstLine earlier r) := by
  obtain ⟨content, hread, hfault⟩ := exists_fault_of_specAt h hline
  rcases hfault with ⟨fault, hdecode, rfl⟩ | ⟨header, before, row, after, hrows, hbefore, hfault⟩
  · obtain ⟨earlier, r, later, hrecords, hearlier, hr, hordinal, hposition⟩ :=
      Csv.exists_of_decodeRecords_eq_error hdecode
    obtain ⟨b, rest, hcontent, hb⟩ := Csv.exists_first_byte hrecords
    have hstart : n = r.start.line := by
      rw [← hposition]
      exact (Option.some.inj hline).symm
    rw [Csv.line_start_of_records hrecords] at hstart
    refine ⟨content, earlier, r, later, b, rest, hread, hrecords, hcontent, hb,
      .inl ⟨fault, rfl, hordinal.trans (Nat.zero_add _), hearlier, hr, hstart, ?_⟩⟩
    rw [hstart, Csv.firstLine, Csv.lineBreaks_eq, List.count_append]
    omega
  · rw [← List.cons_append] at hrows
    obtain ⟨earlier, r, later, hrecords, hcount, hfields, hfirst⟩ :=
      Csv.exists_record_of_row hrows (fields_ne_nil_of_faultAt hfault)
    obtain ⟨b, rest, hcontent, hb⟩ := Csv.exists_first_byte hrecords
    have hrow : n = row.line := Option.some.inj (hline.symm.trans (line?_of_faultAt hfault))
    exact ⟨content, earlier, r, later, b, rest, hread, hrecords, hcontent, hb,
      .inr ⟨header, before, row, after, hrows, hcount, hfields, hbefore, hfault, hrow, hrow.trans hfirst⟩⟩

/-- An empty line stands between two carriage returns with their line feeds, and a command after it. -/
theorem line_of_specAt_empty :
    let content := Text.encode "a,b\r\n\r\n_X,b\r\n"
    let disk : Disk := ⟨[(["t.csv"], .file content)]⟩
    let e : Error := .unknownCommand 3 "_X"
    specAt disk "t.csv" = .error e ∧ e.line? = some 3 ∧
      ∃ content earlier r later, disk.read "t.csv" = .ok content ∧
        Csv.records content = earlier ++ r :: later ∧ 3 = Csv.firstLine earlier r := by
  intro content disk e
  have hplace : disk.locate "t.csv" = .ok ["t.csv"] :=
    Disk.locate_of_valid (by decide) (by decide) (by decide)
  have hread : disk.read "t.csv" = .ok content := Disk.read_of_entry hplace rfl rfl
  have h : specAt disk "t.csv" = .error e := by
    rw [specAt, rowsAt, hread]
    rfl
  have hline : e.line? = some 3 := rfl
  refine ⟨h, hline, ?_⟩
  obtain ⟨content, earlier, r, later, -, -, hread, hrecords, -, -, hfault⟩ := line_of_specAt h hline
  rcases hfault with ⟨_, hundecodable, -⟩ | ⟨_, _, _, _, -, -, -, -, -, -, hfirst⟩
  · exact nomatch hundecodable
  · exact ⟨content, earlier, r, later, hread, hrecords, hfirst⟩

/-- The record that is no text begins on the second line, but the line feed before it has been left to it. -/
theorem line_of_specAt_return :
    let content : Bytes := Text.encode "a,b\r\n" ++ [0xFF, 13, 10]
    let disk : Disk := ⟨[(["t.csv"], .file content)]⟩
    let e : Error := .unreadable (.undecodable ⟨1, ⟨4, 1⟩, 0, 0⟩)
    disk.read "t.csv" = .ok content ∧ specAt disk "t.csv" = .error e ∧ e.line? = some 1 ∧
      ∃ earlier r, Csv.records content = [earlier, r] ∧ r.fields = [[0xFF]] ∧
        Csv.firstLine [earlier] r = 2 := by
  intro content disk e
  have hplace : disk.locate "t.csv" = .ok ["t.csv"] :=
    Disk.locate_of_valid (by decide) (by decide) (by decide)
  have hread : disk.read "t.csv" = .ok content := Disk.read_of_entry hplace rfl rfl
  refine ⟨hread, ?_, rfl, _, _, by rfl, by rfl, by rfl⟩
  rw [specAt, rowsAt, hread]
  rfl

end Template
end RecordReport
