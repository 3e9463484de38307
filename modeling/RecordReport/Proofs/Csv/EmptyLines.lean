import Mathlib.Data.List.DropRight
import RecordReport.Proofs.Csv.Breaks
import RecordReport.Proofs.Csv.Decoding

/-!
# Rows with the empty lines between them

With empty lines kept, every row after the first has the line on which its record begins, and between two
records there is a row for each line that is empty there. Lines are those of the whole file, whatever ends
them.
-/

namespace RecordReport.Csv

/-- The line of the last byte that is no break. -/
def lastLine (bytes : Bytes) : Nat := 1 + lineBreaks (bytes.rdropWhile isBreak)

theorem lastLine_of_breaks {upto gap : Bytes} (hupto : ∀ b, upto.getLast? = some b → isBreak b = false)
    (hgap : ∀ b ∈ gap, isBreak b = true) : lastLine (upto ++ gap) = 1 + lineBreaks upto := by
  have hself : upto.rdropWhile isBreak = upto := by
    refine List.rdropWhile_eq_self_iff.mpr fun hne => ?_
    rw [hupto _ (List.getLast?_eq_some_getLast hne)]
    exact Bool.false_ne_true
  have hdrop : (upto ++ gap).rdropWhile isBreak = upto.rdropWhile isBreak := by
    rw [List.rdropWhile, List.reverse_append, List.dropWhile_append_of_pos (by simpa using hgap)]
    rfl
  rw [lastLine, hdrop, hself]

/-! ## Records with content -/

namespace RawRecord

/-- The record holds more than line breaks. -/
def HasContent (r : RawRecord) : Prop := ∃ b ∈ r.source, isBreak b = false

/-- The record from its first byte to its last that is no break. -/
def core (r : RawRecord) : Bytes := r.body.rdropWhile isBreak

variable {r : RawRecord}

theorem core_append_trailingBreaks (r : RawRecord) : r.core ++ trailingBreaks r.body = r.body :=
  List.rdropWhile_append_rtakeWhile

theorem isBreak_of_mem_trailingBreaks {bytes : Bytes} {b : UInt8} (h : b ∈ trailingBreaks bytes) :
    isBreak b = true :=
  List.mem_takeWhile_imp (List.mem_reverse.mp h)

theorem isBreak_of_mem_lead (r : RawRecord) {b : UInt8} (h : b ∈ r.lead) : isBreak b = true :=
  List.mem_takeWhile_imp h

theorem body_ne_nil (h : r.HasContent) : r.body ≠ [] := by
  obtain ⟨c, rest, hbody, -⟩ := exists_body_eq_cons h
  simp [hbody]

theorem head_body (h : r.HasContent) : ∀ b, r.body.head? = some b → isBreak b = false := by
  intro b hb
  obtain ⟨c, rest, hbody, hc⟩ := exists_body_eq_cons h
  rw [hbody] at hb
  cases hb
  exact hc

theorem core_ne_nil (h : r.HasContent) : r.core ≠ [] := by
  obtain ⟨c, rest, hbody, hc⟩ := exists_body_eq_cons h
  rw [core, Ne, List.rdropWhile_eq_nil_iff, hbody]
  intro hall
  rw [hall c List.mem_cons_self] at hc
  cases hc

theorem getLast_core : ∀ b, r.core.getLast? = some b → isBreak b = false := by
  intro b hb
  have hne : r.core ≠ [] := by
    rintro hnil
    rw [hnil] at hb
    cases hb
  rw [List.getLast?_eq_some_getLast hne] at hb
  cases hb
  have hlast : ¬isBreak (r.core.getLast hne) = true := List.rdropWhile_last_not isBreak r.body hne
  exact Bool.eq_false_iff.mpr hlast

theorem trailingBreaks_ne_nil (h : r.HasContent) (hend : r.Terminated) : trailingBreaks r.body ≠ [] := by
  obtain ⟨b, hb, hbreak⟩ := hend
  intro hnil
  have hcore : r.core = r.body := by
    have happend := core_append_trailingBreaks r
    rwa [hnil, List.append_nil] at happend
  have hlast : r.core.getLast? = some b := by
    rw [hcore, ← hb, ← lead_append_body r, List.getLast?_append_of_ne_nil _ (body_ne_nil h)]
  rw [getLast_core b hlast] at hbreak
  cases hbreak

/-- The breaks after the core of a record, up to the next record. One of them ends the record. -/
theorem lineBreaks_body_append (h : r.HasContent) (hend : r.Terminated) {lead : Bytes}
    (hlead : ∀ b ∈ lead, isBreak b = true) :
    lineBreaks (r.body ++ lead) = lineBreaks r.core + (emptyLinesBetween r.body lead + 1) := by
  have hgap : ∀ b ∈ trailingBreaks r.body ++ lead, isBreak b = true := by
    intro b hb
    rcases List.mem_append.mp hb with hb | hb
    · exact isBreak_of_mem_trailingBreaks hb
    · exact hlead b hb
  have hpos : 0 < lineBreaks (trailingBreaks r.body ++ lead) :=
    lineBreaks_pos_of_breaks hgap (by simp [trailingBreaks_ne_nil h hend])
  have hcut : lineBreaks (r.body ++ lead) =
      lineBreaks r.core + lineBreaks (trailingBreaks r.body ++ lead) := by
    rw [← lineBreaks_append (.of_getLast getLast_core), ← List.append_assoc,
      core_append_trailingBreaks]
  rw [hcut, emptyLinesBetween]
  omega

end RawRecord

theorem hasContent_of_mem {file : Bytes} {r : RawRecord} (h : r ∈ records file) : r.HasContent := by
  obtain ⟨before, after, hsplit⟩ := List.append_of_mem h
  have hpieces := pieces_records file
  rw [hsplit] at hpieces
  obtain ⟨_, -, -, hcontent⟩ := hpieces.split
  exact hcontent

/-! ## Rows without a field -/

/-- The rows that stand for a record. -/
def recordRows (rows : List Row) : List Row := rows.filter fun row => !row.fields.isEmpty

theorem recordRows_append (rows others : List Row) :
    recordRows (rows ++ others) = recordRows rows ++ recordRows others :=
  List.filter_append ..

theorem recordRows_cons {row : Row} (h : row.fields ≠ []) (rows : List Row) :
    recordRows (row :: rows) = row :: recordRows rows :=
  List.filter_cons_of_pos (by simpa using h)

theorem recordRows_emptyRows (line count : Nat) : recordRows (emptyRows line count) = [] := by
  rw [recordRows, List.filter_eq_nil_iff]
  intro row hrow
  simp [fields_of_mem_emptyRows hrow]

theorem exists_mem_emptyRows_iff {line count n : Nat} (h : count < line) :
    (∃ row ∈ emptyRows line count, row.line = n) ↔ line - count ≤ n ∧ n < line := by
  constructor
  · rintro ⟨row, hrow, rfl⟩
    obtain ⟨i, hi, rfl⟩ := List.mem_map.mp hrow
    have hi : i < count := by simpa using hi
    dsimp only
    omega
  · rintro ⟨hlow, hhigh⟩
    refine ⟨⟨line - (line - n - 1 + 1), []⟩, List.mem_map.mpr ⟨line - n - 1, ?_, rfl⟩, ?_⟩
    · rw [List.mem_reverse, List.mem_range]
      omega
    · dsimp only
      omega

theorem pairwise_emptyRows {line count : Nat} (h : count < line) :
    (emptyRows line count).Pairwise fun a b => a.line < b.line := by
  rw [emptyRows, List.pairwise_map, List.pairwise_reverse]
  refine List.pairwise_lt_range.imp_of_mem fun {i j} _ hj hij => ?_
  have hj : j < count := List.mem_range.mp hj
  dsimp only
  omega

/-! ## Row by row -/

/-- A row later than the first counts all breaks before its record. -/
theorem line_rowsAfter {taken body : Bytes} (hne : body ≠ [])
    (hbody : ∀ b, body.head? = some b → isBreak b = false) (lead : Bytes) :
    1 + lineBreaks taken + lineBreaks (body ++ lead) = 1 + lineBreaks (taken ++ body ++ lead) := by
  have hhead : ∀ b, (body ++ lead).head? = some b → isBreak b = false := by
    intro b hb
    rw [List.head?_append_of_ne_nil _ hne] at hb
    exact hbody b hb
  rw [List.append_assoc, lineBreaks_append (.of_head hhead), Nat.add_assoc]

/-- The rows of some records lead up to the row of the next. -/
theorem exists_rowsAfter_split (taken : Bytes) {body : Bytes} (hne : body ≠ [])
    (hbody : ∀ b, body.head? = some b → isBreak b = false) {ds : List Decoded}
    (hds : ∀ e ∈ ds, e.raw.HasContent ∧ e.cells ≠ []) (d : Decoded) (later : List Decoded) :
    let line := 1 + lineBreaks (taken ++ body ++ ds.flatMap (·.raw.source) ++ d.raw.lead)
    ∃ before, rowsAfter (1 + lineBreaks taken) body (ds ++ d :: later) =
        before ++ ⟨line, d.cells⟩ :: rowsAfter line d.raw.body later ∧
      (recordRows before).map Row.fields = ds.map Decoded.cells := by
  induction ds generalizing taken body with
  | nil =>
      rw [List.nil_append, rowsAfter, line_rowsAfter hne hbody, List.flatMap_nil, List.append_nil]
      exact ⟨_, rfl, by rw [recordRows_emptyRows]; rfl⟩
  | cons e ds ih =>
      obtain ⟨⟨hcontent, hcells⟩, hds⟩ := List.forall_mem_cons.mp hds
      obtain ⟨before, hrows, hbefore⟩ := ih (taken ++ body ++ e.raw.lead)
        (RawRecord.body_ne_nil hcontent) (RawRecord.head_body hcontent) hds
      have htaken : taken ++ body ++ (e :: ds).flatMap (·.raw.source) ++ d.raw.lead =
          taken ++ body ++ e.raw.lead ++ e.raw.body ++ ds.flatMap (·.raw.source) ++ d.raw.lead := by
        simp [← lead_append_body e.raw]
      rw [List.cons_append, rowsAfter, line_rowsAfter hne hbody, htaken, hrows]
      let here := 1 + lineBreaks (taken ++ body ++ e.raw.lead)
      refine ⟨emptyRows here (emptyLinesBetween body e.raw.lead) ++ ⟨here, e.cells⟩ :: before, ?_, ?_⟩
      · rw [List.append_assoc (emptyRows _ _), List.cons_append]
      · rw [recordRows_append, recordRows_emptyRows, recordRows_cons hcells, List.nil_append,
          List.map_cons, List.map_cons, hbefore]

theorem exists_keepingRows_split {ds : List Decoded}
    (hds : ∀ e ∈ ds, e.raw.HasContent ∧ e.cells ≠ []) (d : Decoded) (later : List Decoded) :
    let line := 1 + lineBreaks (ds.flatMap (·.raw.source) ++ d.raw.lead)
    ∃ before, keepingRows (ds ++ d :: later) =
        before ++ ⟨line, d.cells⟩ :: rowsAfter line d.raw.body later ∧
      (recordRows before).map Row.fields = ds.map Decoded.cells := by
  cases ds with
  | nil => exact ⟨[], rfl, rfl⟩
  | cons e ds =>
      obtain ⟨⟨hcontent, hcells⟩, hds⟩ := List.forall_mem_cons.mp hds
      obtain ⟨before, hrows, hbefore⟩ := exists_rowsAfter_split e.raw.lead
        (RawRecord.body_ne_nil hcontent) (RawRecord.head_body hcontent) hds d later
      have htaken : (e :: ds).flatMap (·.raw.source) ++ d.raw.lead =
          e.raw.lead ++ e.raw.body ++ ds.flatMap (·.raw.source) ++ d.raw.lead := by
        simp [← lead_append_body e.raw]
      rw [List.cons_append, keepingRows, htaken, hrows]
      refine ⟨⟨1 + lineBreaks e.raw.lead, e.cells⟩ :: before, rfl, ?_⟩
      rw [recordRows_cons hcells, List.map_cons, List.map_cons, hbefore]

/-- Lines grow, since each record but the last is ended by a break. -/
theorem pairwise_rowsAfter {r : RawRecord} {ds : List Decoded} (hr : r.HasContent)
    (hds : ∀ e ∈ ds, e.raw.HasContent)
    (hchain : (r :: ds.map Decoded.raw).IsChain fun r _ => r.Terminated) (line : Nat) :
    (rowsAfter line r.body ds).Pairwise (fun a b => a.line < b.line) ∧
      ∀ row ∈ rowsAfter line r.body ds, line < row.line := by
  induction ds generalizing r line with
  | nil => simp [rowsAfter]
  | cons e ds ih =>
      obtain ⟨he, hds⟩ := List.forall_mem_cons.mp hds
      obtain ⟨hend, hchain⟩ := List.isChain_cons_cons.mp hchain
      have hbreaks := RawRecord.lineBreaks_body_append hr hend fun _ => e.raw.isBreak_of_mem_lead
      rw [rowsAfter, hbreaks]
      generalize emptyLinesBetween r.body e.raw.lead = count
      generalize hhere : line + (lineBreaks r.core + (count + 1)) = here
      obtain ⟨hlater, hlt⟩ := ih he hds hchain here
      have hempty : ∀ row ∈ emptyRows here count, line < row.line ∧ row.line < here := by
        intro row hrow
        have hbounds := (exists_mem_emptyRows_iff (by omega)).mp ⟨row, hrow, rfl⟩
        omega
      constructor
      · refine List.pairwise_append.mpr ⟨pairwise_emptyRows (by omega), ?_, ?_⟩
        · exact List.pairwise_cons.mpr ⟨hlt, hlater⟩
        · intro a ha b hb
          have ha := (hempty a ha).2
          rcases List.mem_cons.mp hb with rfl | hb
          · exact ha
          · exact ha.trans (hlt b hb)
      · intro row hrow
        rcases List.mem_append.mp hrow with hrow | hrow
        · exact (hempty row hrow).1
        · rcases List.mem_cons.mp hrow with rfl | hrow
          · dsimp only
            omega
          · have hrow := hlt row hrow
            omega

theorem pairwise_keepingRows {ds : List Decoded} (hds : ∀ e ∈ ds, e.raw.HasContent)
    (hchain : (ds.map Decoded.raw).IsChain fun r _ => r.Terminated) :
    (keepingRows ds).Pairwise fun a b => a.line < b.line := by
  cases ds with
  | nil => exact .nil
  | cons d ds =>
      obtain ⟨hd, hds⟩ := List.forall_mem_cons.mp hds
      obtain ⟨hlater, hlt⟩ := pairwise_rowsAfter hd hds hchain (1 + lineBreaks d.raw.lead)
      exact List.pairwise_cons.mpr ⟨hlt, hlater⟩

/-- The last row is that of the last record. -/
theorem exists_keepingRows_concat {ds : List Decoded} (d : Decoded)
    (hds : ∀ e ∈ ds ++ [d], e.raw.HasContent ∧ e.cells ≠ []) :
    ∃ before row, keepingRows (ds ++ [d]) = before ++ [row] ∧
      (recordRows before).map Row.fields = ds.map Decoded.cells ∧ row.fields = d.cells := by
  have hinit : ∀ e ∈ ds, e.raw.HasContent ∧ e.cells ≠ [] := fun e he =>
    hds e (List.mem_append_left _ he)
  obtain ⟨before, hrows, hbefore⟩ := exists_keepingRows_split hinit d []
  exact ⟨before, _, hrows, hbefore, rfl⟩

theorem recordRows_keepingRows {ds : List Decoded}
    (hds : ∀ e ∈ ds, e.raw.HasContent ∧ e.cells ≠ []) :
    (recordRows (keepingRows ds)).map Row.fields = ds.map Decoded.cells := by
  rcases List.eq_nil_or_concat ds with rfl | ⟨ds, d, rfl⟩
  · rfl
  · rw [List.concat_eq_append] at hds ⊢
    obtain ⟨before, row, hrows, hbefore, hrow⟩ := exists_keepingRows_concat d hds
    have hcells : row.fields ≠ [] := by
      rw [hrow]
      exact (hds d (by simp)).2
    rw [hrows, recordRows_append, List.map_append, hbefore, recordRows_cons hcells, List.map_append,
      List.map_cons, hrow]
    rfl

theorem head_keepingRows {ds : List Decoded} (hds : ∀ e ∈ ds, e.cells ≠ []) {row : Row}
    (h : (keepingRows ds).head? = some row) : row.fields ≠ [] := by
  cases ds with
  | nil => cases h
  | cons d ds =>
      cases h
      exact hds d List.mem_cons_self

theorem getLast_keepingRows {ds : List Decoded} (hds : ∀ e ∈ ds, e.raw.HasContent ∧ e.cells ≠ [])
    {row : Row} (h : (keepingRows ds).getLast? = some row) : row.fields ≠ [] := by
  rcases List.eq_nil_or_concat ds with rfl | ⟨ds, d, rfl⟩
  · cases h
  · rw [List.concat_eq_append] at hds h
    obtain ⟨before, last, hrows, -, hlast⟩ := exists_keepingRows_concat d hds
    rw [hrows, List.getLast?_concat] at h
    cases h
    rw [hlast]
    exact (hds d (by simp)).2

/-! ## Between two records -/

/-- Rows between those of two consecutive records, the first of which ends the bytes taken. -/
structure Between (file taken : Bytes) (next : Decoded) (between : List Row) (row : Row) : Prop where
  /-- The first byte of the next record comes after breaks. -/
  first : ∃ b rest, file = taken ++ next.raw.lead ++ b :: rest ∧ isBreak b = false
  fields : row.fields = next.cells
  line : row.line = 1 + lineBreaks (taken ++ next.raw.lead)
  empty : ∀ r ∈ between, r.fields = []
  /-- The lines between the records that are empty. -/
  lines : ∀ n, (∃ r ∈ between, r.line = n) ↔
    lastLine taken < n ∧ n < row.line ∧ (linesOf file)[n - 1]? = some []

theorem between_emptyRows {file before rest : Bytes} {prev next : Decoded}
    (hprev : prev.raw.HasContent) (hend : prev.raw.Terminated) (hnext : next.raw.HasContent)
    (hfile : file = before ++ prev.raw.source ++ next.raw.source ++ rest) :
    let here := 1 + lineBreaks (before ++ prev.raw.source ++ next.raw.lead)
    Between file (before ++ prev.raw.source) next
      (emptyRows here (emptyLinesBetween prev.raw.body next.raw.lead)) ⟨here, next.cells⟩ := by
  intro here
  obtain ⟨b, body, hbody, hb⟩ := exists_body_eq_cons hnext
  have hfirst : file = before ++ prev.raw.source ++ next.raw.lead ++ b :: (body ++ rest) := by
    rw [hfile, ← lead_append_body next.raw, hbody]
    simp
  -- The bytes up to the gap end with a byte that is no break, and the gap ends before another.
  let upto := before ++ prev.raw.lead ++ prev.raw.core
  let gap := trailingBreaks prev.raw.body ++ next.raw.lead
  have hupto : ∀ c, upto.getLast? = some c → isBreak c = false := by
    intro c hc
    rw [List.getLast?_append_of_ne_nil _ (RawRecord.core_ne_nil hprev)] at hc
    exact RawRecord.getLast_core c hc
  have htaken : before ++ prev.raw.source = upto ++ trailingBreaks prev.raw.body := by
    have hsource : prev.raw.source =
        prev.raw.lead ++ (prev.raw.core ++ trailingBreaks prev.raw.body) := by
      rw [RawRecord.core_append_trailingBreaks, lead_append_body]
    rw [hsource]
    simp [upto]
  have hgap : ∀ c ∈ gap, isBreak c = true := by
    intro c hc
    rcases List.mem_append.mp hc with hc | hc
    · exact RawRecord.isBreak_of_mem_trailingBreaks hc
    · exact RawRecord.isBreak_of_mem_lead _ hc
  have hlast : lastLine (before ++ prev.raw.source) = 1 + lineBreaks upto := by
    rw [htaken]
    exact lastLine_of_breaks hupto fun c hc => hgap c (List.mem_append_left _ hc)
  have hpos : 0 < lineBreaks gap :=
    lineBreaks_pos_of_breaks hgap (by simp [gap, RawRecord.trailingBreaks_ne_nil hprev hend])
  have hhere : here = 1 + (lineBreaks upto + lineBreaks gap) := by
    rw [← lineBreaks_append (.of_getLast hupto), ← List.append_assoc, ← htaken]
  have hcount : emptyLinesBetween prev.raw.body next.raw.lead = lineBreaks gap - 1 := rfl
  refine ⟨⟨b, body ++ rest, hfirst, hb⟩, rfl, rfl, fun _ => fields_of_mem_emptyRows, fun n => ?_⟩
  rw [exists_mem_emptyRows_iff (by omega), hcount, hlast]
  constructor
  · rintro ⟨hlow, hhigh⟩
    have hhead : ∀ c, (b :: (body ++ rest)).head? = some c → isBreak c = false := by
      rintro _ ⟨⟩
      exact hb
    have hempty := getElem?_linesOf_of_breaks (i := n - 1) hupto hgap hhead (by omega) (by omega)
    refine ⟨by omega, hhigh, ?_⟩
    rw [hfirst, htaken, List.append_assoc upto]
    exact hempty
  · rintro ⟨hlow, hhigh, -⟩
    exact ⟨by omega, hhigh⟩

/-! ## A whole file -/

theorem hasContent_of_decodeRecords {file : Bytes} {decoded : List Decoded}
    (h : decodeRecords 0 (records file) = .ok decoded) :
    ∀ d ∈ decoded, d.raw.HasContent ∧ d.cells ≠ [] := by
  intro d hd
  have hmem : d.raw ∈ records file := by
    rw [← raws_of_decodeRecords h]
    exact List.mem_map_of_mem hd
  obtain ⟨k, hcells⟩ := exists_decodeFields_of_mem h hd
  refine ⟨hasContent_of_mem hmem, fun hnil => fields_ne_nil_of_mem hmem ?_⟩
  rw [← List.length_eq_zero_iff, (forall₂_of_decodeFields hcells).length_eq, hnil, List.length_nil]

/-- A text is read with its empty lines. The rows with fields are its records, the first and the last row
among them, and lines grow. The row of a record after the first counts the breaks before its first byte.
Between the rows of two consecutive records there is one row for each line that is empty there. -/
theorem rows_of_readRows_keep (text : String) :
    let file := Text.encode text
    ∃ decoded rows, decodeRecords 0 (records file) = .ok decoded ∧ readRows .keep file = .ok rows ∧
      decoded.map Decoded.raw = records file ∧
      (recordRows rows).map Row.fields = decoded.map Decoded.cells ∧
      (∀ row, rows.head? = some row ∨ rows.getLast? = some row → row.fields ≠ []) ∧
      (rows.Pairwise fun a b => a.line < b.line) ∧
      ∀ earlier prev next later, decoded = earlier ++ prev :: next :: later →
        ∃ before row between row' after, rows = before ++ row :: (between ++ row' :: after) ∧
          (recordRows before).map Row.fields = earlier.map Decoded.cells ∧ row.fields = prev.cells ∧
          Between file ((earlier ++ [prev]).flatMap (·.raw.source)) next between row' := by
  intro file
  obtain ⟨decoded, hdecoded⟩ := exists_decodeRecords (isText_records text) 0
  have hraws := raws_of_decodeRecords hdecoded
  have hds := hasContent_of_decodeRecords hdecoded
  have hchain : (decoded.map Decoded.raw).IsChain fun r _ => r.Terminated := by
    rw [hraws]
    exact chain_records file
  have hrows : readRows .keep file = .ok (keepingRows decoded) := by
    rw [readRows, hdecoded]
    rfl
  refine ⟨decoded, keepingRows decoded, hdecoded, hrows, hraws, recordRows_keepingRows hds, ?_,
    pairwise_keepingRows (fun d hd => (hds d hd).1) hchain, ?_⟩
  · rintro row (hrow | hrow)
    · exact head_keepingRows (fun d hd => (hds d hd).2) hrow
    · exact getLast_keepingRows hds hrow
  · intro earlier prev next later hsplit
    subst hsplit
    have hearlier : ∀ e ∈ earlier, e.raw.HasContent ∧ e.cells ≠ [] := fun e he => hds e (by simp [he])
    obtain ⟨before, hkeep, hbefore⟩ := exists_keepingRows_split hearlier prev (next :: later)
    have hprev := (hds prev (by simp)).1
    have hpieces := pieces_records file
    rw [← hraws, show (earlier ++ prev :: next :: later).map Decoded.raw =
      (earlier ++ [prev]).map Decoded.raw ++ next.raw :: later.map Decoded.raw by simp] at hpieces
    obtain ⟨rest, hfile, -, hnext⟩ := hpieces.split
    have hend : prev.raw.Terminated := by
      rw [List.map_append, List.map_cons, List.map_cons] at hchain
      exact (List.isChain_append_cons_cons.mp hchain).2.1
    have htaken : (earlier ++ [prev]).flatMap (·.raw.source) =
        earlier.flatMap (·.raw.source) ++ prev.raw.source := by
      simp
    rw [List.flatMap_map, htaken] at hfile
    have hline : 1 + lineBreaks (earlier.flatMap (·.raw.source) ++ prev.raw.lead) +
        lineBreaks (prev.raw.body ++ next.raw.lead) =
          1 + lineBreaks (earlier.flatMap (·.raw.source) ++ prev.raw.source ++ next.raw.lead) := by
      rw [line_rowsAfter (RawRecord.body_ne_nil hprev) (RawRecord.head_body hprev),
        List.append_assoc (earlier.flatMap _), lead_append_body]
    rw [rowsAfter, hline] at hkeep
    rw [htaken]
    exact ⟨before, _, _, _, _, hkeep, hbefore, rfl, between_emptyRows hprev hend hnext hfile⟩

/-- The breaks inside quotes are no empty line, and of the two after the quote the first ends the
record. -/
theorem rows_of_readRows_keep_mixed :
    let file := Text.encode "a\r\n\r\n\"x\n\ny\"\r\r\nb\n"
    let rows : List Row := [⟨1, ["a"]⟩, ⟨2, []⟩, ⟨3, ["x\n\ny"]⟩, ⟨6, []⟩, ⟨7, ["b"]⟩]
    readRows .keep file = .ok rows ∧ (rows.Pairwise fun a b => a.line < b.line) ∧
      ∃ first quoted last, decodeRecords 0 (records file) = .ok [first, quoted, last] ∧
        ∃ before row between row' after, rows = before ++ row :: (between ++ row' :: after) ∧
          (recordRows before).map Row.fields = [first.cells] ∧ row.fields = quoted.cells ∧
          Between file ([first, quoted].flatMap (·.raw.source)) last between row' := by
  intro file rows
  have hrows : readRows .keep file = .ok rows := by rfl
  obtain ⟨first, quoted, last, hthree⟩ : ∃ first quoted last,
      decodeRecords 0 (records file) = .ok [first, quoted, last] := ⟨_, _, _, by rfl⟩
  obtain ⟨decoded, read, hdecoded, hread, -, -, -, hpairwise, hbetween⟩ :=
    rows_of_readRows_keep "a\r\n\r\n\"x\n\ny\"\r\r\nb\n"
  cases hread.symm.trans hrows
  cases hdecoded.symm.trans hthree
  exact ⟨hrows, hpairwise, first, quoted, last, hthree, hbetween [first] quoted last [] rfl⟩

end RecordReport.Csv
