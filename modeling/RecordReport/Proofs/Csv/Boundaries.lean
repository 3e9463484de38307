import RecordReport.Proofs.Csv.Places

/-!
# Files cut after a record

What follows a line that ends outside quotes is read as a file of its own, after what stands before it.
-/

namespace RecordReport.Csv

/-- The state after a byte. -/
def State.after (s : State) (b : UInt8) : State :=
  match s.step (Symbol.ofByte b) with
  | .skip next | .keep next => next
  | .endField => .fieldStart
  | .endRecord => .recordStart

/-- The state in which a file leaves the reader. -/
def stateAfter (file : Bytes) : State :=
  (file.drop (markOf file).length).foldl State.after .recordStart

/-! ## Reading on -/

/-- Nothing is left over at the end of a record. -/
theorem placedFrom_append {s : State} {c : Current} {bytes : Bytes}
    (hend : bytes.foldl State.after s = .recordStart)
    (hstart : s = .recordStart → c = { before := c.before }) (more : Bytes) :
    placedFrom s c (bytes ++ more) =
      placedFrom s c bytes ++
        placedFrom .recordStart { before := c.before ++ c.taken ++ bytes } more := by
  induction bytes generalizing s c with
  | nil =>
      have hs : s = .recordStart := hend
      rw [hstart hs, hs]
      simp [placedFrom]
  | cons b bytes ih =>
      rw [List.foldl_cons, State.after] at hend
      rw [List.cons_append, placedFrom, placedFrom]
      cases hstep : s.step (Symbol.ofByte b) with
      | skip next =>
          rw [hstep] at hend
          by_cases hnext : next = .recordStart
          · subst hnext
            obtain ⟨before, rfl⟩ : ∃ before, c = { before := before } :=
              ⟨_, hstart (recordStart_of_step_skip hstep)⟩
            have hdrop := ih (c := { before := before ++ [b] }) hend fun _ => rfl
            simpa [Current.skip] using hdrop
          · have hskip := ih (c := c.skip next b) hend fun hs => absurd hs hnext
            simpa [Current.skip, hnext] using hskip
      | keep next =>
          rw [hstep] at hend
          have hnext := ne_recordStart_of_step_keep hstep
          have hkeep := ih (c := c.keep b) hend fun hs => absurd hs hnext
          simpa [Current.keep] using hkeep
      | endField =>
          rw [hstep] at hend
          have hfield := ih (c := c.endField b) hend fun hs => by cases hs
          simpa [Current.endField] using hfield
      | endRecord =>
          rw [hstep] at hend
          have hrest := ih (c := c.next b) hend fun _ => rfl
          simpa [Current.next] using hrest

theorem after_lineFeed {s : State} (h : s.after 10 ≠ .quoted) : s.after 10 = .recordStart := by
  cases s with
  | quoted => exact absurd rfl h
  | recordStart | fieldStart | bare | quoteSeen => rfl

theorem isPrefixOf_append_of_getLast {start file : Bytes} (hstart : 10 ∉ start)
    (hfile : file.getLast? = some 10) (more : Bytes) :
    start.isPrefixOf (file ++ more) = start.isPrefixOf file := by
  induction start generalizing file with
  | nil => simp
  | cons a start ih =>
      cases file with
      | nil => cases hfile
      | cons b file =>
          rw [List.cons_append, List.isPrefixOf_cons_cons, List.isPrefixOf_cons_cons]
          cases file with
          | nil =>
              obtain rfl : b = 10 := by simpa using hfile
              have ha : (a == 10) = false := by simpa using Ne.symm (List.ne_of_not_mem_cons hstart)
              rw [ha]
              rfl
          | cons c file =>
              rw [List.getLast?_cons_cons] at hfile
              rw [ih (List.not_mem_of_not_mem_cons hstart) hfile]

theorem markOf_append {file : Bytes} (hfile : file.getLast? = some 10) (more : Bytes) :
    markOf (file ++ more) = markOf file := by
  rw [markOf, markOf, isPrefixOf_append_of_getLast (by decide) hfile]

/-- After a line feed outside quotes, records are those of what follows. -/
theorem placed_append {file : Bytes} (hfile : file.getLast? = some 10)
    (hstate : stateAfter file ≠ .quoted) (more : Bytes) :
    placed (file ++ more) = placed file ++ placedFrom .recordStart { before := file } more := by
  have hmark := markOf_append hfile more
  have hcut := markOf_append_drop file
  rw [stateAfter] at hstate
  generalize file.drop (markOf file).length = rest at hcut hstate
  generalize hof : markOf file = mark at *
  subst hcut
  have hend : rest.foldl State.after .recordStart = .recordStart := by
    rcases List.eq_nil_or_concat rest with rfl | ⟨bytes, b, rfl⟩
    · rfl
    · rw [List.concat_eq_append, ← List.append_assoc, List.getLast?_concat] at hfile
      cases hfile
      rw [List.concat_eq_append, List.foldl_append] at hstate ⊢
      exact after_lineFeed hstate
  rw [List.append_assoc] at hmark ⊢
  rw [placed_eq hmark, placed_eq hof]
  have happend := placedFrom_append (c := { before := mark }) hend (fun _ => rfl) more
  rwa [List.append_nil] at happend

/-- The record after some bytes. -/
def Placed.after (u : Bytes) (p : Placed) : Placed := ⟨u ++ p.before, p.fields⟩

/-- Bytes before the reader are bytes before each record. -/
theorem placedFrom_before (u : Bytes) (s : State) (c : Current) (bytes : Bytes) :
    placedFrom s { c with before := u ++ c.before } bytes =
      (placedFrom s c bytes).map (Placed.after u) := by
  induction bytes generalizing s c with
  | nil =>
      rw [placedFrom, placedFrom]
      split <;> rfl
  | cons b bytes ih =>
      rw [placedFrom, placedFrom]
      cases hstep : s.step (Symbol.ofByte b) with
      | skip next =>
          have hskip : ({ c with before := u ++ c.before } : Current).skip next b =
              { c.skip next b with before := u ++ (c.skip next b).before } := by
            rw [Current.skip, Current.skip]
            split
            · simp
            · rfl
          simp only [hskip]
          exact ih next (c.skip next b)
      | keep next => exact ih next (c.keep b)
      | endField => exact ih .fieldStart (c.endField b)
      | endRecord =>
          have hnext : ({ c with before := u ++ c.before } : Current).next b =
              { c.next b with before := u ++ (c.next b).before } := by
            simp [Current.next]
          simp only [hnext, List.map_cons]
          rw [ih .recordStart (c.next b)]
          rfl

theorem placedFrom_recordStart (u more : Bytes) :
    placedFrom .recordStart { before := u } more =
      (placedFrom .recordStart {} more).map (Placed.after u) := by
  have hbefore := placedFrom_before u .recordStart {} more
  rwa [List.append_nil] at hbefore

/-! ## What follows -/

theorem content_placedOf {taken : Bytes} (h : ∃ b ∈ taken, isBreak b = false) (rs : List RawRecord) :
    ∀ p ∈ placedOf taken rs, ∃ b ∈ p.before, isBreak b = false := by
  obtain ⟨b, hb, hcontent⟩ := h
  induction rs generalizing taken with
  | nil => simp [placedOf]
  | cons r rs ih =>
      refine List.forall_mem_cons.mpr ⟨⟨b, List.mem_append_left _ hb, hcontent⟩, ?_⟩
      exact ih (List.mem_append_left _ hb)

/-- Nothing but breaks stands before the first record of what follows, and more before the others. -/
theorem placedFrom_cases (bytes : Bytes) :
    placedFrom .recordStart {} bytes = [] ∨
      ∃ gap fields ps, placedFrom .recordStart {} bytes = ⟨gap, fields⟩ :: ps ∧
        (∀ b ∈ gap, isBreak b = true) ∧ ∀ p ∈ ps, ∃ b ∈ p.before, isBreak b = false := by
  have hplaced := placedOf_recordsFrom (.fresh .start []) (.fresh [] .start) bytes
  have hpieces := pieces_recordsFrom (.fresh .start) bytes
  generalize recordsFrom .recordStart (.fresh .start) bytes = rs at hplaced hpieces
  rw [← hplaced]
  cases rs with
  | nil => exact Or.inl rfl
  | cons r rs =>
      have hsplit : Pieces _ _ ([] ++ r :: rs) := hpieces
      obtain ⟨-, -, -, hcontent⟩ := hsplit.split
      exact Or.inr ⟨_, _, _, rfl, fun _ => r.isBreak_of_mem_lead, content_placedOf hcontent rs⟩

/-! ## An empty line and a row of blank fields -/

theorem apart_of_lineFeed {bytes : Bytes} (h : bytes.getLast? = some 10) (more : Bytes) :
    Apart bytes more :=
  Or.inl (by simp [h])

theorem emptyRows_add (line m n : Nat) :
    emptyRows line (m + n) = emptyRows (line - n) m ++ emptyRows line n := by
  rw [emptyRows, emptyRows, emptyRows, Nat.add_comm m n, List.range_add, List.reverse_append,
    List.map_append, ← List.map_reverse, List.map_map]
  congr 1
  refine List.map_congr_left fun i _ => ?_
  rw [Function.comp_apply, Nat.add_assoc, Nat.sub_sub]

/-- The bytes of three commas and a line feed. -/
def blankLine : Bytes := [44, 44, 44, 10]

section Inserted

variable {file : Bytes} (hfile : file.getLast? = some 10)

include hfile

theorem lineBreaks_lineFeed (gap : Bytes) :
    lineBreaks (file ++ [10] ++ gap) = lineBreaks file + 1 + lineBreaks gap := by
  rw [lineBreaks_append (apart_of_lineFeed (by simp) _), lineBreaks_append (apart_of_lineFeed hfile _)]
  rfl

theorem lineBreaks_blankLine (gap : Bytes) :
    lineBreaks (file ++ blankLine ++ gap) = lineBreaks file + 1 + lineBreaks gap := by
  rw [lineBreaks_append (apart_of_lineFeed (by simp [blankLine]) _),
    lineBreaks_append (apart_of_lineFeed hfile _)]
  rfl

theorem trailingBreaks_of_lineFeed {gap : Bytes} (hgap : ∀ b ∈ gap, isBreak b = true) :
    lineBreaks (trailingBreaks (file ++ [10] ++ gap)) =
      lineBreaks (trailingBreaks file) + 1 + lineBreaks gap := by
  obtain ⟨bytes, rfl⟩ := List.getLast?_eq_some_iff.mp hfile
  rw [trailingBreaks_append_breaks _ hgap, trailingBreaks_append_breaks _ isBreak_lineFeed,
    trailingBreaks_append_breaks _ isBreak_lineFeed, lineBreaks_lineFeed (by simp)]

/-- What stands far before a record matters by its lines only. -/
theorem rows_after_content {p : Placed} (hp : ∃ b ∈ p.before, isBreak b = false) :
    (p.after (file ++ [10])).rows = (p.after (file ++ blankLine)).rows := by
  simp only [Placed.rows, Placed.line, Placed.after]
  rw [lineBreaks_lineFeed hfile, lineBreaks_blankLine hfile, trailingBreaks_append_content _ hp,
    trailingBreaks_append_content _ hp]

/-- The empty line before a record is the last of those after the file, and first of those before it. -/
theorem rows_after_gap {gap : Bytes} (hgap : ∀ b ∈ gap, isBreak b = true) (fields : List Bytes) :
    ((⟨gap, fields⟩ : Placed).after (file ++ [10])).rows =
      emptyRows (1 + lineBreaks file) (lineBreaks (trailingBreaks file) - 1) ++
        ⟨1 + lineBreaks file, []⟩ :: ((⟨gap, fields⟩ : Placed).after (file ++ blankLine)).rows := by
  have hpos : 0 < lineBreaks (trailingBreaks file) := by
    obtain ⟨bytes, rfl⟩ := List.getLast?_eq_some_iff.mp hfile
    refine lineBreaks_pos_of_breaks (fun _ => RawRecord.isBreak_of_mem_trailingBreaks) ?_
    rw [trailingBreaks_append_breaks _ isBreak_lineFeed]
    simp
  have htrailing : lineBreaks (trailingBreaks (file ++ blankLine ++ gap)) = 1 + lineBreaks gap := by
    have hcut : file ++ blankLine ++ gap = file ++ [44, 44, 44] ++ ([10] ++ gap) := by simp [blankLine]
    have hbreaks : ∀ b ∈ [10] ++ gap, isBreak b = true := List.forall_mem_cons.mpr ⟨rfl, hgap⟩
    have hcommas : trailingBreaks (file ++ [44, 44, 44]) = [] :=
      trailingBreaks_append_content _ ⟨44, by decide⟩
    rw [hcut, trailingBreaks_append_breaks _ hbreaks, hcommas, List.nil_append,
      lineBreaks_append (apart_of_lineFeed rfl _)]
    rfl
  simp only [Placed.rows, Placed.line, Placed.after]
  rw [lineBreaks_lineFeed hfile, lineBreaks_blankLine hfile, trailingBreaks_of_lineFeed hfile hgap,
    htrailing]
  generalize lineBreaks (trailingBreaks file) = m at *
  generalize lineBreaks file = l
  generalize lineBreaks gap = n
  have hcount : m + 1 + n - 1 = m - 1 + 1 + n := by omega
  have hline : 1 + (l + 1 + n) - n = 1 + l + 1 := by omega
  have hone : emptyRows (1 + l + 1) 1 = [⟨1 + l, []⟩] := rfl
  rw [hcount, emptyRows_add, hline, emptyRows_add _ (m - 1) 1, hone, Nat.add_sub_cancel,
    Nat.add_sub_cancel_left]
  simp

/-- With an empty line in place of a row of blank fields, one row has no field. If no record follows it is
left out, as are the rows of the empty lines before it. -/
theorem laterRows_blankLine (hstate : stateAfter file ≠ .quoted) (hrecord : records file ≠ [])
    (more : Bytes) :
    let line := 1 + lineBreaks file
    let empty := emptyRows line (lineBreaks (trailingBreaks file) - 1)
    let blank : Row := ⟨line, ["", "", "", ""]⟩
    (laterRows (file ++ [10] ++ more) = laterRows file ∧
      laterRows (file ++ blankLine ++ more) = laterRows file ++ (empty ++ [blank])) ∨
    ∃ later, laterRows (file ++ [10] ++ more) = laterRows file ++ empty ++ ⟨line, []⟩ :: later ∧
      laterRows (file ++ blankLine ++ more) = laterRows file ++ empty ++ blank :: later := by
  intro line empty blank
  have hne : placed file ≠ [] := fun hnil => hrecord (placed_eq_nil_iff.mp hnil)
  have hrows (others : Bytes) : laterRows (file ++ others) =
      laterRows file ++ (placedFrom .recordStart { before := file } others).flatMap Placed.rows := by
    rw [laterRows, placed_append hfile hstate, List.tail_append_of_ne_nil hne, List.flatMap_append]
    rfl
  have hfeed : placedFrom .recordStart { before := file } ([10] ++ more) =
      (placedFrom .recordStart {} more).map (Placed.after (file ++ [10])) :=
    placedFrom_recordStart _ more
  have hcommas : placedFrom .recordStart { before := file } (blankLine ++ more) =
      ⟨file, [[], [], [], []]⟩ ::
        (placedFrom .recordStart {} more).map (Placed.after (file ++ blankLine)) := by
    rw [← placedFrom_recordStart]
    have hread : placedFrom .recordStart { before := file } (blankLine ++ more) =
        ⟨file, [[], [], [], []]⟩ ::
          placedFrom .recordStart { before := file ++ [44, 44, 44] ++ [10] } more := rfl
    rw [hread, List.append_assoc]
    rfl
  -- The blank record brings the rows of the empty lines before it, also where no record follows.
  have hblank : (⟨file, [[], [], [], []]⟩ : Placed).rows = empty ++ [blank] := rfl
  rw [List.append_assoc, List.append_assoc, hrows, hrows, hfeed, hcommas, List.flatMap_cons, hblank]
  rcases placedFrom_cases more with hnil | ⟨gap, fields, ps, hcons, hgap, hps⟩
  · left
    rw [hnil]
    exact ⟨List.append_nil _, by simp⟩
  · right
    have hsame : (ps.map (Placed.after (file ++ [10]))).flatMap Placed.rows =
        (ps.map (Placed.after (file ++ blankLine))).flatMap Placed.rows := by
      rw [List.flatMap_map, List.flatMap_map]
      exact List.flatMap_congr fun p hp => rows_after_content hfile (hps p hp)
    rw [hcons, List.map_cons, List.map_cons, List.flatMap_cons, List.flatMap_cons, hsame,
      rows_after_gap hfile hgap]
    refine ⟨((⟨gap, fields⟩ : Placed).after (file ++ blankLine)).rows ++
      (ps.map (Placed.after (file ++ blankLine))).flatMap Placed.rows, ?_, ?_⟩
    · simp [empty, line]
    · simp

end Inserted

end RecordReport.Csv
