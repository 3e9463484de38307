import RecordReport.Proofs.Csv.Loops

/-!
# Offsets stay in order

The loop that keeps empty lines slices the file at offsets and subtracts offsets and lines. Here each of
these steps is checked. No check fails, whatever the bytes are and wherever the reads stop, and as long as
the reads go forward the offsets are in order.
-/

namespace RecordReport.Csv

/-- No read begins before the place where the one before it stopped. A read itself stops after the bytes it
takes, so it does not go back either. -/
def Forward (rs : List RawRecord) : Prop := rs.IsChain fun r next => r.stop.byte ≤ next.start.byte

/-- The offset after the last byte of a record. -/
def recordEnd (file : Bytes) (r : RawRecord) : Nat := max (offset file r.stop) (offset file r.start)

/-! ## Checked steps -/

/-- Why a checked run of the loop ends early. -/
inductive Halt where
  | fault (fault : Undecodable)
  /-- An offset is outside its range, or a difference is negative. -/
  | outOfRange
  deriving DecidableEq, Repr

/-- A value that may be used only under a condition. -/
def guarded {α : Type} (p : Prop) [Decidable p] (a : α) : Except Halt α :=
  if p then .ok a else .error .outOfRange

def strictSlice (file : Bytes) (first last : Nat) : Except Halt Bytes :=
  guarded (first ≤ last ∧ last ≤ file.length) (slice file first last)

/-- The line breaks between two offsets, if every byte there is one of the file. -/
def strictBreaks (file : Bytes) (first last : Nat) : Except Halt Nat :=
  guarded (∀ i ∈ List.range' first (last - first), i < file.length) (breaksBetween file first last)

def strictSub (a b : Nat) : Except Halt Nat := guarded (b ≤ a) (a - b)

def strictEmptyRow (line i : Nat) : Except Halt Row := do
  let here ← strictSub line (i + 1)
  return ⟨here, []⟩

def strictEmptyRows (line count : Nat) : Except Halt (List Row) :=
  (List.range count).reverse.mapM (strictEmptyRow line)

namespace Bookmarks

variable (marks : Bookmarks) (file : Bytes)

/-- The rows of the empty lines before a record. One break ends the record before it. -/
def strictRows (content line : Nat) : Except Halt (List Row) :=
  match marks.previousEnd with
  | some previousEnd => do
    let breaks ← strictBreaks file previousEnd content
    strictEmptyRows line (breaks - 1)
  | none => .ok []

/-- One turn of the loop. -/
def strictNext (r : RawRecord) : Except Halt (Bookmarks × List Row) := do
  let start := offset file r.start
  let source ← strictSlice file start (recordEnd file r)
  let content := start + (source.takeWhile isBreak).length
  let breaks ← strictBreaks file marks.counted content
  let line := marks.line + breaks
  let empty ← marks.strictRows file content line
  let body ← strictSlice file content (recordEnd file r)
  let previousEnd ← strictSub (recordEnd file r) (trailingBreaks body).length
  return ({ counted := content, line := line, previousEnd := some previousEnd }, empty)

end Bookmarks

/-- The loop that keeps empty lines, with every step checked. -/
def strictLoop (file : Bytes) (marks : Bookmarks) (ordinal : Nat) :
    List RawRecord → Except Halt (List Row)
  | [] => .ok []
  | r :: rest => do
    let cells ← (decodeFields ordinal r 0 r.fields).mapError .fault
    let (next, empty) ← marks.strictNext file r
    let rows ← strictLoop file next (ordinal + 1) rest
    return empty ++ ⟨next.line, cells⟩ :: rows

section Checks

variable {α β : Type} {file : Bytes}

theorem guarded_eq {p : Prop} [Decidable p] (h : p) (a : α) : guarded p a = .ok a := if_pos h

theorem bind_of_eq_ok {x : Except Halt α} {a : α} (h : x = .ok a) (f : α → Except Halt β) :
    x >>= f = f a := by
  rw [h]
  rfl

theorem strictSlice_eq {first last : Nat} (h : first ≤ last) (hlast : last ≤ file.length) :
    strictSlice file first last = .ok (slice file first last) :=
  guarded_eq ⟨h, hlast⟩ _

theorem strictBreaks_eq (first : Nat) {last : Nat} (hlast : last ≤ file.length) :
    strictBreaks file first last = .ok (breaksBetween file first last) := by
  refine guarded_eq (fun i hi => ?_) _
  have hi := List.mem_range'_1.mp hi
  omega

theorem strictEmptyRow_eq {line i : Nat} (h : i < line) :
    strictEmptyRow line i = .ok ⟨line - (i + 1), []⟩ := by
  rw [strictEmptyRow, strictSub, guarded_eq (Nat.succ_le_of_lt h)]
  rfl

theorem strictEmptyRows_eq {line count : Nat} (h : count < line) :
    strictEmptyRows line count = .ok (emptyRows line count) := by
  have hbelow : ∀ i ∈ (List.range count).reverse, i < line := fun i hi =>
    (List.mem_range.mp (List.mem_reverse.mp hi)).trans h
  rw [strictEmptyRows, emptyRows]
  generalize (List.range count).reverse = indices at hbelow
  induction indices with
  | nil => rfl
  | cons i indices ih =>
      obtain ⟨hi, hindices⟩ := List.forall_mem_cons.mp hbelow
      rw [List.mapM_cons, strictEmptyRow_eq hi, ih hindices]
      rfl

end Checks

/-! ## Offsets of one record -/

section Record

variable (file : Bytes)

theorem offset_le (p : Position) : offset file p ≤ file.length := Nat.min_le_right _ _

theorem length_slice_le (first last : Nat) : (slice file first last).length ≤ last - first :=
  List.length_take_le _ _

variable (r : RawRecord)

theorem recordEnd_le : recordEnd file r ≤ file.length :=
  Nat.max_le.mpr ⟨offset_le file _, offset_le file _⟩

theorem start_le_recordEnd : offset file r.start ≤ recordEnd file r := Nat.le_max_right _ _

theorem start_le_contentStart : offset file r.start ≤ contentStart file r := Nat.le_add_right _ _

theorem contentStart_le_recordEnd : contentStart file r ≤ recordEnd file r := by
  let source := slice file (offset file r.start) (recordEnd file r)
  have hlead : (source.takeWhile isBreak).length ≤ source.length :=
    (List.takeWhile_prefix isBreak).length_le
  have hsource : source.length ≤ recordEnd file r - offset file r.start := length_slice_le _ _ _
  have hstart := start_le_recordEnd file r
  calc
    contentStart file r = offset file r.start + (source.takeWhile isBreak).length := rfl
    _ ≤ recordEnd file r := by omega

/-- The breaks with which a record ends. A quote without its end may hold some of them. -/
def recordTail : Bytes := trailingBreaks (slice file (contentStart file r) (recordEnd file r))

/-- The breaks at the end of a record do not reach back to those before it. -/
theorem length_recordTail_le : (recordTail file r).length ≤ recordEnd file r - contentStart file r := by
  let body := slice file (contentStart file r) (recordEnd file r)
  calc
    (recordTail file r).length = (body.reverse.takeWhile isBreak).length := List.length_reverse
    _ ≤ body.reverse.length := (List.takeWhile_prefix isBreak).length_le
    _ = body.length := List.length_reverse
    _ ≤ recordEnd file r - contentStart file r := length_slice_le _ _ _

theorem recordEnd_le_start {r next : RawRecord} (h : r.stop.byte ≤ next.start.byte) :
    recordEnd file r ≤ offset file next.start := by
  have hread : r.start.byte ≤ r.stop.byte := by
    rw [RawRecord.stop, byte_foldl_advance]
    omega
  rw [recordEnd, offset, offset, offset]
  omega

theorem breaksBetween_le {first later : Nat} (h : first ≤ later) (last : Nat) :
    breaksBetween file later last ≤ breaksBetween file first last := by
  rcases Nat.le_total later last with hlast | hlast
  · obtain ⟨m, rfl⟩ := Nat.exists_eq_add_of_le h
    obtain ⟨n, rfl⟩ := Nat.exists_eq_add_of_le hlast
    have hrange : List.range' first (m + n) = List.range' first m ++ List.range' (first + m) n :=
      List.range'_append_1.symm
    rw [breaksBetween, breaksBetween, Nat.add_sub_cancel_left, Nat.add_assoc, Nat.add_sub_cancel_left,
      hrange, List.countP_append]
    exact Nat.le_add_left _ _
  · rw [breaksBetween, Nat.sub_eq_zero_of_le hlast]
    exact Nat.zero_le _

end Record

/-! ## What each turn keeps -/

namespace Bookmarks

/-- A record does not end before its first byte, and lines are counted from the first on. -/
structure Kept (marks : Bookmarks) : Prop where
  line : 1 ≤ marks.line
  previousEnd : ∀ e ∈ marks.previousEnd, marks.counted ≤ e

/-- The bookmarks after some records. -/
def past (file : Bytes) (rs : List RawRecord) : Bookmarks :=
  rs.foldl (fun marks r => marks.next file r) {}

theorem past_concat (file : Bytes) (before : List RawRecord) (prev : RawRecord) :
    past file (before ++ [prev]) = (past file before).next file prev := by
  rw [past, List.foldl_concat]
  rfl

variable {marks : Bookmarks} {file : Bytes}

section Next

variable (marks file) (r : RawRecord)

theorem next_counted : (marks.next file r).counted = contentStart file r := rfl

theorem next_line : (marks.next file r).line =
    marks.line + breaksBetween file marks.counted (contentStart file r) := rfl

theorem next_previousEnd : (marks.next file r).previousEnd =
    some (recordEnd file r - (recordTail file r).length) := rfl

end Next

namespace Kept

theorem start : ({} : Bookmarks).Kept := ⟨Nat.le_refl 1, by simp⟩

theorem next (h : marks.Kept) (file : Bytes) (r : RawRecord) : (marks.next file r).Kept := by
  refine ⟨h.line.trans (Nat.le_add_right _ _), fun e he => ?_⟩
  rw [next_previousEnd] at he
  obtain rfl := Option.some.inj he
  have htail := length_recordTail_le file r
  have hcontent := contentStart_le_recordEnd file r
  rw [next_counted]
  omega

theorem foldl (h : marks.Kept) (file : Bytes) (rs : List RawRecord) :
    (rs.foldl (fun marks r => marks.next file r) marks).Kept := by
  induction rs generalizing marks with
  | nil => exact h
  | cons r rs ih => exact ih (h.next file r)

/-- The empty lines before a record are among the lines before it. -/
theorem skipped_lt (h : marks.Kept) (file : Bytes) (r : RawRecord) :
    marks.skipped file r < (marks.next file r).line := by
  -- The breaks after the end of the record before are counted in this turn, as that end is not before what
  -- has been counted. This is so even if the read goes back.
  have hline := h.line
  rw [next_line, skipped]
  cases hprevious : marks.previousEnd with
  | none => exact Nat.lt_add_right _ hline
  | some e =>
      have hbreaks := breaksBetween_le file (h.previousEnd e hprevious) (contentStart file r)
      dsimp only
      omega

/-! ## No check fails -/

theorem strictRows_eq (h : marks.Kept) (file : Bytes) (r : RawRecord) :
    marks.strictRows file (contentStart file r) (marks.next file r).line =
      .ok (emptyRows (marks.next file r).line (marks.skipped file r)) := by
  have hcontent := (contentStart_le_recordEnd file r).trans (recordEnd_le file r)
  have hskipped := h.skipped_lt file r
  rw [strictRows]
  rw [skipped] at hskipped ⊢
  cases hprevious : marks.previousEnd with
  | none => rfl
  | some e =>
      rw [hprevious] at hskipped
      dsimp only at hskipped ⊢
      rw [bind_of_eq_ok (strictBreaks_eq e hcontent), strictEmptyRows_eq hskipped]

theorem strictNext_eq (h : marks.Kept) (file : Bytes) (r : RawRecord) :
    marks.strictNext file r =
      .ok (marks.next file r, emptyRows (marks.next file r).line (marks.skipped file r)) := by
  have hcontent := contentStart_le_recordEnd file r
  have hend := recordEnd_le file r
  have hsource := strictSlice_eq (start_le_recordEnd file r) hend
  have hbreaks := strictBreaks_eq marks.counted (hcontent.trans hend)
  have hbody := strictSlice_eq hcontent hend
  have htail : strictSub (recordEnd file r) (recordTail file r).length =
      .ok (recordEnd file r - (recordTail file r).length) :=
    guarded_eq ((length_recordTail_le file r).trans (Nat.sub_le _ _)) _
  -- The checks are passed in the order of the turn.
  rw [strictNext]
  refine (bind_of_eq_ok hsource _).trans ?_
  refine (bind_of_eq_ok hbreaks _).trans ?_
  refine (bind_of_eq_ok (h.strictRows_eq file r) _).trans ?_
  refine (bind_of_eq_ok hbody _).trans ?_
  exact bind_of_eq_ok htail _

end Kept
end Bookmarks

/-- The checked loop is the loop without checks. -/
theorem strictLoop_eq {marks : Bookmarks} (h : marks.Kept) (file : Bytes) (ordinal : Nat)
    (rs : List RawRecord) :
    strictLoop file marks ordinal rs = (keepLoop file marks ordinal rs).mapError .fault := by
  induction rs generalizing marks ordinal with
  | nil => rfl
  | cons r rs ih =>
      rw [strictLoop, keepLoop, mapError_bind]
      refine bind_congr fun cells => ?_
      rw [bind_of_eq_ok (h.strictNext_eq file r), mapError_bind]
      dsimp only
      rw [ih (h.next file r)]
      rfl

/-- Reading goes on from the bookmarks after the records that have been read. -/
theorem keepLoop_append (file : Bytes) (marks : Bookmarks) (ordinal : Nat) (earlier rs : List RawRecord) :
    keepLoop file marks ordinal (earlier ++ rs) = do
      let rows ← keepLoop file marks ordinal earlier
      let later ← keepLoop file (earlier.foldl (fun marks r => marks.next file r) marks)
        (ordinal + earlier.length) rs
      return rows ++ later := by
  induction earlier generalizing marks ordinal with
  | nil =>
      change _ = keepLoop file marks ordinal rs >>= fun later => pure later
      rw [bind_pure]
      rfl
  | cons r earlier ih =>
      have hordinal : ordinal + (r :: earlier).length = ordinal + 1 + earlier.length := by
        rw [List.length_cons]
        omega
      rw [List.cons_append, keepLoop, keepLoop, hordinal, List.foldl_cons]
      simp only [ih, bind_assoc, pure_bind, List.append_assoc, List.cons_append]

/-! ## Reads that go forward -/

theorem Pieces.forward {p : Position} {bytes : Bytes} {rs : List RawRecord} (h : Pieces p bytes rs) :
    Forward rs ∧ ∀ r ∈ rs.head?, p.byte ≤ r.start.byte := by
  induction h with
  | nil => exact ⟨.nil, by simp⟩
  | cons _ _ ih =>
      refine ⟨List.isChain_cons.mpr ⟨ih.2, ih.1⟩, ?_⟩
      rintro _ ⟨⟩
      exact Nat.le_refl _

namespace Bookmarks

/-- The order of the offsets in one turn of the loop. No row of an empty line is before the first line. -/
structure InOrder (marks : Bookmarks) (file : Bytes) (r : RawRecord) : Prop where
  content_ge : offset file r.start ≤ contentStart file r
  content_le : contentStart file r ≤ recordEnd file r
  end_le : recordEnd file r ≤ file.length
  counted_le : marks.counted ≤ contentStart file r
  previousEnd_le : ∀ e ∈ marks.previousEnd, e ≤ contentStart file r
  line : ∀ i, 1 ≤ i → i ≤ marks.skipped file r → 1 ≤ (marks.next file r).line - i

variable (file : Bytes) {earlier later : List RawRecord} {r : RawRecord}

/-- What is kept of the records before lies before the place where the next read begins. -/
theorem past_le_start (h : Forward (earlier ++ r :: later)) :
    (past file earlier).counted ≤ offset file r.start ∧
      ∀ e ∈ (past file earlier).previousEnd, e ≤ offset file r.start := by
  -- Only the last of the earlier records counts: both offsets are in it.
  rcases List.eq_nil_or_concat earlier with rfl | ⟨before, prev, rfl⟩
  · exact ⟨Nat.zero_le _, by simp [past]⟩
  · rw [List.concat_eq_append] at h ⊢
    rw [List.append_assoc] at h
    have hstop := recordEnd_le_start file (List.isChain_append_cons_cons.mp h).2.1
    rw [past_concat, next_counted, next_previousEnd]
    refine ⟨(contentStart_le_recordEnd file prev).trans hstop, fun e he => ?_⟩
    obtain rfl := Option.some.inj he
    exact (Nat.sub_le _ _).trans hstop

theorem inOrder_past (h : Forward (earlier ++ r :: later)) : (past file earlier).InOrder file r := by
  obtain ⟨hcounted, hprevious⟩ := past_le_start file h
  have hcontent := start_le_contentStart file r
  have hskipped := (Kept.start.foldl file earlier).skipped_lt file r
  exact {
    content_ge := hcontent
    content_le := contentStart_le_recordEnd file r
    end_le := recordEnd_le file r
    counted_le := hcounted.trans hcontent
    previousEnd_le := fun e he => (hprevious e he).trans hcontent
    line := fun i _ hi => Nat.sub_pos_of_lt (hi.trans_lt hskipped) }

end Bookmarks

/-- Whatever the bytes are, the reads of a file go forward and no check of the loop fails. For any reads no
check fails, and if they go forward, the offsets are in order in each turn of the loop. The record before
ends between its own first byte and that of the next. -/
theorem offsets_in_order (file : Bytes) :
    (Forward (records file) ∧
      strictLoop file {} 0 (records file) = (readRows .keep file).mapError .fault) ∧
    ∀ rs, strictLoop file {} 0 rs = (keepLoop file {} 0 rs).mapError .fault ∧
      (Forward rs → ∀ earlier r later, rs = earlier ++ r :: later →
        (keepLoop file {} 0 rs = do
          let rows ← keepLoop file {} 0 earlier
          let others ← keepLoop file (.past file earlier) earlier.length (r :: later)
          return rows ++ others) ∧
        (Bookmarks.past file earlier).InOrder file r ∧
        ∀ before prev, earlier = before ++ [prev] →
          ∃ e, (Bookmarks.past file earlier).previousEnd = some e ∧
            contentStart file prev ≤ e ∧ e ≤ contentStart file r) := by
  have hpieces := pieces_records file
  have hloop := fun rs => strictLoop_eq .start file 0 rs
  refine ⟨⟨hpieces.forward.1, ?_⟩, fun rs => ⟨hloop rs, ?_⟩⟩
  · rw [hloop, keepLoop_eq hpieces rfl]
    rfl
  · rintro hforward earlier r later rfl
    have horder := Bookmarks.inOrder_past file hforward
    refine ⟨?_, horder, ?_⟩
    · have happend := keepLoop_append file {} 0 earlier (r :: later)
      rwa [Nat.zero_add] at happend
    · rintro before prev rfl
      have hkept := Bookmarks.Kept.start.foldl file (before ++ [prev])
      rw [← Bookmarks.past] at hkept
      rw [Bookmarks.past_concat] at horder hkept ⊢
      exact ⟨_, rfl, hkept.previousEnd _ rfl, horder.previousEnd_le _ rfl⟩

/-- A file with a byte order mark, an empty line, and a quote without its end that holds a byte of no text.
Only that byte stops the loop. -/
theorem offsets_in_order_unended :
    let file : Bytes := [0xEF, 0xBB, 0xBF, 97, 13, 10, 13, 10, 98, 10, 34, 0xFF, 10, 13]
    let first : RawRecord := ⟨⟨0, 1⟩, [0xEF, 0xBB, 0xBF, 97, 13], [[97]]⟩
    let second : RawRecord := ⟨⟨5, 1⟩, [10, 13, 10, 98, 10], [[98]]⟩
    let last : RawRecord := ⟨⟨10, 4⟩, [34, 0xFF, 10, 13], [[0xFF, 10, 13]]⟩
    records file = [first, second, last] ∧ Forward [first, second, last] ∧
      strictLoop file {} 0 [first, second, last] = .error (.fault ⟨2, ⟨10, 4⟩, 0, 0⟩) ∧
      (Bookmarks.past file [first]).skipped file second = 1 ∧
      (Bookmarks.past file [first]).InOrder file second ∧
      (Bookmarks.past file [first, second]).InOrder file last ∧
      ∃ e, (Bookmarks.past file [first, second]).previousEnd = some e ∧
        contentStart file second ≤ e ∧ e ≤ contentStart file last := by
  intro file first second last
  have hforward : Forward [first, second, last] := by
    unfold Forward
    decide
  obtain ⟨-, hreads⟩ := offsets_in_order file
  obtain ⟨hloop, horder⟩ := hreads [first, second, last]
  obtain ⟨-, hsecond, -⟩ := horder hforward [first] second [last] rfl
  obtain ⟨-, hlast, hprevious⟩ := horder hforward [first, second] last [] rfl
  have hfault : keepLoop file {} 0 [first, second, last] = .error ⟨2, ⟨10, 4⟩, 0, 0⟩ := by rfl
  rw [hfault] at hloop
  exact ⟨by rfl, hforward, hloop, by decide +kernel, hsecond, hlast, hprevious [first] second rfl⟩

end RecordReport.Csv
