import RecordReport.Proofs.Csv.EmptyLines

/-!
# Reading record by record

A file can be read in two loops, one for each use of its empty lines. The second finds the empty lines
with offsets into the file, which it keeps from one record to the next. Both loops decode the same records
and stop at the same fault, and they are the two ways to read the rows of a file.
-/

namespace RecordReport.Csv

/-! ## Offsets -/

/-- The bytes from one offset up to another. -/
def slice (file : Bytes) (first last : Nat) : Bytes := (file.drop first).take (last - first)

/-- The line breaks from one offset up to another. Whether a carriage return has its line feed is seen in
the file, also at the last offset. -/
def breaksBetween (file : Bytes) (first last : Nat) : Nat :=
  (List.range' first (last - first)).countP fun i =>
    file[i]? = some 10 || (file[i]? = some 13 && file[i + 1]? != some 10)

/-- The offset of a position. -/
def offset (file : Bytes) (p : Position) : Nat := min p.byte file.length

theorem slice_append {file xs ys zs : Bytes} {first last : Nat} (hfile : file = xs ++ ys ++ zs)
    (hfirst : first = xs.length) (hlast : last = first + ys.length) : slice file first last = ys := by
  subst hfile hfirst hlast
  rw [slice, List.append_assoc, List.drop_left, Nat.add_sub_cancel_left, List.take_left]

theorem breaksBetween_append {file xs ys zs : Bytes} {first last : Nat} (hfile : file = xs ++ ys ++ zs)
    (hfirst : first = xs.length) (hlast : last = first + ys.length) (h : Apart ys zs) :
    breaksBetween file first last = lineBreaks ys := by
  induction ys generalizing xs first with
  | nil =>
      subst hlast
      simp [breaksBetween, lineBreaks]
  | cons b ys ih =>
      have hcut : file = xs ++ [b] ++ ys ++ zs := by simp [hfile]
      have hrest : breaksBetween file (first + 1) last = lineBreaks ys :=
        ih hcut (by simp [hfirst]) (by simp [hlast]; omega) h.of_cons
      have hhere : file[first]? = some b := by simp [hfile, hfirst]
      have hnext : file[first + 1]? = (ys ++ zs).head? := by
        rw [hfile, hfirst, List.append_assoc, List.getElem?_append_right (by omega)]
        simp [List.head?_eq_getElem?]
      have hlength : last - first = (last - (first + 1)) + 1 := by simp [hlast]; omega
      rw [breaksBetween, hlength, List.range'_succ, List.countP_cons, hhere, hnext, lineBreaks,
        ← h.ends_iff, ← hrest, Nat.add_comm]
      simp [breaksBetween]

theorem byte_foldl_advance (p : Position) (bytes : Bytes) :
    (bytes.foldl Position.advance p).byte = p.byte + bytes.length := by
  induction bytes generalizing p with
  | nil => rfl
  | cons b bytes ih =>
      rw [List.foldl_cons, ih, List.length_cons, Position.advance]
      dsimp only
      omega

/-! ## Loops -/

/-- Where a read stops. -/
def RawRecord.stop (r : RawRecord) : Position := r.source.foldl Position.advance r.start

/-- The loop that drops empty lines. -/
def skipLoop (ordinal : Nat) : List RawRecord → Except Undecodable (List Row)
  | [] => .ok []
  | r :: rest => do
    let cells ← decodeFields ordinal r 0 r.fields
    let rows ← skipLoop (ordinal + 1) rest
    return ⟨r.start.line, cells⟩ :: rows

/-- The first byte of a record that is no break. -/
def contentStart (file : Bytes) (r : RawRecord) : Nat :=
  let start := offset file r.start
  start + ((slice file start (max (offset file r.stop) start)).takeWhile isBreak).length

/-- What is kept from one record to the next. -/
structure Bookmarks where
  /-- Line breaks have been counted up to here. -/
  counted : Nat := 0
  line : Nat := 1
  /-- Where the record before ends without its breaks. -/
  previousEnd : Option Nat := none

namespace Bookmarks

variable (marks : Bookmarks) (file : Bytes) (r : RawRecord)

def next : Bookmarks :=
  let content := contentStart file r
  let stop := max (offset file r.stop) (offset file r.start)
  { counted := content
    line := marks.line + breaksBetween file marks.counted content
    previousEnd := some (stop - (trailingBreaks (slice file content stop)).length) }

/-- The number of empty lines before a record. One break ends the record before it. -/
def skipped : Nat :=
  match marks.previousEnd with
  | some previousEnd => breaksBetween file previousEnd (contentStart file r) - 1
  | none => 0

end Bookmarks

/-- The loop that keeps empty lines. -/
def keepLoop (file : Bytes) (marks : Bookmarks) (ordinal : Nat) :
    List RawRecord → Except Undecodable (List Row)
  | [] => .ok []
  | r :: rest => do
    let cells ← decodeFields ordinal r 0 r.fields
    let next := marks.next file r
    let rows ← keepLoop file next (ordinal + 1) rest
    return emptyRows next.line (marks.skipped file r) ++ ⟨next.line, cells⟩ :: rows

theorem map_decodeRecords_cons {α : Type} (f : List Decoded → α) (ordinal : Nat) (r : RawRecord)
    (rs : List RawRecord) : (decodeRecords ordinal (r :: rs)).map f = do
      let cells ← decodeFields ordinal r 0 r.fields
      let ds ← decodeRecords (ordinal + 1) rs
      return f (⟨r, cells⟩ :: ds) := by
  rw [decodeRecords]
  cases decodeFields ordinal r 0 r.fields with
  | error _ => rfl
  | ok cells => cases decodeRecords (ordinal + 1) rs <;> rfl

theorem skipLoop_eq (ordinal : Nat) (rs : List RawRecord) :
    skipLoop ordinal rs = (decodeRecords ordinal rs).map skippingRows := by
  induction rs generalizing ordinal with
  | nil => rfl
  | cons r rs ih =>
      rw [skipLoop, map_decodeRecords_cons, ih]
      refine bind_congr fun cells => ?_
      cases decodeRecords (ordinal + 1) rs <;> rfl

/-! ## Bookmarks -/

/-- The first byte of a record is no line feed that a carriage return before it would be cut from. -/
theorem apart_body {r : RawRecord} (hr : r.HasContent) (rest : Bytes) {before : Bytes} :
    Apart before (r.body ++ rest) := by
  refine .of_head fun b hb => RawRecord.head_body hr b ?_
  rwa [List.head?_append_of_ne_nil _ (RawRecord.body_ne_nil hr)] at hb

/-- The bookmarks after a record whose first byte comes after `before`. -/
def Bookmarks.after (before : Bytes) (r : RawRecord) (line : Nat) : Bookmarks :=
  ⟨before.length, line, some (before.length + r.core.length)⟩

section Step

variable {file taken rest : Bytes} {r : RawRecord} (hfile : file = taken ++ r.source ++ rest)
  (hstart : r.start.byte = taken.length)
include hfile hstart

theorem offset_start : offset file r.start = taken.length := by
  rw [offset, hstart, hfile]
  simp

theorem offset_stop : offset file r.stop = taken.length + r.source.length := by
  rw [offset, RawRecord.stop, byte_foldl_advance, hstart, hfile]
  simp

theorem contentStart_eq : contentStart file r = (taken ++ r.lead).length := by
  have hsource : slice file taken.length (taken.length + r.source.length) = r.source :=
    slice_append hfile rfl rfl
  rw [contentStart, offset_start hfile hstart, offset_stop hfile hstart, Nat.max_eq_left (by omega)]
  rw [hsource, List.length_append]
  rfl

theorem next_eq {marks : Bookmarks} (hr : r.HasContent) {before body : Bytes}
    (htaken : taken = before ++ body) (hcounted : marks.counted = before.length) :
    marks.next file r = .after (taken ++ r.lead) r (marks.line + lineBreaks (body ++ r.lead)) := by
  have hcontent := contentStart_eq hfile hstart
  have hlength : r.lead.length + r.body.length = r.source.length := by
    rw [← List.length_append, lead_append_body]
  have hcore : r.core.length + (trailingBreaks r.body).length = r.body.length := by
    rw [← List.length_append, r.core_append_trailingBreaks]
  have hcut : file = taken ++ r.lead ++ r.body ++ rest := by
    rw [hfile, List.append_assoc taken r.lead, lead_append_body]
  have hbody : slice file (taken ++ r.lead).length (taken.length + r.source.length) = r.body :=
    slice_append hcut rfl (by rw [List.length_append]; omega)
  have hline : breaksBetween file before.length (taken ++ r.lead).length = lineBreaks (body ++ r.lead) :=
    breaksBetween_append (by simp [hcut, htaken]) rfl (by simp [htaken]) (apart_body hr rest)
  rw [Bookmarks.next, hcontent, offset_start hfile hstart, offset_stop hfile hstart,
    Nat.max_eq_left (by omega), hbody, hcounted, hline, Bookmarks.after, List.length_append]
  congr 2
  omega

theorem skipped_eq (hr : r.HasContent) {before : Bytes} {prev : RawRecord}
    (htaken : taken = before ++ prev.body) (line : Nat) :
    (Bookmarks.after before prev line).skipped file r = emptyLinesBetween prev.body r.lead := by
  have hcore : prev.core.length + (trailingBreaks prev.body).length = prev.body.length := by
    rw [← List.length_append, prev.core_append_trailingBreaks]
  have hcut : file = before ++ prev.core ++ (trailingBreaks prev.body ++ r.lead) ++ (r.body ++ rest) := by
    calc
      file = before ++ prev.body ++ r.source ++ rest := by rw [hfile, htaken]
      _ = before ++ (prev.core ++ trailingBreaks prev.body) ++ (r.lead ++ r.body) ++ rest := by
        rw [prev.core_append_trailingBreaks, lead_append_body]
      _ = _ := by simp only [List.append_assoc]
  have hbreaks : breaksBetween file (before.length + prev.core.length) (taken ++ r.lead).length =
      lineBreaks (trailingBreaks prev.body ++ r.lead) := by
    refine breaksBetween_append hcut List.length_append.symm ?_ (apart_body hr rest)
    simp only [htaken, List.length_append]
    omega
  rw [Bookmarks.skipped, Bookmarks.after, contentStart_eq hfile hstart, emptyLinesBetween]
  dsimp only
  rw [hbreaks]

end Step

/-! ## Rows -/

/-- The rows of a record come before those of the records after it. -/
theorem keepLoop_cons {file taken rest before body : Bytes} {r : RawRecord} {rs : List RawRecord}
    {marks : Bookmarks} {here ordinal : Nat} (hfile : file = taken ++ r.source ++ rest)
    (hstart : r.start.byte = taken.length) (hr : r.HasContent) (htaken : taken = before ++ body)
    (hcounted : marks.counted = before.length) (hline : marks.line + lineBreaks (body ++ r.lead) = here)
    (hlater : keepLoop file (.after (taken ++ r.lead) r here) (ordinal + 1) rs =
      (decodeRecords (ordinal + 1) rs).map (rowsAfter here r.body)) :
    keepLoop file marks ordinal (r :: rs) = do
      let cells ← decodeFields ordinal r 0 r.fields
      let ds ← decodeRecords (ordinal + 1) rs
      return emptyRows here (marks.skipped file r) ++ ⟨here, cells⟩ :: rowsAfter here r.body ds := by
  rw [keepLoop, next_eq hfile hstart hr htaken hcounted, hline]
  refine bind_congr fun cells => ?_
  dsimp only
  rw [hlater]
  cases decodeRecords (ordinal + 1) rs <;> rfl

/-- What the loop gives from a record on that follows another. -/
theorem keepLoop_after {rs : List RawRecord} {p : Position} {before later file : Bytes} {prev : RawRecord}
    (h : Pieces p later rs) (hp : p.byte = (before ++ prev.body).length)
    (hfile : file = before ++ prev.body ++ later) (line ordinal : Nat) :
    keepLoop file (.after before prev line) ordinal rs =
      (decodeRecords ordinal rs).map (rowsAfter line prev.body) := by
  induction h generalizing before prev line ordinal with
  | nil => rfl
  | @cons r rest rs hr h ih =>
      have hpieces : file = before ++ prev.body ++ r.source ++ rest := by
        rw [hfile, List.append_assoc _ r.source]
      have hbody : before ++ prev.body ++ r.source = before ++ prev.body ++ r.lead ++ r.body := by
        rw [List.append_assoc _ r.lead, lead_append_body]
      have hstop : (r.source.foldl Position.advance r.start).byte =
          (before ++ prev.body ++ r.lead ++ r.body).length := by
        rw [byte_foldl_advance, hp, ← hbody, ← List.length_append]
      have hlater := ih hstop (hbody ▸ hpieces) (line + lineBreaks (prev.body ++ r.lead)) (ordinal + 1)
      rw [keepLoop_cons hpieces hp hr rfl rfl rfl hlater, skipped_eq hpieces hp hr rfl,
        map_decodeRecords_cons]
      rfl

theorem keepLoop_eq {rs : List RawRecord} {p : Position} {file : Bytes} (h : Pieces p file rs)
    (hp : p.byte = 0) : keepLoop file {} 0 rs = (decodeRecords 0 rs).map keepingRows := by
  cases h with
  | nil => rfl
  | @cons r rest rs hr h =>
      have hstop : (r.source.foldl Position.advance r.start).byte = (r.lead ++ r.body).length := by
        rw [byte_foldl_advance, hp, Nat.zero_add, lead_append_body]
      have hfile : r.source ++ rest = r.lead ++ r.body ++ rest := by rw [lead_append_body]
      have hlater := keepLoop_after h hstop hfile (1 + lineBreaks r.lead) 1
      have hcut : r.source ++ rest = [] ++ r.source ++ rest := rfl
      have hnone : ([] : Bytes) = [] ++ [] := rfl
      have hcounted : ({} : Bookmarks).counted = ([] : Bytes).length := rfl
      rw [map_decodeRecords_cons]
      exact keepLoop_cons hcut hp hr hnone hcounted rfl hlater

/-! ## Both readings -/

/-- The two loops read the same records, whatever the bytes: they fail with the same fault, or the rows with
a field that the second gives have the fields of the rows that the first gives, one by one. -/
theorem readRows_skip_keep (file : Bytes) :
    readRows .skip file = skipLoop 0 (records file) ∧
    readRows .keep file = keepLoop file {} 0 (records file) ∧
    ((∃ fault, readRows .skip file = .error fault ∧ readRows .keep file = .error fault) ∨
      ∃ rows kept, readRows .skip file = .ok rows ∧ readRows .keep file = .ok kept ∧
        (kept.filter fun row => row.fields ≠ []).map Row.fields = rows.map Row.fields) := by
  refine ⟨(skipLoop_eq 0 _).symm, (keepLoop_eq (pieces_records file) rfl).symm, ?_⟩
  cases hdecoded : decodeRecords 0 (records file) with
  | error fault => exact .inl ⟨fault, by rw [readRows, hdecoded]; rfl, by rw [readRows, hdecoded]; rfl⟩
  | ok ds =>
      refine .inr ⟨skippingRows ds, keepingRows ds, by rw [readRows, hdecoded]; rfl,
        by rw [readRows, hdecoded]; rfl, ?_⟩
      have hkept := recordRows_keepingRows (hasContent_of_decodeRecords hdecoded)
      have hfilter : (keepingRows ds).filter (fun row => row.fields ≠ []) = recordRows (keepingRows ds) :=
        List.filter_congr fun row _ => by cases row.fields <;> rfl
      rw [hfilter, hkept, skippingRows, List.map_map]
      rfl

end RecordReport.Csv
