import Mathlib.Data.List.DropRight
import RecordReport.Proofs.Csv.RoundTrip
import RecordReport.Proofs.Results

/-!
# Reading a text

Fields are cut out of a file at ASCII bytes. No byte of a longer character is lost, so the fields of a
text are texts, and a file that is a text is read without a fault.
-/

namespace RecordReport.Text

/-- The bytes are those of some characters. -/
def IsText (bytes : Bytes) : Prop := ∃ cs : List Char, bytes = cs.flatMap String.utf8EncodeChar

namespace IsText

variable {bs cs : Bytes}

theorem nil : IsText [] := ⟨[], rfl⟩

theorem char (c : Char) : IsText (String.utf8EncodeChar c) := ⟨[c], by simp⟩

theorem append (hb : IsText bs) (hc : IsText cs) : IsText (bs ++ cs) := by
  obtain ⟨xs, rfl⟩ := hb
  obtain ⟨ys, rfl⟩ := hc
  exact ⟨xs ++ ys, by rw [List.flatMap_append]⟩

theorem exists_decode (h : IsText bs) : ∃ s, decode bs = .ok s := by
  obtain ⟨xs, rfl⟩ := h
  exact ⟨String.ofList xs, by rw [← Csv.encode_ofList, decode_encode]⟩

end IsText

/-! ## Trimming bytes -/

theorem isAsciiBlank_of_le {b : UInt8} (h : 128 ≤ b.toNat) : Csv.isAsciiBlank b = false := by
  cases hb : Csv.isAsciiBlank b with
  | false => rfl
  | true =>
      rcases toNat_of_isAsciiBlank hb with h | h <;> omega

theorem isText_dropWhile (cs : List Char) :
    IsText ((cs.flatMap String.utf8EncodeChar).dropWhile Csv.isAsciiBlank) := by
  induction cs with
  | nil => exact .nil
  | cons c cs ih =>
      obtain ⟨b, bs, hbytes⟩ := List.exists_cons_of_ne_nil (String.utf8EncodeChar_ne_nil (c := c))
      cases hb : Csv.isAsciiBlank b with
      | false =>
          have hall : IsText ((c :: cs).flatMap String.utf8EncodeChar) := ⟨_, rfl⟩
          rw [List.flatMap_cons, hbytes] at hall ⊢
          rwa [List.cons_append, List.dropWhile_cons, hb]
      | true =>
          rcases utf8EncodeChar_ascii_or c with ⟨-, hone⟩ | ⟨-, hall⟩
          · obtain ⟨rfl, rfl⟩ := List.cons.inj (hbytes.symm.trans hone)
            rw [List.flatMap_cons, hbytes, List.singleton_append, List.dropWhile_cons, if_pos hb]
            exact ih
          · rw [isAsciiBlank_of_le (hall b (by simp [hbytes]))] at hb
            cases hb

theorem isText_rdropWhile (cs : List Char) :
    IsText ((cs.flatMap String.utf8EncodeChar).rdropWhile Csv.isAsciiBlank) := by
  induction cs using List.reverseRecOn with
  | nil => exact .nil
  | append_singleton cs c ih =>
      rw [List.flatMap_append, List.flatMap_singleton]
      rcases List.eq_nil_or_concat (String.utf8EncodeChar c) with hnil | ⟨bs, b, hbytes⟩
      · exact absurd hnil String.utf8EncodeChar_ne_nil
      rw [List.concat_eq_append] at hbytes
      cases hb : Csv.isAsciiBlank b with
      | false =>
          have hall : IsText (cs.flatMap String.utf8EncodeChar ++ String.utf8EncodeChar c) :=
            .append ⟨cs, rfl⟩ (.char c)
          rw [hbytes, ← List.append_assoc] at hall ⊢
          rwa [List.rdropWhile_concat_neg _ _ _ (by simp [hb])]
      | true =>
          rcases utf8EncodeChar_ascii_or c with ⟨-, hone⟩ | ⟨-, hall⟩
          · obtain rfl : UInt8.ofNat c.toNat = b := by
              simpa [hone] using congrArg List.getLast? hbytes
            rw [hone, List.rdropWhile_concat_pos _ _ _ hb]
            exact ih
          · rw [isAsciiBlank_of_le (hall b (by simp [hbytes]))] at hb
            cases hb

theorem IsText.trimBy {bytes : Bytes} (h : IsText bytes) :
    IsText (trimBy Csv.isAsciiBlank bytes) := by
  obtain ⟨cs, rfl⟩ := h
  obtain ⟨ds, hds⟩ := isText_dropWhile cs
  have htrim : Text.trimBy Csv.isAsciiBlank (cs.flatMap String.utf8EncodeChar) =
      (ds.flatMap String.utf8EncodeChar).rdropWhile Csv.isAsciiBlank := by
    rw [Text.trimBy, hds]
    rfl
  rw [htrim]
  exact isText_rdropWhile ds

end RecordReport.Text

namespace RecordReport.Csv

open Text (IsText)

/-! ## Fields of a text -/

theorem ofByte_of_le {b : UInt8} (h : 128 ≤ b.toNat) : Symbol.ofByte b = .other := by
  by_contra hmeaning
  rcases eq_of_ofByte_ne_other hmeaning with rfl | rfl | rfl | rfl <;> exact absurd h (by decide)

theorem step_other (s : State) : ∃ next, s.step .other = .keep next := by
  cases s <;> exact ⟨_, rfl⟩

/-- Bytes without a meaning are kept together, whatever the state. -/
theorem recordsFrom_others {bytes : Bytes} (h : ∀ b ∈ bytes, Symbol.ofByte b = .other) (s : State)
    (read : Partial) (rest : Bytes) :
    ∃ next, recordsFrom s read (bytes ++ rest) = recordsFrom next (read.take bytes bytes) rest := by
  induction bytes generalizing s read with
  | nil => exact ⟨s, rfl⟩
  | cons b bytes ih =>
      obtain ⟨hb, hbytes⟩ := List.forall_mem_cons.mp h
      obtain ⟨kept, hstep⟩ := step_other s
      obtain ⟨next, hnext⟩ := ih hbytes kept (read.keep b)
      refine ⟨next, ?_⟩
      rw [List.cons_append, recordsFrom, hb, hstep]
      simp only [hnext]
      rw [Partial.keep_eq_take, Partial.take_take]
      rfl

/-- The fields of a read in progress are texts, also the one that is not complete. -/
structure Partial.OfText (read : Partial) : Prop where
  field : IsText read.field.reverse
  fields : ∀ f ∈ read.fields, IsText f

namespace Partial.OfText

variable {read : Partial}

theorem fresh (p : Position) : (Partial.fresh p).OfText := ⟨.nil, by simp [Partial.fresh]⟩

theorem skip (h : read.OfText) (b : UInt8) : (read.skip b).OfText := ⟨h.field, h.fields⟩

theorem take (h : read.OfText) (source : Bytes) {field : Bytes} (hfield : IsText field) :
    (read.take source field).OfText := by
  refine ⟨?_, h.fields⟩
  rw [Partial.take, List.reverse_append, List.reverse_reverse]
  exact h.field.append hfield

theorem endField (h : read.OfText) : read.endField.OfText :=
  ⟨.nil, List.forall_mem_cons.mpr ⟨h.field, h.fields⟩⟩

theorem finish (h : read.OfText) : ∀ f ∈ read.finish.fields, IsText f := by
  intro f hf
  exact h.endField.fields f (List.mem_reverse.mp hf)

end Partial.OfText

/-- Character by character: only an ASCII character can end a field. -/
theorem isText_recordsFrom {read : Partial} (h : read.OfText) (s : State) (cs : List Char) :
    ∀ r ∈ recordsFrom s read (cs.flatMap String.utf8EncodeChar), ∀ f ∈ r.fields, IsText f := by
  induction cs generalizing s read with
  | nil =>
      rw [List.flatMap_nil, recordsFrom]
      split
      · simp
      · simpa using h.finish
  | cons c cs ih =>
      rw [List.flatMap_cons]
      rcases Text.utf8EncodeChar_ascii_or c with ⟨-, hone⟩ | ⟨-, hall⟩
      · rw [hone, List.singleton_append, recordsFrom]
        have hkeep : (read.keep (UInt8.ofNat c.toNat)).OfText := by
          rw [Partial.keep_eq_take, ← hone]
          exact h.take _ (.char c)
        cases s.step (Symbol.ofByte (UInt8.ofNat c.toNat)) with
        | skip next => exact ih (h.skip _) next
        | keep next => exact ih hkeep next
        | endField => exact ih (h.skip _).endField .fieldStart
        | endRecord =>
            exact List.forall_mem_cons.mpr ⟨(h.skip _).finish, ih (.fresh _) .recordStart⟩
      · obtain ⟨next, hnext⟩ := recordsFrom_others (fun b hb => ofByte_of_le (hall b hb)) s read
          (cs.flatMap String.utf8EncodeChar)
        rw [hnext]
        exact ih (h.take _ (.char c)) next

/-! ## Files that are texts -/

/-- A text whose bytes begin with those of the byte order mark begins with the mark. -/
theorem exists_cons_of_mark {text : String} (h : markBytes.isPrefixOf (Text.encode text) = true) :
    ∃ cs, text.toList = Text.byteOrderMark :: cs := by
  rw [Text.encode_eq] at h
  obtain ⟨rest, hrest⟩ := List.isPrefixOf_iff_prefix.mp h
  cases hcs : text.toList with
  | nil => simp [hcs, markBytes] at hrest
  | cons c cs =>
      have hfirst : (c :: cs).utf8Encode.utf8DecodeChar? 0 = some c := List.utf8DecodeChar?_utf8Encode_cons
      have hmark : ((String.utf8EncodeChar Text.byteOrderMark).toByteArray ++
          rest.toByteArray).utf8DecodeChar? 0 = some Text.byteOrderMark :=
        ByteArray.utf8DecodeChar?_utf8EncodeChar_append
      have hbytes : (c :: cs).utf8Encode =
          (String.utf8EncodeChar Text.byteOrderMark).toByteArray ++ rest.toByteArray := by
        rw [← List.toByteArray_append, List.utf8Encode, ← hcs, ← hrest]
        rfl
      rw [hbytes, hmark] at hfirst
      obtain rfl : Text.byteOrderMark = c := by simpa using hfirst
      exact ⟨cs, rfl⟩

/-- What follows a byte order mark is a text. -/
theorem exists_drop_mark {text : String} (h : markBytes.isPrefixOf (Text.encode text) = true) :
    ∃ cs : List Char, (Text.encode text).drop 3 = cs.flatMap String.utf8EncodeChar := by
  obtain ⟨cs, hcs⟩ := exists_cons_of_mark h
  exact ⟨cs, by rw [Text.encode_eq, hcs]; rfl⟩

theorem isText_records (text : String) :
    ∀ r ∈ records (Text.encode text), ∀ f ∈ r.fields, IsText f := by
  rw [records]
  split
  · rename_i hmark
    obtain ⟨cs, hcs⟩ := exists_drop_mark hmark
    rw [hcs]
    have hread : (markBytes.foldl Partial.skip (.fresh .start)).OfText :=
      (((Partial.OfText.fresh .start).skip 0xEF).skip 0xBB).skip 0xBF
    exact isText_recordsFrom hread .recordStart cs
  · rw [Text.encode_eq]
    exact isText_recordsFrom (.fresh .start) .recordStart _

theorem exists_decodeFields {raws : List Bytes} (h : ∀ f ∈ raws, IsText f) (ordinal : Nat)
    (r : RawRecord) (field : Nat) : ∃ cells, decodeFields ordinal r field raws = .ok cells := by
  induction raws generalizing field with
  | nil => exact ⟨[], rfl⟩
  | cons raw raws ih =>
      obtain ⟨hraw, hraws⟩ := List.forall_mem_cons.mp h
      obtain ⟨s, hs⟩ := hraw.trimBy.exists_decode
      obtain ⟨cells, hcells⟩ := ih hraws (field + 1)
      exact ⟨Text.cell s :: cells, by simp [decodeFields, hs, hcells, Except.map]⟩

theorem exists_decodeRecords {rs : List RawRecord} (h : ∀ r ∈ rs, ∀ f ∈ r.fields, IsText f)
    (ordinal : Nat) : ∃ decoded, decodeRecords ordinal rs = .ok decoded := by
  induction rs generalizing ordinal with
  | nil => exact ⟨[], rfl⟩
  | cons r rs ih =>
      obtain ⟨hr, hrs⟩ := List.forall_mem_cons.mp h
      obtain ⟨cells, hcells⟩ := exists_decodeFields hr ordinal r 0
      obtain ⟨others, hothers⟩ := ih hrs (ordinal + 1)
      exact ⟨⟨r, cells⟩ :: others, by simp [decodeRecords, hcells, hothers, bind, Except.bind, pure,
        Except.pure]⟩

theorem exists_readRows (blankLines : BlankLines) (text : String) :
    ∃ rows, readRows blankLines (Text.encode text) = .ok rows := by
  obtain ⟨decoded, hdecoded⟩ := exists_decodeRecords (isText_records text) 0
  rw [readRows, hdecoded]
  exact ⟨_, rfl⟩

/-! ## The cells of rows -/

theorem forall₂_of_decodeFields {ordinal field : Nat} {r : RawRecord} {raws : List Bytes}
    {cells : List String} (h : decodeFields ordinal r field raws = .ok cells) :
    List.Forall₂ (fun raw cell => ∃ text, Text.decode (Text.trimBy isAsciiBlank raw) = .ok text ∧
      cell = Text.cell text) raws cells := by
  induction raws generalizing field cells with
  | nil =>
      cases h
      exact .nil
  | cons raw raws ih =>
      rw [decodeFields] at h
      cases hdecode : Text.decode (Text.trimBy isAsciiBlank raw) with
      | error _ => rw [hdecode] at h; cases h
      | ok text =>
          rw [hdecode] at h
          obtain ⟨others, hothers, rfl⟩ := exists_of_map_eq_ok h
          exact .cons ⟨text, hdecode, rfl⟩ (ih hothers)

theorem exists_decodeFields_of_mem {ordinal : Nat} {rs : List RawRecord} {decoded : List Decoded}
    (h : decodeRecords ordinal rs = .ok decoded) {d : Decoded} (hd : d ∈ decoded) :
    ∃ k, decodeFields k d.raw 0 d.raw.fields = .ok d.cells := by
  induction rs generalizing ordinal decoded with
  | nil =>
      cases h
      cases hd
  | cons r rs ih =>
      obtain ⟨cells, hcells, h⟩ := exists_of_bind_eq_ok h
      obtain ⟨others, hothers, h⟩ := exists_of_bind_eq_ok h
      cases h
      rcases List.mem_cons.mp hd with rfl | hd
      · exact ⟨ordinal, hcells⟩
      · exact ih hothers hd

theorem fields_of_mem_emptyRows {line count : Nat} {row : Row} (h : row ∈ emptyRows line count) :
    row.fields = [] := by
  obtain ⟨i, -, rfl⟩ := List.mem_map.mp h
  rfl

theorem fields_of_mem_rowsAfter {ds : List Decoded} {line : Nat} {body : Bytes} {row : Row}
    (h : row ∈ rowsAfter line body ds) : row.fields = [] ∨ ∃ d ∈ ds, row.fields = d.cells := by
  induction ds generalizing line body with
  | nil => cases h
  | cons d ds ih =>
      rw [rowsAfter] at h
      rcases List.mem_append.mp h with h | h
      · exact Or.inl (fields_of_mem_emptyRows h)
      · rcases List.mem_cons.mp h with rfl | h
        · exact Or.inr ⟨d, List.mem_cons_self, rfl⟩
        · rcases ih h with hnil | ⟨e, he, hrow⟩
          · exact Or.inl hnil
          · exact Or.inr ⟨e, List.mem_cons_of_mem _ he, hrow⟩

theorem fields_of_mem_keepingRows {ds : List Decoded} {row : Row} (h : row ∈ keepingRows ds) :
    row.fields = [] ∨ ∃ d ∈ ds, row.fields = d.cells := by
  cases ds with
  | nil => cases h
  | cons d ds =>
      rcases List.mem_cons.mp h with rfl | h
      · exact Or.inr ⟨d, List.mem_cons_self, rfl⟩
      · rcases fields_of_mem_rowsAfter h with hnil | ⟨e, he, hrow⟩
        · exact Or.inl hnil
        · exact Or.inr ⟨e, List.mem_cons_of_mem _ he, hrow⟩

theorem fields_of_readRows {blankLines : BlankLines} {file : Bytes} {rows : List Row}
    (h : readRows blankLines file = .ok rows) : ∃ decoded, decodeRecords 0 (records file) = .ok decoded ∧
      ∀ row ∈ rows, row.fields = [] ∨ ∃ d ∈ decoded, row.fields = d.cells := by
  obtain ⟨decoded, hdecoded, rfl⟩ := exists_of_map_eq_ok h
  refine ⟨decoded, hdecoded, fun row hrow => ?_⟩
  cases blankLines with
  | keep => exact fields_of_mem_keepingRows hrow
  | skip =>
      obtain ⟨d, hd, rfl⟩ := List.mem_map.mp hrow
      exact .inr ⟨d, hd, rfl⟩

/-- No field of a row has a blank end. -/
theorem trim_of_readRows {blankLines : BlankLines} {file : Bytes} {rows : List Row}
    (h : readRows blankLines file = .ok rows) : ∀ row ∈ rows, ∀ f ∈ row.fields, Text.trim f = f := by
  intro row hrow f hf
  obtain ⟨decoded, hdecoded, hfields⟩ := fields_of_readRows h
  rcases hfields row hrow with hnil | ⟨d, hd, hcells⟩
  · rw [hnil] at hf
    cases hf
  · obtain ⟨k, hdecode⟩ := exists_decodeFields_of_mem hdecoded hd
    rw [hcells] at hf
    obtain ⟨raw, -, text, -, rfl⟩ := exists_of_mem_forall₂ (forall₂_of_decodeFields hdecode) hf
    exact Text.trim_cell text

end RecordReport.Csv
