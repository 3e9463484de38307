import Mathlib.Data.List.Chain
import RecordReport.Proofs.Csv.Lines

/-!
# Line breaks

The lines of a file, and the breaks between and within its records. Only the last record of a file can be
without a break at its end.
-/

namespace RecordReport.Csv

/-! ## The lines of a file -/

/-- The lines of a file. A carriage return with its line feed ends one line. -/
def linesOf : Bytes → List Bytes
  | [] => [[]]
  | b :: rest =>
    if b = 10 || (b = 13 && rest.head? != some 10) then [] :: linesOf rest
    else if b = 13 then linesOf rest
    else (linesOf rest).modifyHead (b :: ·)

/-- No carriage return is cut from its line feed. -/
def Apart (xs ys : Bytes) : Prop := xs.getLast? ≠ some 13 ∨ ys.head? ≠ some 10

namespace Apart

theorem nil_left (ys : Bytes) : Apart [] ys := Or.inl (by simp)

theorem tail {b c : UInt8} {xs ys : Bytes} (h : Apart (b :: c :: xs) ys) : Apart (c :: xs) ys := by
  rwa [Apart, List.getLast?_cons_cons] at h

theorem of_head {xs ys : Bytes} (h : ∀ b, ys.head? = some b → isBreak b = false) : Apart xs ys := by
  refine Or.inr fun hys => ?_
  have hb := h 10 hys
  cases hb

theorem of_getLast {xs ys : Bytes} (h : ∀ b, xs.getLast? = some b → isBreak b = false) :
    Apart xs ys := by
  refine Or.inl fun hxs => ?_
  have hb := h 13 hxs
  cases hb

/-- Whether the first byte ends a line is seen from the bytes before the cut. -/
theorem ends_iff {b : UInt8} {xs ys : Bytes} (h : Apart (b :: xs) ys) :
    (b = 10 || (b = 13 && (xs ++ ys).head? != some 10)) =
      (b = 10 || (b = 13 && xs.head? != some 10)) := by
  cases xs with
  | cons c xs => rfl
  | nil =>
      by_cases hb : b = 13
      · subst hb
        rcases h with h | h
        · simp at h
        · have hys : (ys.head? != some 10) = true := bne_iff_ne.mpr h
          simp [hys]
      · simp [hb]

end Apart

theorem Apart.of_cons {b : UInt8} {xs ys : Bytes} (h : Apart (b :: xs) ys) : Apart xs ys := by
  cases xs with
  | nil => exact .nil_left ys
  | cons c xs => exact h.tail

theorem lineBreaks_append {xs ys : Bytes} (h : Apart xs ys) :
    lineBreaks (xs ++ ys) = lineBreaks xs + lineBreaks ys := by
  induction xs with
  | nil => simp [lineBreaks]
  | cons b xs ih =>
      rw [List.cons_append, lineBreaks, lineBreaks, h.ends_iff, ih h.of_cons, Nat.add_assoc]

theorem length_linesOf (bytes : Bytes) : (linesOf bytes).length = lineBreaks bytes + 1 := by
  induction bytes with
  | nil => rfl
  | cons b bytes ih =>
      rw [linesOf, lineBreaks]
      split
      · rw [List.length_cons, ih]
        omega
      · split
        · omega
        · rw [List.length_modifyHead, ih]
          omega

theorem getElem?_succ_modifyHead {α : Type} (f : α → α) (xs : List α) (i : Nat) :
    (xs.modifyHead f)[i + 1]? = xs[i + 1]? := by
  cases xs <;> rfl

/-- The lines after the cut are those of what follows it. -/
theorem getElem?_linesOf_append {xs ys : Bytes} (h : Apart xs ys) (i : Nat) :
    (linesOf (xs ++ ys))[lineBreaks xs + (i + 1)]? = (linesOf ys)[i + 1]? := by
  induction xs with
  | nil => simp [lineBreaks]
  | cons b xs ih =>
      have ih := ih h.of_cons
      rw [List.cons_append, linesOf, lineBreaks, h.ends_iff]
      split
      · rw [Nat.add_comm 1, Nat.add_right_comm, List.getElem?_cons_succ, ih]
      · rw [Nat.zero_add]
        split
        · exact ih
        · rw [← Nat.add_assoc, getElem?_succ_modifyHead, Nat.add_assoc, ih]

/-- The lines before the last break are seen from the bytes before the cut. -/
theorem getElem?_linesOf_append_of_lt {xs ys : Bytes} (h : Apart xs ys) {i : Nat}
    (hi : i < lineBreaks xs) : (linesOf (xs ++ ys))[i]? = (linesOf xs)[i]? := by
  induction xs generalizing i with
  | nil => simp [lineBreaks] at hi
  | cons b xs ih =>
      rw [lineBreaks] at hi
      rw [List.cons_append, linesOf, linesOf, h.ends_iff]
      split
      · rename_i hends
        rw [if_pos hends] at hi
        cases i with
        | zero => rfl
        | succ i => exact ih h.of_cons (by omega)
      · rename_i hends
        rw [if_neg hends, Nat.zero_add] at hi
        split
        · exact ih h.of_cons hi
        · have ih := ih h.of_cons hi
          cases i with
          | zero =>
              rw [← List.head?_eq_getElem?, ← List.head?_eq_getElem?, List.head?_modifyHead,
                List.head?_modifyHead, List.head?_eq_getElem?, ih, List.head?_eq_getElem?]
          | succ i => rw [getElem?_succ_modifyHead, getElem?_succ_modifyHead, ih]

/-! ## Bytes that are line breaks -/

theorem linesOf_of_breaks {gap : Bytes} (h : ∀ b ∈ gap, isBreak b = true) :
    ∀ line ∈ linesOf gap, line = [] := by
  induction gap with
  | nil => simp [linesOf]
  | cons b gap ih =>
      obtain ⟨hb, hgap⟩ := List.forall_mem_cons.mp h
      rw [linesOf]
      split
      · exact List.forall_mem_cons.mpr ⟨rfl, ih hgap⟩
      · rename_i hends
        have h13 : b = 13 := by
          have hor : b = 10 ∨ b = 13 := by simpa [isBreak] using hb
          rcases hor with rfl | rfl
          · simp at hends
          · rfl
        rw [if_pos h13]
        exact ih hgap

theorem lineBreaks_pos_of_breaks {gap : Bytes} (h : ∀ b ∈ gap, isBreak b = true) (hne : gap ≠ []) :
    0 < lineBreaks gap := by
  induction gap with
  | nil => exact absurd rfl hne
  | cons b gap ih =>
      obtain ⟨hb, hgap⟩ := List.forall_mem_cons.mp h
      cases gap with
      | nil =>
          have hor : b = 10 ∨ b = 13 := by simpa [isBreak] using hb
          rcases hor with rfl | rfl <;> decide
      | cons c gap =>
          have hpos := ih hgap (by simp)
          rw [lineBreaks]
          omega

/-- Between bytes that are no breaks, every line but the outer two is empty. -/
theorem getElem?_linesOf_of_breaks {upto gap rest : Bytes}
    (hupto : ∀ b, upto.getLast? = some b → isBreak b = false) (hgap : ∀ b ∈ gap, isBreak b = true)
    (hrest : ∀ b, rest.head? = some b → isBreak b = false) {i : Nat} (h0 : lineBreaks upto < i)
    (hi : i < lineBreaks upto + lineBreaks gap) :
    (linesOf (upto ++ gap ++ rest))[i]? = some [] := by
  obtain ⟨j, rfl⟩ : ∃ j, i = lineBreaks upto + (j + 1) := ⟨i - lineBreaks upto - 1, by omega⟩
  have hj : j + 1 < lineBreaks gap := by omega
  rw [List.append_assoc, getElem?_linesOf_append (.of_getLast hupto),
    getElem?_linesOf_append_of_lt (.of_head hrest) hj]
  have hlength : j + 1 < (linesOf gap).length := by rw [length_linesOf]; omega
  rw [List.getElem?_eq_getElem hlength, linesOf_of_breaks hgap _ (List.getElem_mem hlength)]

/-! ## Records that end -/

theorem isBreak_of_step_endRecord {s : State} {b : UInt8}
    (h : s.step (Symbol.ofByte b) = .endRecord) : isBreak b = true := by
  have hsymbol : Symbol.ofByte b = .carriageReturn ∨ Symbol.ofByte b = .lineFeed := by
    cases s <;> cases hb : Symbol.ofByte b <;> simp_all [State.step]
  grind [Symbol.ofByte, isBreak]

/-- The last byte of the record is the break that ended it. -/
def RawRecord.Terminated (r : RawRecord) : Prop := ∃ b, r.source.getLast? = some b ∧ isBreak b = true

theorem chain_recordsFrom (s : State) (read : Partial) (bytes : Bytes) :
    (recordsFrom s read bytes).IsChain fun r _ => r.Terminated := by
  induction bytes generalizing s read with
  | nil =>
      rw [recordsFrom]
      split <;> simp
  | cons b bytes ih =>
      rw [recordsFrom]
      cases hstep : s.step (Symbol.ofByte b) with
      | skip next => exact ih next _
      | keep next => exact ih next _
      | endField => exact ih .fieldStart _
      | endRecord =>
          refine List.isChain_cons.mpr ⟨fun _ _ => ?_, ih .recordStart _⟩
          exact ⟨b, by simp [Partial.finish, Partial.skip], isBreak_of_step_endRecord hstep⟩

theorem chain_records (file : Bytes) : (records file).IsChain fun r _ => r.Terminated := by
  rw [records]
  split <;> exact chain_recordsFrom _ _ _

theorem exists_finish_of_mem {s : State} {read : Partial} {bytes : Bytes} {r : RawRecord}
    (h : r ∈ recordsFrom s read bytes) : ∃ done : Partial, r = done.finish := by
  induction bytes generalizing s read with
  | nil =>
      rw [recordsFrom] at h
      split at h
      · cases h
      · exact ⟨read, List.mem_singleton.mp h⟩
  | cons b bytes ih =>
      rw [recordsFrom] at h
      cases hstep : s.step (Symbol.ofByte b) with
      | skip _ => rw [hstep] at h; exact ih h
      | keep _ => rw [hstep] at h; exact ih h
      | endField => rw [hstep] at h; exact ih h
      | endRecord =>
          rw [hstep] at h
          rcases List.mem_cons.mp h with rfl | h
          · exact ⟨read.skip b, rfl⟩
          · exact ih h

/-- No record is without a field. -/
theorem fields_ne_nil_of_mem {file : Bytes} {r : RawRecord} (h : r ∈ records file) :
    r.fields ≠ [] := by
  have hfinish : ∃ done : Partial, r = done.finish := by
    rw [records] at h
    split at h <;> exact exists_finish_of_mem h
  obtain ⟨done, rfl⟩ := hfinish
  simp [Partial.finish, Partial.endField]

end RecordReport.Csv
