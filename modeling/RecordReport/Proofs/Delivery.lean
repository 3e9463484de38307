import RecordReport.Delivery
import RecordReport.Proofs.Csv.RoundTrip

/-!
# What is delivered

Cutting a text into parts and collecting them in blocks changes nothing in the bytes that arrive. With too
little room a beginning arrives, and the delivery is not complete.
-/

namespace RecordReport

/-! ## Limited room -/

namespace Delivery

theorem accepted_run_prefix (room : Nat) (writes : List Bytes) :
    (run room writes).accepted <+: writes.flatten := by
  induction writes generalizing room with
  | nil => exact List.prefix_refl []
  | cons write writes ih =>
      rw [run]
      split
      · exact (List.prefix_append_right_inj write).mpr (ih _)
      · exact List.nil_prefix

theorem length_accepted_run_le (room : Nat) (writes : List Bytes) :
    (run room writes).accepted.length ≤ room := by
  induction writes generalizing room with
  | nil => exact Nat.zero_le room
  | cons write writes ih =>
      rw [run]
      split
      · rename_i hfits
        have hlater := ih (room - write.length)
        rw [List.length_append]
        omega
      · exact Nat.zero_le room

/-- It does not matter how the bytes are cut into writes. -/
theorem complete_run_iff (room : Nat) (writes : List Bytes) :
    (run room writes).complete = true ↔ writes.flatten.length ≤ room := by
  induction writes generalizing room with
  | nil => simp [run]
  | cons write writes ih =>
      rw [run, List.flatten_cons, List.length_append]
      split
      · rw [ih]
        omega
      · simp only [Bool.false_eq_true, false_iff]
        omega

theorem accepted_run_of_complete {room : Nat} {writes : List Bytes}
    (h : (run room writes).complete = true) : (run room writes).accepted = writes.flatten := by
  induction writes generalizing room with
  | nil => rfl
  | cons write writes ih =>
      rw [run] at h ⊢
      split at h
      · rename_i hfits
        rw [if_pos hfits]
        exact congrArg (write ++ ·) (ih h)
      · cases h

end Delivery

/-! ## Blocks -/

theorem flatten_withPart (part : Bytes) (bs : List Bytes) :
    (withPart part bs).flatten = part ++ bs.flatten := by
  cases bs <;> simp [withPart]

theorem flatten_blocksFrom (size room : Nat) (parts : List Bytes) :
    (blocksFrom size room parts).flatten = parts.flatten := by
  induction parts generalizing room with
  | nil => rfl
  | cons part parts ih =>
      rw [blocksFrom]
      split <;> simp [flatten_withPart, ih]

theorem flatten_blocks (size : Nat) (parts : List Bytes) :
    (blocks size parts).flatten = parts.flatten := by
  rw [blocks, List.flatten_filter_not_isEmpty, flatten_blocksFrom]

/-! ## Parts of rows -/

namespace Csv

@[simp] theorem flatten_loose (s : String) : (loose s).flatten = Text.encode s := by
  rw [loose, ← List.flatMap_def, List.flatMap_singleton']

theorem flatten_quotedParts (cs : List Char) :
    (quotedParts cs).flatten = doubled (cs.flatMap String.utf8EncodeChar) := by
  induction cs with
  | nil => rfl
  | cons c cs ih =>
      rw [quotedParts, List.flatten_append, ih, List.flatMap_cons, doubled_append]
      congr 1
      split
      · rename_i hc; subst hc; rfl
      · rename_i hc
        rw [flatten_loose, encode_ofList, List.flatMap_singleton, doubled_utf8EncodeChar hc]

theorem flatten_fieldParts (field : String) :
    (fieldParts field).flatten = Text.encode (formatField field) := by
  rw [fieldParts, formatField]
  split
  · rw [List.flatten_append, List.flatten_append, flatten_quotedParts, encode_ofList,
      List.cons_append, List.flatMap_cons, List.flatMap_append, flatMap_doubleQuotes]
    simp only [flatten_loose]; rfl
  · exact flatten_loose field

theorem flatten_fieldsParts (fields : List String) :
    (fieldsParts fields).flatten = Text.encode (",".intercalate (fields.map formatField)) := by
  induction fields with
  | nil => rfl
  | cons field fields ih =>
      cases fields with
      | nil => rw [fieldsParts, flatten_fieldParts]; simp
      | cons next fields =>
          rw [fieldsParts, List.flatten_append, List.flatten_append, ih, flatten_fieldParts]
          · simp [Text.encode_append]
          · simp

theorem flatten_rowParts (fields : List String) :
    (rowParts fields).flatten = Text.encode (formatRow fields) := by
  rw [rowParts.eq_def, formatRow.eq_def]
  split
  · rfl
  · rw [List.flatten_append, flatten_fieldsParts, flatten_loose, ← Text.encode_append]

/-- Put together, the parts of rows are their written form. -/
theorem flatten_parts (rows : List (List String)) :
    (parts rows).flatten = Text.encode (format rows) := by
  induction rows with
  | nil => rfl
  | cons fields rows ih =>
      rw [parts, List.flatMap_cons, List.flatten_append, ← parts, ih, flatten_rowParts]
      simp [format, Text.encode_append]

end Csv
end RecordReport
