import Mathlib.Tactic.SplitIfs
import RecordReport.Proofs.Text.Bytes

/-!
# The order of texts

Texts are compared character by character, which comes to the same as comparing their bytes.
-/

namespace RecordReport.Text

/-- The bytes of the smaller of two characters come first, whatever follows them. -/
theorem utf8EncodeChar_append_lt {c d : Char} (h : c < d) (xs ys : Bytes) :
    String.utf8EncodeChar c ++ xs < String.utf8EncodeChar d ++ ys := by
  have hlt : c.val.toNat < d.val.toNat := h
  have hmax : d.val.toNat < 0x110000 := by
    rcases d.valid with hlow | ⟨-, hhigh⟩
    · exact Nat.lt_trans hlow (by decide)
    · exact hhigh
  -- Each byte after the first holds a remainder by 64, and the quotient is left to those before it.
  have h4096 (n : Nat) : n / 4096 = n / 64 / 64 := (Nat.div_div_eq_div_mul n 64 64).symm
  have h262144 (n : Nat) : n / 262144 = n / 64 / 64 / 64 := by
    rw [Nat.div_div_eq_div_mul, Nat.div_div_eq_div_mul]
  simp only [String.utf8EncodeChar, h4096, h262144]
  split_ifs <;>
    simp only [List.cons_append, List.nil_append, List.cons_lt_cons_iff, UInt8.lt_iff_toNat_lt,
      ← UInt8.toNat_inj, UInt8.toNat_ofNat'] <;> omega

theorem encode_lt_of_lt {s t : String} (h : s < t) : encode s < encode t := by
  have hlist : s.toList < t.toList := h
  rw [encode_eq, encode_eq]
  generalize s.toList = cs at hlist
  generalize t.toList = ds at hlist
  induction hlist with
  | @nil d ds =>
      obtain ⟨b, bs, hbytes⟩ := List.exists_cons_of_ne_nil (String.utf8EncodeChar_ne_nil (c := d))
      rw [List.flatMap_nil, List.flatMap_cons, hbytes]
      exact .nil
  | cons _ ih =>
      rw [List.flatMap_cons, List.flatMap_cons]
      exact List.append_left_lt ih
  | rel hcd =>
      rw [List.flatMap_cons, List.flatMap_cons]
      exact utf8EncodeChar_append_lt hcd _ _

/-- Texts are in the order of their bytes. -/
theorem encode_lt_iff {s t : String} : encode s < encode t ↔ s < t := by
  refine ⟨fun h => String.not_le.mp fun hle => ?_, encode_lt_of_lt⟩
  by_cases hts : s ≤ t
  · obtain rfl := String.le_antisymm hts hle
    exact List.lt_irrefl _ h
  · exact List.lt_asymm h (encode_lt_of_lt (String.not_le.mp hts))

theorem compare_eq_lt_iff {s t : String} : compare s t = .lt ↔ encode s < encode t := by
  rw [encode_lt_iff]
  exact compareOfLessAndEq_eq_lt

end RecordReport.Text
