import RecordReport.Csv.Row

/-!
# The bytes of a text

An ASCII byte in the encoding of a text is a character of its own, so what is decided on bytes is
decided on characters. Trimmed cells come through the reader unchanged.
-/

namespace RecordReport.Text

/-! ## Characters and bytes -/

theorem encode_eq (s : String) : encode s = s.toList.flatMap String.utf8EncodeChar := by
  conv => lhs; rw [← String.ofList_toList (s := s)]
  rw [encode, String.toByteArray_ofList, List.utf8Encode, List.toList_data_toByteArray]

theorem encode_eq_nil {s : String} : encode s = [] ↔ s = "" := by
  rw [encode_eq, List.flatMap_eq_nil_iff, ← String.toList_eq_nil_iff, List.eq_nil_iff_forall_not_mem]
  exact forall_congr' fun c => by simp [String.utf8EncodeChar_ne_nil]

theorem encode_intercalate (separator : String) (ss : List String) :
    encode (separator.intercalate ss) =
      (encode separator).intercalate (ss.map encode) := by
  induction ss with
  | nil => rfl
  | cons s ss ih =>
      cases ss with
      | nil => simp
      | cons t ss => simp [String.intercalate_cons_cons, encode_append, ih]

/-- An ASCII character is one byte; the bytes of all others are no ASCII bytes. -/
theorem utf8EncodeChar_ascii_or (c : Char) :
    (c.toNat < 128 ∧ String.utf8EncodeChar c = [UInt8.ofNat c.toNat]) ∨
      (128 ≤ c.toNat ∧ ∀ b ∈ String.utf8EncodeChar c, 128 ≤ b.toNat) := by
  have hv : c.toNat = c.val.toNat := rfl
  by_cases h : c.toNat < 128
  · exact Or.inl ⟨h, by rw [String.utf8EncodeChar, if_pos (by omega), hv]⟩
  · refine Or.inr ⟨by omega, fun b hb => ?_⟩
    simp only [String.utf8EncodeChar, show ¬c.val.toNat ≤ 127 by omega, if_false] at hb
    split at hb
    · simp only [List.mem_cons, List.not_mem_nil, or_false] at hb
      rcases hb with rfl | rfl <;> simp [UInt8.toNat_ofNat'] <;> omega
    · split at hb
      · simp only [List.mem_cons, List.not_mem_nil, or_false] at hb
        rcases hb with rfl | rfl | rfl <;> simp [UInt8.toNat_ofNat'] <;> omega
      · simp only [List.mem_cons, List.not_mem_nil, or_false] at hb
        rcases hb with rfl | rfl | rfl | rfl <;> simp [UInt8.toNat_ofNat'] <;> omega

theorem toNat_of_mem_utf8EncodeChar {c : Char} {b : UInt8} (h : b ∈ String.utf8EncodeChar c)
    (hb : b.toNat < 128) : c.toNat = b.toNat := by
  rcases utf8EncodeChar_ascii_or c with ⟨hc, he⟩ | ⟨_, hall⟩
  · rw [he, List.mem_singleton] at h
    subst h
    simp [UInt8.toNat_ofNat']; omega
  · exact absurd (hall b h) (by omega)

theorem mem_of_mem_encode {s : String} {b : UInt8} (h : b ∈ encode s) (hb : b.toNat < 128) :
    ∃ c ∈ s.toList, c.toNat = b.toNat := by
  rw [encode_eq, List.mem_flatMap] at h
  obtain ⟨c, hc, hbc⟩ := h
  exact ⟨c, hc, toNat_of_mem_utf8EncodeChar hbc hb⟩

theorem head_of_head_encode {s : String} {b : UInt8} (h : (encode s).head? = some b)
    (hb : b.toNat < 128) : ∃ c, s.toList.head? = some c ∧ c.toNat = b.toNat := by
  rw [encode_eq] at h
  cases hs : s.toList with
  | nil => simp [hs] at h
  | cons c cs =>
      obtain ⟨x, xs, hx⟩ := List.exists_cons_of_ne_nil (String.utf8EncodeChar_ne_nil (c := c))
      obtain rfl : x = b := by simpa [hs, hx] using h
      exact ⟨c, rfl, toNat_of_mem_utf8EncodeChar (by simp [hx]) hb⟩

theorem getLast_of_getLast_encode {s : String} {b : UInt8} (h : (encode s).getLast? = some b)
    (hb : b.toNat < 128) : ∃ c, s.toList.getLast? = some c ∧ c.toNat = b.toNat := by
  rw [encode_eq] at h
  rcases List.eq_nil_or_concat s.toList with hs | ⟨cs, c, hs⟩
  · simp [hs] at h
  · rw [List.concat_eq_append] at hs
    cases hx : (String.utf8EncodeChar c).getLast? with
    | none => exact absurd (List.getLast?_eq_none_iff.mp hx) String.utf8EncodeChar_ne_nil
    | some x =>
        obtain rfl : x = b := by simpa [hs, List.getLast?_append, hx] using h
        exact ⟨c, by simp [hs], toNat_of_mem_utf8EncodeChar (List.mem_of_getLast? hx) hb⟩

/-! ## Ends of lists -/

/-- The first and the last member, if there are any, satisfy `p`. -/
def Ends {α : Type} (p : α → Prop) (xs : List α) : Prop :=
  ∀ x, xs.head? = some x ∨ xs.getLast? = some x → p x

instance {α : Type} (p : α → Prop) [DecidablePred p] (xs : List α) : Decidable (Ends p xs) :=
  decidable_of_iff ((∀ x ∈ xs.head?, p x) ∧ ∀ x ∈ xs.getLast?, p x)
    ⟨fun h x hx => hx.elim (h.1 x) (h.2 x),
      fun h => ⟨fun x hx => h x (Or.inl hx), fun x hx => h x (Or.inr hx)⟩⟩

namespace Ends

variable {α : Type} {p : α → Prop}

theorem nil : Ends p [] := fun _ h => by simp at h

theorem mono {q : α → Prop} {xs : List α} (hpq : ∀ x, p x → q x) (h : Ends p xs) : Ends q xs :=
  fun x hx => hpq x (h x hx)

/-- Members between two lists keep their outer ends. -/
theorem append_cons {x : α} {xs ys : List α} (hx : p x) (hxs : Ends p xs) (hys : Ends p ys) :
    Ends p (xs ++ x :: ys) := by
  rintro z (hz | hz)
  · cases xs with
    | nil => obtain rfl : x = z := by simpa using hz
             exact hx
    | cons y _ => exact hxs z (Or.inl (by simpa using hz))
  · rw [List.getLast?_append, List.getLast?_cons] at hz
    cases hl : ys.getLast? with
    | none => obtain rfl : x = z := by simpa [hl] using hz
              exact hx
    | some y => obtain rfl : y = z := by simpa [hl] using hz
                exact hys y (Or.inr hl)

theorem intercalate {x : α} {xss : List (List α)} (hx : p x) (h : ∀ xs ∈ xss, Ends p xs) :
    Ends p ([x].intercalate xss) := by
  induction xss with
  | nil => exact nil
  | cons xs xss ih =>
      cases xss with
      | nil => simpa using h xs (by simp)
      | cons ys yss =>
          have hrest := ih fun zs hzs => h zs (List.mem_cons_of_mem _ hzs)
          simpa using append_cons hx (h xs (by simp)) hrest

end Ends

/-! ## Trimming -/

theorem trimBy_eq_self {α : Type} {p : α → Bool} {xs : List α} (h : Ends (p · = false) xs) :
    trimBy p xs = xs := by
  have hdrop (ys : List α) (h : ∀ y, ys.head? = some y → p y = false) : ys.dropWhile p = ys := by
    cases ys with
    | nil => rfl
    | cons y ys => rw [List.dropWhile_cons, h y rfl]; rfl
  have hlast (x : α) (hx : xs.reverse.head? = some x) : p x = false :=
    h x (Or.inr (by simpa using hx))
  rw [trimBy, hdrop xs fun x hx => h x (Or.inl hx), hdrop xs.reverse hlast, List.reverse_reverse]

/-- Trimming leaves nothing to trim. -/
theorem ends_trimBy {α : Type} (p : α → Bool) (xs : List α) : Ends (p · = false) (trimBy p xs) := by
  rintro x (hx | hx)
  · have hprefix : trimBy p xs <+: xs.dropWhile p := by
      have hs := List.dropWhile_suffix (l := (xs.dropWhile p).reverse) p
      simpa [trimBy] using List.reverse_prefix.mpr hs
    obtain ⟨rest, hrest⟩ := hprefix
    have hd : (xs.dropWhile p).head? = some x := by rw [← hrest, List.head?_append, hx]; rfl
    have := List.head?_dropWhile_not p xs
    simpa [hd] using this
  · have := List.head?_dropWhile_not p (xs.dropWhile p).reverse
    rw [trimBy, List.getLast?_reverse] at hx
    simpa [hx] using this

/-- No blank character and no byte order mark stands at either end. -/
def IsTrimmed (s : String) : Prop :=
  Ends (fun c => isBlank c = false ∧ c ≠ byteOrderMark) s.toList

instance (s : String) : Decidable (IsTrimmed s) :=
  inferInstanceAs (Decidable (Ends _ s.toList))

namespace IsTrimmed

theorem empty : IsTrimmed "" := Ends.nil

theorem trim_eq {s : String} (h : IsTrimmed s) : trim s = s := by
  rw [trim, trimBy_eq_self (h.mono fun _ hc => hc.1), String.ofList_toList]

/-- A trimmed text is a cell as it is. -/
theorem cell_eq {s : String} (h : IsTrimmed s) : cell s = s := by
  have hmarks : trimMarks s = s := by
    rw [trimMarks, trimBy_eq_self (h.mono fun _ hc => by simpa using hc.2), String.ofList_toList]
  rw [cell, h.trim_eq, hmarks, h.trim_eq]

end IsTrimmed

theorem trim_eq_iff {s : String} : trim s = s ↔ Ends (isBlank · = false) s.toList := by
  constructor
  · intro h
    rw [← h, trim, String.toList_ofList]
    exact ends_trimBy _ _
  · intro h
    rw [trim, trimBy_eq_self h, String.ofList_toList]

/-! ## Cells -/

theorem trimBy_sublist {α : Type} (p : α → Bool) (xs : List α) : (trimBy p xs).Sublist xs := by
  have hfront := (List.dropWhile_suffix (l := xs) p).sublist
  have hback := (List.dropWhile_suffix (l := (xs.dropWhile p).reverse) p).sublist.reverse
  rw [List.reverse_reverse] at hback
  exact hback.trans hfront

theorem sublist_trim (s : String) : (trim s).toList.Sublist s.toList := by
  rw [trim, String.toList_ofList]
  exact trimBy_sublist _ _

theorem sublist_trimMarks (s : String) : (trimMarks s).toList.Sublist s.toList := by
  rw [trimMarks, String.toList_ofList]
  exact trimBy_sublist _ _

theorem sublist_cell (s : String) : (cell s).toList.Sublist s.toList :=
  (sublist_trim _).trans ((sublist_trimMarks _).trans (sublist_trim s))

theorem trim_trim (s : String) : trim (trim s) = trim s := by
  rw [trim_eq_iff, trim, String.toList_ofList]
  exact ends_trimBy _ _

theorem trim_cell (s : String) : trim (cell s) = cell s := trim_trim _

theorem length_cell_le (s : String) : (cell s).length ≤ s.length := by
  rw [← String.length_toList, ← String.length_toList]
  exact (sublist_cell s).length_le

/-- A text that is no cell loses a character. -/
theorem length_cell_lt {s : String} (h : cell s ≠ s) : (cell s).length < s.length := by
  refine Nat.lt_of_le_of_ne (length_cell_le s) fun hlength => h ?_
  rw [← String.length_toList, ← String.length_toList] at hlength
  exact String.toList_inj.mp ((sublist_cell s).eq_of_length hlength)

theorem isTrimmed_iff {s : String} :
    IsTrimmed s ↔ trim s = s ∧ Ends (· ≠ byteOrderMark) s.toList := by
  rw [trim_eq_iff]
  exact ⟨fun h => ⟨h.mono fun _ hc => hc.1, h.mono fun _ hc => hc.2⟩,
    fun ⟨hends, hmarks⟩ c hc => ⟨hends c hc, hmarks c hc⟩⟩

/-- Of texts without blank ends, the cells are those without a mark at either end. -/
theorem cell_eq_iff {s : String} (h : trim s = s) : cell s = s ↔ Ends (· ≠ byteOrderMark) s.toList := by
  constructor
  · intro hcell
    have hmarks : (cell s).toList.Sublist (trimMarks s).toList := by
      rw [cell, h]
      exact sublist_trim _
    rw [hcell] at hmarks
    have hs : trimMarks s = s :=
      String.toList_inj.mp ((sublist_trimMarks s).eq_of_length_le hmarks.length_le)
    rw [← hs, trimMarks, String.toList_ofList]
    exact (ends_trimBy _ _).mono fun c hc => by simpa using hc
  · intro hmarks
    exact (isTrimmed_iff.mpr ⟨h, hmarks⟩).cell_eq

/-! ## Cells as bytes -/

theorem toNat_of_isAsciiBlank {b : UInt8} (h : Csv.isAsciiBlank b = true) :
    b.toNat = 32 ∨ (9 ≤ b.toNat ∧ b.toNat ≤ 13) := by
  simp only [Csv.isAsciiBlank, Bool.or_eq_true, decide_eq_true_eq] at h
  rcases h with (((rfl | rfl) | rfl) | rfl) | rfl <;> decide

/-- The bytes of a text without blank ends have none either. -/
theorem trimBy_encode {s : String} (h : Ends (isBlank · = false) s.toList) :
    trimBy Csv.isAsciiBlank (encode s) = encode s := by
  have hblank {c : Char} {b : UInt8} (hb : Csv.isAsciiBlank b = true) (hc : c.toNat = b.toNat) :
      isBlank c = true := by
    rcases toNat_of_isAsciiBlank hb with h | h <;>
      simp [isBlank, inRanges, blankRanges, hc] <;> omega
  apply trimBy_eq_self
  intro b hb
  cases hab : Csv.isAsciiBlank b with
  | false => rfl
  | true =>
      have hascii : b.toNat < 128 := by rcases toNat_of_isAsciiBlank hab with h | h <;> omega
      rcases hb with hb | hb
      · obtain ⟨c, hc, hcb⟩ := head_of_head_encode hb hascii
        rw [← h c (Or.inl hc), hblank hab hcb]
      · obtain ⟨c, hc, hcb⟩ := getLast_of_getLast_encode hb hascii
        rw [← h c (Or.inr hc), hblank hab hcb]

end RecordReport.Text
