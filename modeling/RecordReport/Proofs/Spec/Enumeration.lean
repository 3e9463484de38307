import Mathlib.Algebra.GroupWithZero.Nat
import Mathlib.Data.List.TakeWhile
import RecordReport.Proofs.Results
import RecordReport.Proofs.Text.Bytes
import RecordReport.Spec.Enumeration

/-!
# Written enumerations

An enumeration whose parts are trimmed and hold no separator is read back from its written form.
-/

namespace RecordReport

namespace Text

/-! ## Splitting -/

theorem pieces_ne_nil {α : Type} [BEq α] (separator : α) (xs : List α) : pieces separator xs ≠ [] := by
  cases xs with
  | nil => simp [pieces]
  | cons x xs =>
      rw [pieces]
      split
      · simp
      · split <;> simp

theorem pieces_cons {α : Type} [BEq α] (separator x : α) (xs : List α) :
    pieces separator (x :: xs) =
      if x == separator then [] :: pieces separator xs
      else (pieces separator xs).modifyHead (x :: ·) := by
  rw [pieces]
  split
  · rfl
  · cases hs : pieces separator xs with
    | nil => exact absurd hs (pieces_ne_nil separator xs)
    | cons piece rest => rfl

theorem pieces_eq_splitOn {α : Type} [BEq α] (separator : α) (xs : List α) :
    pieces separator xs = xs.splitOn separator := by
  induction xs with
  | nil => rfl
  | cons x xs ih => rw [pieces_cons, List.splitOn_cons_eq_if_modifyHead, ih]

/-- Pieces without the separator are found again. -/
theorem split_intercalate {separator : Char} {ss : List String} (hne : ss ≠ [])
    (h : ∀ s ∈ ss, separator ∉ s.toList) :
    split separator (separator.toString.intercalate ss) = ss := by
  have hjoined : (separator.toString.intercalate ss).toList =
      [separator].intercalate (ss.map String.toList) := by
    simp [Char.toString]
  rw [split, hjoined, pieces_eq_splitOn, List.splitOn_intercalate _ (by simpa using h) (by simpa),
    List.map_map]
  simp [Function.comp_def]

theorem join_ended (ending : String) (ss : List String) :
    String.join (ss.map (· ++ ending)) = ending.intercalate (ss ++ [""]) := by
  induction ss with
  | nil => rfl
  | cons s ss ih =>
      rw [List.map_cons, String.join_cons, ih, List.cons_append,
        String.intercalate_cons_of_ne_nil (by simp)]

/-- After pieces that end with the separator there is an empty one. -/
theorem split_join_ended {separator : Char} {ss : List String} (h : ∀ s ∈ ss, separator ∉ s.toList) :
    split separator (String.join (ss.map (· ++ separator.toString))) = ss ++ [""] := by
  rw [join_ended, split_intercalate (by simp)]
  exact List.forall_mem_append.mpr ⟨h, by simp⟩

theorem splitOnce?_append {separator : Char} {before : String} (after : String)
    (h : separator ∉ before.toList) :
    splitOnce? separator (before ++ separator.toString ++ after) = some (before, after) := by
  have hbefore : ∀ c ∈ before.toList, (c != separator) = true := fun c hc =>
    bne_iff_ne.mpr fun hcs => h (hcs ▸ hc)
  simp [splitOnce?, List.dropWhile_append_of_pos hbefore, List.takeWhile_append_of_pos hbefore]

theorem splitLast?_append {separator : Char} (before : String) {after : String}
    (h : separator ∉ after.toList) :
    splitLast? separator (before ++ separator.toString ++ after) = some (before, after) := by
  have hafter : ∀ c ∈ after.toList.reverse, (c != separator) = true := fun c hc =>
    bne_iff_ne.mpr fun hcs => h (hcs ▸ List.mem_reverse.mp hc)
  simp [splitLast?, List.dropWhile_append_of_pos hafter, List.takeWhile_append_of_pos hafter]

theorem splitOnce?_eq_some {separator : Char} {s before after : String}
    (h : splitOnce? separator s = some (before, after)) :
    s.toList = before.toList ++ separator :: after.toList ∧ separator ∉ before.toList := by
  have hcut : s.toList.takeWhile (· != separator) ++ s.toList.dropWhile (· != separator) = s.toList :=
    List.takeWhile_append_dropWhile
  have hhead := List.head?_dropWhile_not (· != separator) s.toList
  rw [splitOnce?] at h
  cases hdrop : s.toList.dropWhile (· != separator) with
  | nil => simp [hdrop] at h
  | cons c rest =>
      simp only [hdrop, Option.some.injEq, Prod.mk.injEq] at h
      obtain ⟨rfl, rfl⟩ := h
      obtain rfl : c = separator := by simpa [hdrop] using hhead
      rw [String.toList_ofList, String.toList_ofList, ← hdrop, hcut]
      refine ⟨rfl, fun hmem => ?_⟩
      simpa using List.mem_takeWhile_imp hmem

theorem not_mem_of_mem_pieces (separator : Char) (cs : List Char) :
    ∀ piece ∈ pieces separator cs, separator ∉ piece := by
  induction cs with
  | nil => simp [pieces]
  | cons c cs ih =>
      obtain ⟨first, rest, hpieces⟩ := List.exists_cons_of_ne_nil (pieces_ne_nil separator cs)
      rw [pieces_cons, hpieces]
      rw [hpieces] at ih
      split
      · exact List.forall_mem_cons.mpr ⟨List.not_mem_nil, ih⟩
      · rename_i hc
        obtain ⟨hfirst, hrest⟩ := List.forall_mem_cons.mp ih
        refine List.forall_mem_cons.mpr ⟨?_, hrest⟩
        rintro (_ | ⟨_, hmem⟩)
        · exact hc (beq_self_eq_true separator)
        · exact hfirst hmem

theorem sum_length_pieces (separator : Char) (cs : List Char) :
    ((pieces separator cs).map (·.length + 1)).sum = cs.length + 1 := by
  induction cs with
  | nil => rfl
  | cons c cs ih =>
      obtain ⟨first, rest, hpieces⟩ := List.exists_cons_of_ne_nil (pieces_ne_nil separator cs)
      rw [hpieces, List.map_cons, List.sum_cons] at ih
      rw [pieces_cons, hpieces, List.length_cons]
      split
      · rw [List.map_cons, List.map_cons, List.sum_cons, List.sum_cons, ih, List.length_nil]
        omega
      · rw [List.modifyHead_cons, List.map_cons, List.sum_cons, List.length_cons]
        omega

/-- The pieces together are shorter than the text by the separators between them. -/
theorem sum_length_split (separator : Char) (s : String) :
    ((split separator s).map (·.length + 1)).sum = s.length + 1 := by
  rw [split, List.map_map, ← String.length_toList, ← sum_length_pieces separator s.toList]
  simp [Function.comp_def]

theorem not_mem_of_mem_split {separator : Char} {s piece : String} (h : piece ∈ split separator s) :
    separator ∉ piece.toList := by
  obtain ⟨cs, hcs, rfl⟩ := List.mem_map.mp h
  rw [String.toList_ofList]
  exact not_mem_of_mem_pieces separator _ cs hcs

end Text

namespace Enumeration

/-- Both parts of an entry are trimmed and hold no separator, and the key holds no sign for a label. -/
structure PlainEntry (entry : String × String) : Prop where
  key_trimmed : Text.trim entry.1 = entry.1
  label_trimmed : Text.trim entry.2 = entry.2
  key_separator : entrySeparator ∉ entry.1.toList
  label_separator : entrySeparator ∉ entry.2.toList
  key_assign : assign ∉ entry.1.toList

theorem toList_formatEntry (entry : String × String) :
    (formatEntry entry).toList = entry.1.toList ++ assign :: entry.2.toList := by
  simp [formatEntry, Char.toString]

namespace PlainEntry

theorem ends_formatEntry {entry : String × String} (h : PlainEntry entry) :
    Text.Ends (Text.isBlank · = false) (formatEntry entry).toList := by
  rw [toList_formatEntry]
  exact .append_cons (by decide) (Text.trim_eq_iff.mp h.key_trimmed)
    (Text.trim_eq_iff.mp h.label_trimmed)

theorem trim_formatEntry {entry : String × String} (h : PlainEntry entry) :
    Text.trim (formatEntry entry) = formatEntry entry :=
  Text.trim_eq_iff.mpr h.ends_formatEntry

theorem not_separator {entry : String × String} (h : PlainEntry entry) :
    entrySeparator ∉ (formatEntry entry).toList := by
  rw [toList_formatEntry, List.mem_append, List.mem_cons]
  rintro (hkey | heq | hlabel)
  · exact h.key_separator hkey
  · exact absurd heq (by decide)
  · exact h.label_separator hlabel

end PlainEntry

theorem parseEntries_format {entries : List (String × String)} {seen : List String}
    (hplain : ∀ entry ∈ entries, PlainEntry entry) (hkeys : (entries.map Prod.fst).Nodup)
    (hseen : ∀ entry ∈ entries, entry.1 ∉ seen) :
    parseEntries seen (entries.map formatEntry) = .ok entries := by
  induction entries generalizing seen with
  | nil => rfl
  | cons entry entries ih =>
      have he := hplain entry (by simp)
      obtain ⟨hfresh, hrest⟩ := List.nodup_cons.mp hkeys
      have hne : formatEntry entry ≠ "" := by
        intro hempty
        have hnil := congrArg String.toList hempty
        simp [toList_formatEntry] at hnil
      have hunseen : ∀ e ∈ entries, e.1 ∉ entry.1 :: seen := fun e he => by
        simp only [List.mem_cons, not_or]
        exact ⟨fun h => hfresh (h ▸ List.mem_map_of_mem he), hseen e (List.mem_cons_of_mem _ he)⟩
      have hih := ih (fun e he => hplain e (List.mem_cons_of_mem _ he)) hrest hunseen
      rw [List.map_cons, parseEntries]
      simp only [he.trim_formatEntry, if_neg hne]
      rw [formatEntry, Text.splitOnce?_append _ he.key_assign]
      simp [he.key_trimmed, he.label_trimmed, hseen entry (by simp), hih, Except.map]

/-- The keys are distinct and every entry is plain. -/
structure Plain (e : Enumeration) : Prop where
  entries : ∀ entry ∈ e.entries, PlainEntry entry
  keys_nodup : (e.entries.map Prod.fst).Nodup

namespace Plain

variable {e : Enumeration}

theorem split_format (h : e.Plain) :
    Text.split entrySeparator e.format = e.entries.map formatEntry := by
  refine Text.split_intercalate (by simpa using e.nonempty) fun s hs => ?_
  obtain ⟨entry, hentry, rfl⟩ := List.mem_map.mp hs
  exact (h.entries entry hentry).not_separator

theorem trim_format (h : e.Plain) : Text.trim e.format = e.format := by
  rw [Text.trim_eq_iff, format, String.toList_intercalate, List.map_map]
  refine .intercalate (by decide) fun cs hcs => ?_
  obtain ⟨entry, hentry, rfl⟩ := List.mem_map.mp hcs
  exact (h.entries entry hentry).ends_formatEntry

end Plain

theorem parse_format {e : Enumeration} (h : e.Plain) : parse e.format = .ok (some e) := by
  rw [parse, h.split_format, parseEntries_format h.entries h.keys_nodup (by simp)]
  simp [Except.map, ofEntries?, e.nonempty]

/-! ## What a text is read as -/

/-- The entry of a segment is plain, and no longer than the segment when it is written. -/
theorem plainEntry_of_splitOnce? {segment before after : String}
    (hsegment : entrySeparator ∉ segment.toList)
    (h : Text.splitOnce? assign (Text.trim segment) = some (before, after)) :
    PlainEntry (Text.trim before, Text.trim after) ∧
      (formatEntry (Text.trim before, Text.trim after)).length ≤ segment.length := by
  obtain ⟨hcut, hassign⟩ := Text.splitOnce?_eq_some h
  have hkey := Text.sublist_trim before
  have hlabel := Text.sublist_trim after
  have hparts : (before.toList ++ assign :: after.toList).Sublist segment.toList := by
    rw [← hcut]
    exact Text.sublist_trim segment
  have hseparator : entrySeparator ∉ before.toList ++ assign :: after.toList :=
    fun hmem => hsegment (hparts.subset hmem)
  refine ⟨⟨Text.trim_trim before, Text.trim_trim after, ?_, ?_, ?_⟩, ?_⟩
  · exact fun hmem => hseparator (List.mem_append_left _ (hkey.subset hmem))
  · exact fun hmem =>
      hseparator (List.mem_append_right _ (List.mem_cons_of_mem _ (hlabel.subset hmem)))
  · exact fun hmem => hassign (hkey.subset hmem)
  · rw [← String.length_toList, ← String.length_toList, toList_formatEntry]
    exact ((hkey.append (hlabel.cons_cons assign)).trans hparts).length_le

/-- The entries that are read are plain, their keys are new, and they are not longer than the segments when
they are written. -/
theorem plain_of_parseEntries {seen segments : List String} {entries : List (String × String)}
    (hsegments : ∀ s ∈ segments, entrySeparator ∉ s.toList)
    (h : parseEntries seen segments = .ok entries) :
    (∀ entry ∈ entries, PlainEntry entry) ∧ (∀ entry ∈ entries, entry.1 ∉ seen) ∧
      (entries.map Prod.fst).Nodup ∧
      (entries.map fun entry => (formatEntry entry).length + 1).sum ≤
        (segments.map fun s => s.length + 1).sum := by
  induction segments generalizing seen entries with
  | nil =>
      cases h
      simp
  | cons segment segments ih =>
      obtain ⟨hsegment, hsegments⟩ := List.forall_mem_cons.mp hsegments
      rw [List.map_cons, List.sum_cons]
      rw [parseEntries] at h
      simp only at h
      split at h
      · obtain ⟨hplain, hseen, hkeys, hlength⟩ := ih hsegments h
        exact ⟨hplain, hseen, hkeys, by omega⟩
      · cases hcut : Text.splitOnce? assign (Text.trim segment) with
        | none => simp [hcut] at h
        | some cut =>
            obtain ⟨before, after⟩ := cut
            simp only [hcut] at h
            split at h
            · cases h
            · rename_i hfresh
              obtain ⟨others, hrest, rfl⟩ := exists_of_map_eq_ok h
              obtain ⟨hplain, hseen, hkeys, hlength⟩ := ih hsegments hrest
              obtain ⟨hentry, hshort⟩ := plainEntry_of_splitOnce? hsegment hcut
              refine ⟨List.forall_mem_cons.mpr ⟨hentry, hplain⟩, ?_, ?_, ?_⟩
              · refine List.forall_mem_cons.mpr ⟨hfresh, fun entry hmem hold => ?_⟩
                exact hseen entry hmem (List.mem_cons_of_mem _ hold)
              · refine List.nodup_cons.mpr ⟨fun hmem => ?_, hkeys⟩
                obtain ⟨entry, hentry, hkey⟩ := List.mem_map.mp hmem
                exact hseen entry hentry (hkey ▸ List.mem_cons_self)
              · rw [List.map_cons, List.sum_cons]
                omega

theorem entries_of_ofEntries? {entries : List (String × String)} {e : Enumeration}
    (h : ofEntries? entries = some e) : e.entries = entries := by
  rw [ofEntries?] at h
  split at h
  · cases h
  · cases h
    rfl

/-- A text is read as a plain enumeration, which is not longer than the text when it is written. -/
theorem plain_of_parse {text : String} {e : Enumeration} (h : parse text = .ok (some e)) :
    e.Plain ∧ e.format.length ≤ text.length := by
  obtain ⟨entries, hentries, hsome⟩ := exists_of_map_eq_ok h
  obtain rfl : e.entries = entries := entries_of_ofEntries? hsome
  obtain ⟨hplain, -, hkeys, hlength⟩ :=
    plain_of_parseEntries (fun _ hs => Text.not_mem_of_mem_split hs) hentries
  have he : e.Plain := ⟨hplain, hkeys⟩
  have hformat := Text.sum_length_split entrySeparator e.format
  rw [he.split_format, List.map_map] at hformat
  rw [Text.sum_length_split] at hlength
  refine ⟨he, Nat.le_of_succ_le_succ ?_⟩
  rw [Nat.succ_eq_add_one, ← hformat]
  exact hlength

end Enumeration
end RecordReport
