import Mathlib.Data.List.Induction
import RecordReport.Proofs.Spec.Enumeration

/-!
# The segments of an enumeration

A text is an enumeration when each of its segments has a key that no earlier one has; else the first segment
without one is at fault.
-/

namespace RecordReport.Enumeration

/-! ## Segments -/

/-- Neither blank nor with blanks around it. -/
structure IsSegment (segment : String) : Prop where
  trimmed : Text.trim segment = segment
  ne_empty : segment ≠ ""

/-- The segments of a text that are not blank, trimmed. -/
def segments (text : String) : List String :=
  ((text.toList.splitOn entrySeparator).map fun cs => Text.trim (String.ofList cs)).filter (· ≠ "")

/-- The part of a segment before the first sign for a label. -/
def keyOf (segment : String) : String :=
  Text.trim (String.ofList (segment.toList.takeWhile (· != assign)))

/-- The part of a segment after the first sign for a label. -/
def labelOf (segment : String) : String :=
  Text.trim (String.ofList ((segment.toList.dropWhile (· != assign)).drop 1))

def entryOf (segment : String) : String × String := (keyOf segment, labelOf segment)

/-- What is wrong with a segment that comes after these keys. -/
def faultOf (keys : List String) (segment : String) : Option Fault :=
  if assign ∉ segment.toList then some (.malformed segment)
  else if keyOf segment ∈ keys then some (.repeatedKey (keyOf segment))
  else none

/-- Each segment has a key, and no key is repeated. -/
structure Sound (segments : List String) : Prop where
  assigned : ∀ segment ∈ segments, assign ∈ segment.toList
  keys_nodup : (segments.map keyOf).Nodup

theorem isSegment_of_mem {text segment : String} (h : segment ∈ segments text) : IsSegment segment := by
  obtain ⟨hmem, hne⟩ := List.mem_filter.mp h
  obtain ⟨cs, -, rfl⟩ := List.mem_map.mp hmem
  exact ⟨Text.trim_trim (String.ofList cs), of_decide_eq_true hne⟩

theorem faultOf_eq_none_iff {keys : List String} {segment : String} :
    faultOf keys segment = none ↔ assign ∈ segment.toList ∧ keyOf segment ∉ keys := by
  rw [faultOf]
  split <;> simp_all

theorem sound_concat {before : List String} {segment : String} :
    Sound (before ++ [segment]) ↔ Sound before ∧ faultOf (before.map keyOf) segment = none := by
  rw [faultOf_eq_none_iff]
  have hnodup_iff : ((before ++ [segment]).map keyOf).Nodup ↔
      (before.map keyOf).Nodup ∧ keyOf segment ∉ before.map keyOf := by
    rw [List.map_append, List.perm_append_comm.nodup_iff]
    exact List.nodup_cons.trans and_comm
  constructor
  · rintro ⟨hassigned, hnodup⟩
    obtain ⟨hnodup, hfresh⟩ := hnodup_iff.mp hnodup
    obtain ⟨hassigned, hlast⟩ := List.forall_mem_append.mp hassigned
    exact ⟨⟨hassigned, hnodup⟩, hlast segment List.mem_cons_self, hfresh⟩
  · rintro ⟨⟨hassigned, hnodup⟩, hassign, hfresh⟩
    exact ⟨List.forall_mem_append.mpr ⟨hassigned, by simpa using hassign⟩,
      hnodup_iff.mpr ⟨hnodup, hfresh⟩⟩

/-- The segments before the first fault are sound. -/
theorem sound_or_exists_fault (segments : List String) :
    Sound segments ∨ ∃ before segment after fault, segments = before ++ segment :: after ∧
      Sound before ∧ faultOf (before.map keyOf) segment = some fault := by
  induction segments using List.reverseRecOn with
  | nil => exact .inl ⟨List.forall_mem_nil _, List.nodup_nil⟩
  | append_singleton segments last ih =>
      rcases ih with hsound | ⟨before, segment, after, fault, rfl, hsound, hfault⟩
      · cases hlast : faultOf (segments.map keyOf) last with
        | none => exact .inl (sound_concat.mpr ⟨hsound, hlast⟩)
        | some fault => exact .inr ⟨segments, last, [], fault, rfl, hsound, hlast⟩
      · exact .inr ⟨before, segment, after ++ [last], fault, by simp, hsound, hfault⟩

/-! ## Reading segments -/

theorem splitOnce?_assign (segment : String) :
    Text.splitOnce? assign segment =
      if assign ∈ segment.toList then
        some (String.ofList (segment.toList.takeWhile (· != assign)),
          String.ofList ((segment.toList.dropWhile (· != assign)).drop 1))
      else none := by
  have hnil : segment.toList.dropWhile (· != assign) = [] ↔ assign ∉ segment.toList := by
    rw [List.dropWhile_eq_nil_iff]
    simp [List.forall_mem_ne']
  rw [Text.splitOnce?]
  cases hdrop : segment.toList.dropWhile (· != assign) with
  | nil => rw [if_neg (hnil.mp hdrop)]
  | cons c rest => rw [if_pos (not_not.mp (mt hnil.mpr (by simp [hdrop])))]; rfl

/-- Blank segments are passed over, and blanks around the others count for nothing. -/
theorem parseEntries_trim (seen raw : List String) :
    parseEntries seen ((raw.map Text.trim).filter (· ≠ "")) = parseEntries seen raw := by
  induction raw generalizing seen with
  | nil => rfl
  | cons segment raw ih =>
      by_cases hblank : Text.trim segment = ""
      · rw [List.map_cons, List.filter_cons_of_neg (by simpa using hblank), ih]
        simp [parseEntries, hblank]
      · rw [List.map_cons, List.filter_cons_of_pos (by simpa using hblank)]
        simp only [parseEntries, Text.trim_trim, ih]

theorem parseEntries_cons {segment : String} (h : IsSegment segment) (seen rest : List String) :
    parseEntries seen (segment :: rest) =
      match faultOf seen segment with
      | some fault => .error fault
      | none => (parseEntries (keyOf segment :: seen) rest).map (entryOf segment :: ·) := by
  rw [parseEntries, faultOf, splitOnce?_assign]
  simp only [h.trimmed, if_neg h.ne_empty]
  by_cases hassign : assign ∈ segment.toList
  · rw [if_pos hassign, if_neg (not_not_intro hassign)]
    by_cases hold : keyOf segment ∈ seen
    · rw [if_pos hold]
      exact if_pos hold
    · rw [if_neg hold]
      exact if_neg hold
  · rw [if_neg hassign, if_pos hassign]

/-- Sound segments are read one by one, and their keys count for the rest. -/
theorem parseEntries_append {before seen : List String} (rest : List String)
    (hsegments : ∀ segment ∈ before, IsSegment segment) (hsound : Sound before)
    (hseen : ∀ segment ∈ before, keyOf segment ∉ seen) :
    parseEntries seen (before ++ rest) =
      (parseEntries ((before.map keyOf).reverse ++ seen) rest).map (before.map entryOf ++ ·) := by
  induction before generalizing seen with
  | nil => cases hrest : parseEntries seen rest <;> simp [hrest, Except.map]
  | cons segment before ih =>
      obtain ⟨hsegment, hsegments⟩ := List.forall_mem_cons.mp hsegments
      obtain ⟨hassign, hassigned⟩ := List.forall_mem_cons.mp hsound.assigned
      obtain ⟨hfresh, hkeys⟩ := List.nodup_cons.mp hsound.keys_nodup
      obtain ⟨hnew, hseen⟩ := List.forall_mem_cons.mp hseen
      have hunseen : ∀ s ∈ before, keyOf s ∉ keyOf segment :: seen := fun s hs => by
        rw [List.mem_cons, not_or]
        exact ⟨fun heq => hfresh (heq ▸ List.mem_map_of_mem hs), hseen s hs⟩
      have hkeys' : ((segment :: before).map keyOf).reverse ++ seen =
          (before.map keyOf).reverse ++ keyOf segment :: seen := by simp
      rw [List.cons_append, parseEntries_cons hsegment, faultOf_eq_none_iff.mpr ⟨hassign, hnew⟩, hkeys']
      dsimp only
      rw [ih hsegments ⟨hassigned, hkeys⟩ hunseen]
      cases parseEntries ((before.map keyOf).reverse ++ keyOf segment :: seen) rest <;> rfl

/-- Sound segments are read one by one. -/
theorem parseEntries_of_sound {segments : List String}
    (hsegments : ∀ segment ∈ segments, IsSegment segment) (hsound : Sound segments) :
    parseEntries [] segments = .ok (segments.map entryOf) := by
  have hread := parseEntries_append [] hsegments hsound fun _ _ => List.not_mem_nil
  rw [List.append_nil] at hread
  rw [hread, parseEntries, Except.map, List.append_nil]

/-- Reading ends at the first fault. -/
theorem parseEntries_of_fault {before after : List String} {segment : String} {fault : Fault}
    (hsegments : ∀ s ∈ before ++ segment :: after, IsSegment s) (hsound : Sound before)
    (hfault : faultOf (before.map keyOf) segment = some fault) :
    parseEntries [] (before ++ segment :: after) = .error fault := by
  obtain ⟨hbefore, hrest⟩ := List.forall_mem_append.mp hsegments
  obtain ⟨hsegment, -⟩ := List.forall_mem_cons.mp hrest
  have hkeys : faultOf ((before.map keyOf).reverse ++ []) segment = some fault := by
    rw [← hfault, faultOf, faultOf]
    simp
  rw [parseEntries_append _ hbefore hsound (by simp), parseEntries_cons hsegment, hkeys]
  rfl

/-! ## Reading texts -/

theorem parse_eq_segments (text : String) :
    parse text = (parseEntries [] (segments text)).map ofEntries? := by
  have hsplit : (Text.split entrySeparator text).map Text.trim =
      (text.toList.splitOn entrySeparator).map fun cs => Text.trim (String.ofList cs) := by
    rw [Text.split, Text.pieces_eq_splitOn, List.map_map]
    rfl
  rw [parse, segments, ← hsplit, parseEntries_trim]

theorem parse_of_sound {text : String} (h : Sound (segments text)) :
    parse text = .ok (ofEntries? ((segments text).map entryOf)) := by
  rw [parse_eq_segments, parseEntries_of_sound (fun _ => isSegment_of_mem) h]
  rfl

theorem parse_of_fault {text segment : String} {before after : List String} {fault : Fault}
    (hsegments : segments text = before ++ segment :: after) (hsound : Sound before)
    (hfault : faultOf (before.map keyOf) segment = some fault) : parse text = .error fault := by
  rw [parse_eq_segments, hsegments,
    parseEntries_of_fault (fun _ h => isSegment_of_mem (hsegments ▸ h)) hsound hfault]
  rfl

theorem sound_of_parse {text : String} {read : Option Enumeration} (h : parse text = .ok read) :
    Sound (segments text) := by
  rcases sound_or_exists_fault (segments text) with
    hsound | ⟨before, segment, after, fault, hsegments, hsound, hfault⟩
  · exact hsound
  · rw [parse_of_fault hsegments hsound hfault] at h
    cases h

theorem eq_of_parse {text : String} {read : Option Enumeration} (h : parse text = .ok read) :
    read = ofEntries? ((segments text).map entryOf) :=
  Except.ok.inj (h.symm.trans (parse_of_sound (sound_of_parse h)))

theorem ofEntries?_eq_none_iff {entries : List (String × String)} :
    ofEntries? entries = none ↔ entries = [] := by
  rw [ofEntries?]
  split <;> simp [*]

/-- Each key of an enumeration with distinct keys gives its label. -/
theorem get?_of_mem {e : Enumeration} (hkeys : (e.entries.map Prod.fst).Nodup) {key label : String}
    (hmem : (key, label) ∈ e.entries) : e.get? key = some label := by
  obtain ⟨before, after, hsplit⟩ := List.append_of_mem hmem
  rw [hsplit, List.map_append, List.nodup_append] at hkeys
  refine List.lookup_eq_some_iff.mpr ⟨before, after, hsplit, fun entry hentry => bne_iff_ne.mpr fun heq => ?_⟩
  exact hkeys.2.2 entry.1 (List.mem_map_of_mem hentry) key (by simp) heq.symm

theorem parse_format_iff {e : Enumeration} : parse e.format = .ok (some e) ↔ e.Plain :=
  ⟨fun h => (plain_of_parse h).1, parse_format⟩

/-- A text is read exactly when its segments are sound, and the enumeration holds what they say; else the
first fault among them is reported. An enumeration is read back from its written form exactly when it is
plain, as it is when it was read. -/
theorem parse_of_segments (text : String) :
    ((∃ read, parse text = .ok read) ↔ Sound (segments text)) ∧
    (∀ fault, parse text = .error fault ↔
      ∃ before segment after, segments text = before ++ segment :: after ∧ Sound before ∧
        faultOf (before.map keyOf) segment = some fault) ∧
    (∀ read, parse text = .ok read →
      (read = none ↔ segments text = []) ∧
      ∀ e, read = some e → e.entries = (segments text).map entryOf ∧
        ∀ key label, (key, label) ∈ e.entries → e.get? key = some label) ∧
    (∀ e : Enumeration, parse e.format = .ok (some e) ↔ e.Plain) ∧
    (∀ e, parse text = .ok (some e) → parse e.format = .ok (some e)) := by
  refine ⟨⟨fun ⟨_, h⟩ => sound_of_parse h, fun h => ⟨_, parse_of_sound h⟩⟩, fun fault => ⟨fun h => ?_, ?_⟩,
    fun read h => ⟨?_, ?_⟩, fun _ => parse_format_iff, fun e h => parse_format (plain_of_parse h).1⟩
  · rcases sound_or_exists_fault (segments text) with
      hsound | ⟨before, segment, after, fault', hsegments, hsound, hfault⟩
    · rw [parse_of_sound hsound] at h
      cases h
    · rw [parse_of_fault hsegments hsound hfault] at h
      cases h
      exact ⟨before, segment, after, hsegments, hsound, hfault⟩
  · rintro ⟨before, segment, after, hsegments, hsound, hfault⟩
    exact parse_of_fault hsegments hsound hfault
  · rw [eq_of_parse h, ofEntries?_eq_none_iff, List.map_eq_nil_iff]
  · rintro e rfl
    exact ⟨entries_of_ofEntries? (eq_of_parse h).symm,
      fun _ _ => get?_of_mem (plain_of_parse h).1.keys_nodup⟩

end RecordReport.Enumeration
