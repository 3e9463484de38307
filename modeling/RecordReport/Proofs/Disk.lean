import RecordReport.Disk
import RecordReport.Proofs.Results

/-!
# Files on a disk

Writing to a file changes what stands at its place and nothing else. No directory comes or goes, so a path
that led somewhere still leads there.
-/

namespace RecordReport.Disk

variable {disk written : Disk} {path : String} {place : Place} {content : Bytes}

/-! ## Places -/

theorem lookup_filter_ne {entries : List (Place × Entry)} {p q : Place} (h : q ≠ p) :
    (entries.filter (·.1 ≠ p)).lookup q = entries.lookup q := by
  induction entries with
  | nil => rfl
  | cons entry entries ih =>
      obtain ⟨r, e⟩ := entry
      by_cases hr : r = p
      · subst hr
        rw [List.filter_cons_of_neg (by simp), ih, List.lookup_cons, beq_false_of_ne h]
      · rw [List.filter_cons_of_pos (by simpa using hr), List.lookup_cons, List.lookup_cons, ih]

theorem entry?_put_of_ne {p q : Place} (h : q ≠ p) (e : Entry) :
    Disk.entry? (disk.put p e) q = disk.entry? q := by
  have hlookup : (disk.put p e).entries.lookup q = disk.entries.lookup q := by
    rw [put, List.lookup_cons, beq_false_of_ne h]
    exact lookup_filter_ne h
  unfold entry?
  rw [hlookup]

theorem entry?_put_self {p : Place} (h : disk.entry? p ≠ some .directory) (e : Entry) :
    Disk.entry? (disk.put p e) p = some e := by
  have hbelow : ¬(isAbove p || decide (p = root)) = true := by
    intro habove
    unfold entry? at h
    rw [if_pos habove] at h
    exact h rfl
  unfold entry?
  rw [if_neg hbelow, put, List.lookup_cons, beq_self_eq_true]

theorem put_put (p : Place) (e f : Entry) : (disk.put p e).put p f = disk.put p f := by
  simp [put]

/-! ## Paths -/

/-- Only directories are walked through, and what is put is none and replaces none. -/
theorem walk_put {p start : Place} {names : List String} (hp : disk.entry? p ≠ some .directory)
    (h : disk.walk start names = .ok place) :
    (disk.put p (.file content)).walk start names = .ok place := by
  induction names generalizing start with
  | nil => exact h
  | cons name names ih =>
      rw [walk] at h ⊢
      cases hentry : disk.entry? start with
      | none => rw [hentry] at h; cases h
      | some entry =>
          rw [hentry] at h
          cases entry with
          | file _ => cases h
          | closed _ => cases h
          | directory =>
              have hne : start ≠ p := by
                rintro rfl
                exact hp hentry
              rw [entry?_put_of_ne hne, hentry]
              dsimp only at h ⊢
              split at h
              · cases h
              · rename_i hlength
                rw [if_neg hlength]
                exact ih h

theorem locate_of_valid (hpath : path ≠ "") (hzero : '\x00' ∉ path.toList)
    (hlength : path.utf8ByteSize ≤ 4095) : disk.locate path = disk.walk (origin path) (names path) := by
  have hcontains : ¬path.contains '\x00' = true := by simpa using hzero
  rw [locate, if_neg hpath, if_neg hcontains, if_neg (Nat.not_lt.mpr hlength)]

theorem locate_put {p : Place} (hp : disk.entry? p ≠ some .directory)
    (h : disk.locate path = .ok place) :
    (disk.put p (.file content)).locate path = .ok place := by
  unfold locate at h ⊢
  split_ifs at h ⊢
  exact walk_put hp h

/-! ## Reading and writing -/

theorem exists_of_read (h : disk.read path = .ok content) :
    ∃ place, disk.locate path = .ok place ∧ disk.entry? place = some (.file content) ∧
      namesDirectory path = false := by
  rw [read] at h
  obtain ⟨q, hq, h⟩ := exists_of_bind_eq_ok h
  cases hentry : disk.entry? q with
  | none => rw [hentry] at h; cases h
  | some entry =>
      rw [hentry] at h
      cases entry with
      | directory => cases h
      | closed _ => cases h
      | file _ =>
          cases hname : namesDirectory path <;> rw [hname] at h <;> cases h
          exact ⟨q, hq, hentry, rfl⟩

theorem read_of_entry (hplace : disk.locate path = .ok place)
    (hentry : disk.entry? place = some (.file content)) (hname : namesDirectory path = false) :
    disk.read path = .ok content := by
  simp [read, hplace, hentry, hname, bind, Except.bind]

theorem target_of_entry (hplace : disk.locate path = .ok place)
    (hentry : disk.entry? place = some (.file content)) (hname : namesDirectory path = false) :
    disk.target path = .ok (place, some content) := by
  simp [target, hplace, hentry, hname, bind, Except.bind]

/-- A file can be written where one is, or where nothing is. -/
theorem target_eq_ok {old : Option Bytes} (h : disk.target path = .ok (place, old)) :
    disk.locate path = .ok place ∧ disk.entry? place = old.map .file ∧
      namesDirectory path = false := by
  rw [target] at h
  obtain ⟨q, hq, h⟩ := exists_of_bind_eq_ok h
  cases hentry : disk.entry? q with
  | none =>
      rw [hentry] at h
      cases hname : namesDirectory path <;> rw [hname] at h <;> cases h
      exact ⟨hq, hentry, rfl⟩
  | some entry =>
      rw [hentry] at h
      cases entry with
      | directory => cases h
      | closed _ => cases h
      | file _ =>
          cases hname : namesDirectory path <;> rw [hname] at h <;> cases h
          exact ⟨hq, hentry, rfl⟩

/-- The place has no directory on it, and the file is put there. -/
structure Replaces (disk : Disk) (path : String) (content : Bytes) (written : Disk) : Prop where
  names_file : namesDirectory path = false
  exists_place : ∃ place, disk.locate path = .ok place ∧ disk.entry? place ≠ some .directory ∧
    written = disk.put place (.file content)

theorem write_of_target {old : Option Bytes} (h : disk.target path = .ok (place, old)) (content : Bytes) :
    disk.write path content = .ok (disk.put place (.file content)) := by
  rw [write, h]
  rfl

theorem replaces_of_write (h : disk.write path content = .ok written) :
    disk.Replaces path content written := by
  rw [write] at h
  obtain ⟨⟨place, old⟩, htarget, h⟩ := exists_of_bind_eq_ok h
  cases h
  obtain ⟨hplace, hentry, hname⟩ := target_eq_ok htarget
  refine ⟨hname, place, hplace, ?_, rfl⟩
  rw [hentry]
  cases old <;> simp

namespace Replaces

/-- What was written is read. -/
theorem read (h : disk.Replaces path content written) : written.read path = .ok content := by
  obtain ⟨hname, place, hplace, hfile, rfl⟩ := h
  exact read_of_entry (locate_put hfile hplace) (entry?_put_self hfile _) hname

theorem entry?_eq (h : disk.Replaces path content written) {q : Place}
    (hq : disk.locate path ≠ .ok q) : written.entry? q = disk.entry? q := by
  obtain ⟨-, place, hplace, -, rfl⟩ := h
  refine entry?_put_of_ne ?_ _
  rintro rfl
  exact hq hplace

/-- A file at another place is read as before. -/
theorem read_other (h : disk.Replaces path content written) {other : String} {kept : Bytes}
    (hother : disk.locate other ≠ disk.locate path) (hread : disk.read other = .ok kept) :
    written.read other = .ok kept := by
  obtain ⟨q, hq, hentry, hname⟩ := exists_of_read hread
  have hplaces : disk.locate path ≠ .ok q := fun hpath => hother (hq.trans hpath.symm)
  have hsame := h.entry?_eq hplaces
  obtain ⟨-, place, -, hfile, rfl⟩ := h
  exact read_of_entry (locate_put hfile hq) (hsame.trans hentry) hname

end Replaces

/-! ## Appending -/

theorem append_append {more : Bytes} {later : Disk} (h : disk.append path content = .ok written)
    (hlater : written.append path more = .ok later) :
    disk.append path (content ++ more) = .ok later := by
  rw [append] at h hlater ⊢
  obtain ⟨⟨place, old⟩, htarget, h⟩ := exists_of_bind_eq_ok h
  cases h
  obtain ⟨⟨again, grown⟩, hagain, hlater⟩ := exists_of_bind_eq_ok hlater
  cases hlater
  obtain ⟨hplace, hentry, -⟩ := target_eq_ok htarget
  obtain ⟨hsame, hgrown, -⟩ := target_eq_ok hagain
  have hfile : disk.entry? place ≠ some .directory := by
    rw [hentry]
    cases old <;> simp
  rw [locate_put hfile hplace] at hsame
  cases hsame
  rw [entry?_put_self hfile] at hgrown
  have hgrown : grown = some (old.getD [] ++ content) := by
    cases grown with
    | none => cases hgrown
    | some bytes =>
        cases hgrown
        rfl
  rw [htarget, hgrown]
  simp [bind, Except.bind, pure, Except.pure, put_put]

end RecordReport.Disk
