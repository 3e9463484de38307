import RecordReport.Proofs.Spec.Clean

/-!
# Specifications that are read from a template

Texts have no blank ends, names are not empty, and no key of an enumeration occurs twice. A byte order
mark may stand at the end of a text. Rows that have not been trimmed give texts of another kind and
nothing else.
-/

namespace RecordReport

/-- A text without blank ends that is not empty. -/
structure Text.IsTidyName (s : String) : Prop where
  trim_eq : trim s = s
  ne_empty : s ≠ ""

structure Scalar.Tidy (s : Scalar) : Prop where
  property : Text.IsTidyName s.property
  label : Text.trim s.label = s.label
  notes : Text.trim s.notes = s.notes
  enumeration : ∀ e ∈ s.enumeration, e.Plain

structure Mention.Tidy (m : Mention) : Prop where
  property : Text.IsTidyName m.property
  notes : Text.trim m.notes = m.notes
  enumeration : ∀ e ∈ m.enumeration, e.Plain

def Item.Tidy : Item → Prop
  | .scalar s => s.Tidy ∧ s.label ≠ ""
  | .group g => Text.IsTidyName g.label ∧ ∀ m ∈ g.members, m.Tidy
  | .other m | .hidden m => m.Tidy

structure Spec.Tidy (spec : Spec) : Prop where
  title : ∀ t ∈ spec.title, Text.IsTidyName t
  subtitle : ∀ t ∈ spec.subtitle, Text.IsTidyName t
  sortKeys : ∀ key ∈ spec.sortKeys, Text.IsTidyName key
  identifiers : ∀ name ∈ spec.identifiers, Text.IsTidyName name
  items : ∀ item ∈ spec.items, item.Tidy
  identified : spec.identifiers ≠ []
  sortKeys_nodup : spec.sortKeys.Nodup

/-! ## Texts of one kind -/

/-- The texts are of one kind, and the property has a name. -/
structure Scalar.Over (p : String → Prop) (s : Scalar) : Prop where
  property : p s.property ∧ s.property ≠ ""
  label : p s.label
  notes : p s.notes
  enumeration : ∀ e ∈ s.enumeration, e.Plain

structure Mention.Over (p : String → Prop) (m : Mention) : Prop where
  property : p m.property ∧ m.property ≠ ""
  notes : p m.notes
  enumeration : ∀ e ∈ m.enumeration, e.Plain

def Item.Over (p : String → Prop) : Item → Prop
  | .scalar s => s.Over p ∧ s.label ≠ ""
  | .group g => (p g.label ∧ g.label ≠ "") ∧ ∀ m ∈ g.members, m.Over p
  | .other m | .hidden m => m.Over p

structure Spec.Over (p : String → Prop) (spec : Spec) : Prop where
  title : ∀ t ∈ spec.title, p t ∧ t ≠ ""
  subtitle : ∀ t ∈ spec.subtitle, p t ∧ t ≠ ""
  sortKeys : ∀ key ∈ spec.sortKeys, p key ∧ key ≠ ""
  identifiers : ∀ name ∈ spec.identifiers, p name ∧ name ≠ ""
  items : ∀ item ∈ spec.items, item.Over p
  identified : spec.identifiers ≠ []
  sortKeys_nodup : spec.sortKeys.Nodup

theorem Scalar.Over.tidy {s : Scalar} (h : s.Over fun t => Text.trim t = t) : s.Tidy :=
  ⟨⟨h.property.1, h.property.2⟩, h.label, h.notes, h.enumeration⟩

theorem Mention.Over.tidy {m : Mention} (h : m.Over fun t => Text.trim t = t) : m.Tidy :=
  ⟨⟨h.property.1, h.property.2⟩, h.notes, h.enumeration⟩

theorem Item.Over.tidy {item : Item} (h : item.Over fun t => Text.trim t = t) : item.Tidy := by
  cases item with
  | scalar s => exact ⟨h.1.tidy, h.2⟩
  | group g => exact ⟨⟨h.1.1, h.1.2⟩, fun m hm => (h.2 m hm).tidy⟩
  | other m => exact Mention.Over.tidy h
  | hidden m => exact Mention.Over.tidy h

theorem Spec.Over.tidy {spec : Spec} (h : spec.Over fun t => Text.trim t = t) : spec.Tidy where
  title := fun t ht => ⟨(h.title t ht).1, (h.title t ht).2⟩
  subtitle := fun t ht => ⟨(h.subtitle t ht).1, (h.subtitle t ht).2⟩
  sortKeys := fun key hkey => ⟨(h.sortKeys key hkey).1, (h.sortKeys key hkey).2⟩
  identifiers := fun name hname => ⟨(h.identifiers name hname).1, (h.identifiers name hname).2⟩
  items := fun item hitem => (h.items item hitem).tidy
  identified := h.identified
  sortKeys_nodup := h.sortKeys_nodup

/-! ## Clean specifications -/

theorem Text.IsName.tidy {s : String} (h : Text.IsName s) : Text.IsTidyName s :=
  ⟨h.trimmed.trim_eq, h.ne_empty⟩

theorem Scalar.Clean.tidy {s : Scalar} (h : s.Clean) : s.Tidy :=
  ⟨h.property.tidy, h.label.trim_eq, h.notes.trim_eq, fun e he => (h.enumeration e he).plain⟩

theorem Mention.Clean.tidy {m : Mention} (h : m.Clean) : m.Tidy :=
  ⟨h.property.tidy, h.notes.trim_eq, fun e he => (h.enumeration e he).plain⟩

theorem Item.Clean.tidy {item : Item} (h : item.Clean) : item.Tidy := by
  cases item with
  | scalar s => exact ⟨h.1.tidy, h.2⟩
  | group g => exact ⟨h.1.tidy, fun m hm => (h.2 m hm).tidy⟩
  | other m => exact Mention.Clean.tidy h
  | hidden m => exact Mention.Clean.tidy h

theorem Spec.Clean.tidy {spec : Spec} (h : spec.Clean) : spec.Tidy where
  title := fun t ht => (h.title t ht).tidy
  subtitle := fun t ht => (h.subtitle t ht).tidy
  sortKeys := fun key hkey => (h.sortKeys key hkey).tidy
  identifiers := fun name hname => (h.identifiers name hname).tidy
  items := fun item hitem => (h.items item hitem).tidy
  identified := h.identified
  sortKeys_nodup := h.sortKeys_nodup

end RecordReport
