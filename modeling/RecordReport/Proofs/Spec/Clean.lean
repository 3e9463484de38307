import Mathlib.Tactic.MkIffOfInductiveProp
import RecordReport.Proofs.Spec.Enumeration
import RecordReport.Spec

/-!
# Specifications that a template can hold

All texts are trimmed, names are not empty, and no key of an enumeration occurs twice.
-/

namespace RecordReport

/-- A text that a reader keeps as it is and that is not empty. -/
@[mk_iff] structure Text.IsName (s : String) : Prop where
  trimmed : IsTrimmed s
  ne_empty : s ≠ ""

instance (s : String) : Decidable (Text.IsName s) := decidable_of_iff' _ (Text.isName_iff s)

/-- The parts of the entries are trimmed and hold no separators, and the keys are distinct. -/
@[mk_iff] structure Enumeration.Clean (e : Enumeration) : Prop where
  trimmed : ∀ entry ∈ e.entries, Text.IsTrimmed entry.1 ∧ Text.IsTrimmed entry.2
  separator : ∀ entry ∈ e.entries,
    entrySeparator ∉ entry.1.toList ∧ entrySeparator ∉ entry.2.toList
  assign : ∀ entry ∈ e.entries, Enumeration.assign ∉ entry.1.toList
  keys_nodup : (e.entries.map Prod.fst).Nodup

instance (e : Enumeration) : Decidable e.Clean := decidable_of_iff' _ (Enumeration.clean_iff e)

/-- The property has a name and all texts are trimmed. -/
@[mk_iff] structure Scalar.Clean (s : Scalar) : Prop where
  property : Text.IsName s.property
  label : Text.IsTrimmed s.label
  notes : Text.IsTrimmed s.notes
  enumeration : ∀ e ∈ s.enumeration, e.Clean

instance (s : Scalar) : Decidable s.Clean := decidable_of_iff' _ (Scalar.clean_iff s)

@[mk_iff] structure Mention.Clean (m : Mention) : Prop where
  property : Text.IsName m.property
  notes : Text.IsTrimmed m.notes
  enumeration : ∀ e ∈ m.enumeration, e.Clean

instance (m : Mention) : Decidable m.Clean := decidable_of_iff' _ (Mention.clean_iff m)

/-- The members of groups may be without a label. -/
def Item.Clean : Item → Prop
  | .scalar s => s.Clean ∧ s.label ≠ ""
  | .group g => Text.IsName g.label ∧ ∀ m ∈ g.members, m.Clean
  | .other m | .hidden m => m.Clean

instance : (item : Item) → Decidable item.Clean
  | .scalar s => inferInstanceAs (Decidable (s.Clean ∧ s.label ≠ ""))
  | .group g => inferInstanceAs (Decidable (Text.IsName g.label ∧ ∀ m ∈ g.members, m.Clean))
  | .other m | .hidden m => inferInstanceAs (Decidable m.Clean)

@[mk_iff] structure Spec.Clean (spec : Spec) : Prop where
  title : ∀ t ∈ spec.title, Text.IsName t
  subtitle : ∀ t ∈ spec.subtitle, Text.IsName t
  sortKeys : ∀ key ∈ spec.sortKeys, Text.IsName key
  identifiers : ∀ name ∈ spec.identifiers, Text.IsName name
  items : ∀ item ∈ spec.items, item.Clean
  identified : spec.identifiers ≠ []
  sortKeys_nodup : spec.sortKeys.Nodup

instance (spec : Spec) : Decidable spec.Clean := decidable_of_iff' _ (Spec.clean_iff spec)

/-! ## Enumerations -/

theorem Enumeration.Clean.plain {e : Enumeration} (h : e.Clean) : e.Plain :=
  ⟨fun entry hentry => ⟨(h.trimmed entry hentry).1.trim_eq, (h.trimmed entry hentry).2.trim_eq,
    (h.separator entry hentry).1, (h.separator entry hentry).2, h.assign entry hentry⟩,
    h.keys_nodup⟩

theorem Enumeration.Clean.isTrimmed_format {e : Enumeration} (h : e.Clean) :
    Text.IsTrimmed e.format := by
  rw [Enumeration.format, Text.IsTrimmed, String.toList_intercalate, List.map_map]
  refine Text.Ends.intercalate (by decide) fun cs hcs => ?_
  obtain ⟨entry, hentry, rfl⟩ := List.mem_map.mp hcs
  have htrimmed := h.trimmed entry hentry
  rw [Function.comp_apply, Enumeration.toList_formatEntry]
  exact Text.Ends.append_cons (by decide) htrimmed.1 htrimmed.2

end RecordReport
