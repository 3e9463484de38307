import RecordReport.Proofs.Template.Lines
import RecordReport.Proofs.Template.RoundTrip

/-!
# Specifications that rows give

Whatever rows hold, the specification that is read off them names what it refers to, and can be written.
-/

namespace RecordReport

/-- The item can be told from others by its label, and the label from a comment or a command. A scalar
outside groups without a label of its own shows its property. -/
def Item.Labelled : Item → Prop
  | .scalar s => s.label ≠ "" ∧ (Template.isMarked s.label = true → s.label = s.property)
  | .group g => (g.label ≠ "" ∧ ¬Template.isMarked g.label = true) ∧
    ∀ m ∈ g.members, ¬Template.isMarked m.label = true
  | .other _ | .hidden _ => True

/-- The enumerations of an item. -/
def Item.enumerations : Item → List Enumeration
  | .scalar s => s.enumeration.toList
  | .group g => g.members.flatMap fun m => m.enumeration.toList
  | .other m | .hidden m => m.enumeration.toList

/-- There are entries, and their keys are distinct and have no blank ends. -/
structure Enumeration.Keyed (e : Enumeration) : Prop where
  entries_ne_nil : e.entries ≠ []
  keys_nodup : (e.entries.map Prod.fst).Nodup
  trim_key : ∀ entry ∈ e.entries, Text.trim entry.1 = entry.1

structure Spec.WellFormed (spec : Spec) : Prop where
  identified : spec.identifiers ≠ []
  sortKeys_nodup : spec.sortKeys.Nodup
  named : ∀ property ∈ spec.references, property ≠ ""
  title : ∀ t ∈ spec.title, t ≠ ""
  subtitle : ∀ t ∈ spec.subtitle, t ≠ ""
  labelled : ∀ item ∈ spec.items, item.Labelled
  keyed : ∀ item ∈ spec.items, ∀ e ∈ item.enumerations, e.Keyed

/-! ## Items -/

theorem Enumeration.Plain.keyed {e : Enumeration} (h : e.Plain) : e.Keyed :=
  ⟨e.nonempty, h.keys_nodup, fun entry hentry => (h.entries entry hentry).key_trimmed⟩

namespace Item

variable {p : String → Prop} {item : Item}

theorem Over.properties_ne_empty (h : item.Over p) : ∀ property ∈ item.properties, property ≠ "" := by
  cases item with
  | scalar s => exact List.forall_mem_singleton.mpr h.1.property.2
  | group g =>
      intro property hproperty
      obtain ⟨m, hm, rfl⟩ := List.mem_map.mp hproperty
      exact (h.2 m hm).property.2
  | other m | hidden m =>
      have hmention : m.Over p := h
      exact List.forall_mem_singleton.mpr hmention.property.2

theorem Over.keyed (h : item.Over p) : ∀ e ∈ item.enumerations, e.Keyed := by
  intro e he
  cases item with
  | scalar s => exact (h.1.enumeration e (Option.mem_toList.mp he)).keyed
  | group g =>
      obtain ⟨m, hm, he⟩ := List.mem_flatMap.mp he
      exact ((h.2 m hm).enumeration e (Option.mem_toList.mp he)).keyed
  | other m | hidden m =>
      have hmention : m.Over p := h
      exact (hmention.enumeration e (Option.mem_toList.mp he)).keyed

theorem Over.labelled (h : item.Over p) (hmarked : ¬Template.MarkedItem item) : item.Labelled := by
  cases item with
  | scalar s =>
      refine ⟨h.2, fun hs => ?_⟩
      by_contra hne
      exact hmarked ⟨hs, hne⟩
  | group g =>
      exact ⟨⟨h.1.2, fun hg => hmarked (Or.inl hg)⟩, fun m hm hlabel => hmarked (Or.inr ⟨m, hm, hlabel⟩)⟩
  | other _ | hidden _ => trivial

theorem Labelled.not_marked (h : item.Labelled) : ¬Template.MarkedItem item := by
  intro hmarked
  cases item with
  | scalar s => exact hmarked.2 (h.2 hmarked.1)
  | group g =>
      rcases hmarked with hg | ⟨m, hm, hlabel⟩
      · exact h.1.2 hg
      · exact h.2 m hm hlabel
  | other _ | hidden _ => exact hmarked

end Item

/-! ## Specifications -/

theorem Spec.Over.wellFormed {p : String → Prop} {spec : Spec} (h : spec.Over p)
    (hmarked : ∀ item ∈ spec.items, ¬Template.MarkedItem item) : spec.WellFormed where
  identified := h.identified
  sortKeys_nodup := h.sortKeys_nodup
  named := by
    rw [Spec.references, List.forall_mem_append, List.forall_mem_append]
    refine ⟨⟨fun property hproperty => ?_, fun key hkey => (h.sortKeys key hkey).2⟩,
      fun name hname => (h.identifiers name hname).2⟩
    obtain ⟨item, hitem, hproperty⟩ := List.mem_flatMap.mp hproperty
    exact (h.items item hitem).properties_ne_empty property hproperty
  title := fun t ht => (h.title t ht).2
  subtitle := fun t ht => (h.subtitle t ht).2
  labelled := fun item hitem => (h.items item hitem).labelled (hmarked item hitem)
  keyed := fun item hitem => (h.items item hitem).keyed

namespace Template

/-- A well-formed specification can be written to a place without a limit. -/
theorem exportTo_of_wellFormed {spec : Spec} (h : spec.WellFormed) :
    ∃ text, exportText spec = .ok text ∧ exportTo none spec = (⟨Text.encode text, true⟩, .ok ()) := by
  have hmarked : ∀ item ∈ spec.items, ¬MarkedItem item :=
    fun item hitem => (h.labelled item hitem).not_marked
  exact ⟨_, exportText_of_not_marked hmarked, exportTo_of_not_marked hmarked⟩

/-- Rows of any texts give a well-formed specification or none, and what they give can be written. -/
theorem wellFormed_of_parse {rows : List Csv.Row} {spec : Spec} (h : parse rows = .ok spec) :
    spec.WellFormed ∧ ∃ text, exportText spec = .ok text ∧
      exportTo none spec = (⟨Text.encode text, true⟩, .ok ()) := by
  obtain ⟨hover, hmarked⟩ := over_of_parse (p := fun _ => True) (fun _ _ _ => trivial) h
  have hwell := hover.wellFormed hmarked
  exact ⟨hwell, exportTo_of_wellFormed hwell⟩

/-- Two blank labels, one of them for a name that looks like a command, a group without a member, keys with
blanks around them, a name that begins with a blank, and no identifier. -/
theorem wellFormed_of_parse_unlabelled :
    let rows : List Csv.Row := [⟨1, ["Label", "Property"]⟩, ⟨2, ["Empty"]⟩, ⟨3, []⟩,
      ⟨4, ["", "_a", " 0 = off; 1 = on"]⟩, ⟨5, ["_SORT", "#b"]⟩, ⟨6, ["Group"]⟩, ⟨7, ["", " c"]⟩]
    let spec : Spec := ⟨none, none, ["#b"], ["_a"],
      [.group ⟨"Empty", []⟩, .scalar ⟨"_a", "_a", some ⟨[("0", "off"), ("1", "on")], by decide⟩, ""⟩,
        .group ⟨"Group", [⟨" c", "", none, ""⟩]⟩], .all⟩
    parse rows = .ok spec ∧ spec.WellFormed ∧ ∃ text, exportText spec = .ok text ∧
      exportTo none spec = (⟨Text.encode text, true⟩, .ok ()) := by
  intro rows spec
  have h : parse rows = .ok spec := by rfl
  exact ⟨h, wellFormed_of_parse h⟩

end Template
end RecordReport
