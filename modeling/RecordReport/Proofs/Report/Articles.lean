import RecordReport.Proofs.Report.Listing
import RecordReport.Proofs.Report.Order
import RecordReport.Proofs.Report.Warnings

/-!
# Values in articles

The definition list of a record's article shows the values that are not empty, in the order of the
specification. A group is there if one of its members has a value, with those members that have one.
-/

namespace RecordReport

def Record.filled (record : Record) (scalars : List Scalar) : List Scalar :=
  scalars.filter fun s => record.value s.property ≠ ""

/-- What stands for the value of a scalar: the first label that its enumeration has for it, or else the
value. -/
def Scalar.display (s : Scalar) (record : Record) : String :=
  let raw := record.value s.property
  match s.enumeration with
  | none => raw
  | some e => ((e.entries.find? fun entry => entry.1 = raw).map Prod.snd).getD raw

/-- An entry of a definition list. -/
inductive Entry where
  | value (label text : String)
  /-- Values under the label of a group, which are a list of their own. -/
  | group (label : String) (values : List (String × String))
  deriving DecidableEq, Repr

namespace Entry

def values : Entry → List (String × String)
  | .value label text => [(label, text)]
  | .group _ values => values

def definition (value : String × String) : List Node := [.plain "dt" value.1, .plain "dd" value.2]

def nodes : Entry → List Node
  | .value label text => definition (label, text)
  | .group label values =>
    [.classed "dt" "group" label,
      .block ⟨"dd", []⟩ [.block ⟨"dl", [("class", "group")]⟩ (values.flatMap definition)]]

end Entry

def Record.labelled (record : Record) (scalars : List Scalar) : List (String × String) :=
  scalars.map fun s => (s.label, s.display record)

/-- What an article says of an item, if anything. -/
def Item.asEntry (record : Record) : Item → Option Entry
  | .scalar s =>
    if record.value s.property = "" then none else some (.value s.label (s.display record))
  | .group g =>
    let filled := record.filled g.members
    if filled = [] then none else some (.group g.label (record.labelled filled))
  | .other _ | .hidden _ => none

def Spec.entriesOf (spec : Spec) (record : Record) : List Entry :=
  spec.items.filterMap (Item.asEntry record)

/-! ## Entries -/

theorem Enumeration.get?_eq_find? (e : Enumeration) (raw : String) :
    e.get? raw = (e.entries.find? fun entry => entry.1 = raw).map Prod.snd := by
  rw [get?]
  induction e.entries with
  | nil => rfl
  | cons entry entries ih =>
      rw [List.lookup_cons, List.find?_cons, ih]
      by_cases h : entry.1 = raw
      · simp [h]
      · simp [h, beq_eq_false_iff_ne.mpr (Ne.symm h)]

namespace Item

variable (record : Record) (item : Item)

/-- The entry of an item has the values of its scalars that are not empty. -/
theorem values_asEntry : (item.asEntry record).toList.flatMap Entry.values =
    record.labelled (record.filled item.scalars) := by
  cases item with
  | scalar s =>
      rw [asEntry, scalars, Record.filled]
      split
      · rename_i h
        simp [h, Record.labelled]
      · rename_i h
        simp [h, Record.labelled, Entry.values]
  | group g =>
      rw [asEntry, scalars]
      split
      · rename_i h
        rw [h]
        rfl
      · simp [Entry.values]
  | other _ | hidden _ => rfl

theorem values_ne_nil_of_asEntry {record : Record} {item : Item} {entry : Entry}
    (h : item.asEntry record = some entry) : entry.values ≠ [] := by
  cases item with
  | scalar s =>
      rw [asEntry] at h
      split at h
      · cases h
      · cases h
        exact List.cons_ne_nil _ _
  | group g =>
      rw [asEntry] at h
      split at h
      · cases h
      · rename_i hfilled
        cases h
        exact fun hnil => hfilled (List.map_eq_nil_iff.mp hnil)
  | other _ | hidden _ => cases h

end Item

/-- All values that are not empty are there, each as often as the specification shows it. -/
theorem Spec.values_entriesOf (spec : Spec) (record : Record) :
    (spec.entriesOf record).flatMap Entry.values =
      record.labelled (record.filled (spec.items.flatMap Item.scalars)) := by
  have hlabelled : record.labelled (record.filled (spec.items.flatMap Item.scalars)) =
      spec.items.flatMap fun item => record.labelled (record.filled item.scalars) := by
    rw [Record.filled, List.filter_flatMap, Record.labelled, List.map_flatMap]
    rfl
  rw [entriesOf, List.filterMap_eq_flatMap_toList, List.flatMap_assoc, hlabelled]
  exact List.flatMap_congr fun item _ => item.values_asEntry record

namespace Report

open Node (named)

theorem value_shown {raw : String} (h : raw ≠ "") (property : String) (e : Option Enumeration) :
    (shown property raw e).value =
      match e with
      | none => raw
      | some e => ((e.entries.find? fun entry => entry.1 = raw).map Prod.snd).getD raw := by
  cases e with
  | none => rfl
  | some e =>
      rw [shown, if_neg h]
      dsimp only
      rw [← e.get?_eq_find?]
      cases e.get? raw <;> rfl

/-! ## Articles -/

theorem Noted.value_join_map {α β : Type} (f : α → Noted (List β)) (xs : List α) :
    (Noted.join (xs.map f)).value = xs.flatMap fun x => (f x).value :=
  List.flatMap_map ..

variable (record : Record)

theorem value_scalarEntry (s : Scalar) : (scalarEntry record s).value =
    if record.value s.property = "" then [] else Entry.definition (s.label, s.display record) := by
  rw [scalarEntry]
  split
  · rfl
  · rename_i h
    have hshown : (shown s.property (record.value s.property) s.enumeration).value = s.display record :=
      value_shown h s.property s.enumeration
    rw [Noted.map, hshown]
    rfl

theorem value_scalarEntries (scalars : List Scalar) :
    (Noted.join (scalars.map (scalarEntry record))).value =
      (record.labelled (record.filled scalars)).flatMap Entry.definition := by
  rw [Noted.value_join_map, Record.labelled, List.flatMap_map, Record.filled]
  induction scalars with
  | nil => rfl
  | cons s scalars ih =>
      rw [List.flatMap_cons, value_scalarEntry, ih]
      by_cases h : record.value s.property = "" <;> simp [h]

theorem any_hasValue_iff (scalars : List Scalar) :
    (scalars.any fun s => record.hasValue s.property) = true ↔ record.filled scalars ≠ [] := by
  simp [Record.filled, Record.hasValue]

theorem value_itemEntry (item : Item) :
    (itemEntry record item).value = (item.asEntry record).toList.flatMap Entry.nodes := by
  cases item with
  | scalar s =>
      rw [itemEntry, value_scalarEntry, Item.asEntry]
      split
      · rfl
      · exact (List.flatMap_singleton _ _).symm
  | group g =>
      rw [itemEntry, groupEntry, Item.asEntry]
      by_cases h : record.filled g.members = []
      · have hany := mt (any_hasValue_iff record g.members).mp (not_not_intro h)
        simp [hany, h, Noted.silent]
      · have hany := (any_hasValue_iff record g.members).mpr h
        simp [hany, h, Noted.map, value_scalarEntries, Entry.nodes]
  | other _ | hidden _ => rfl

theorem value_itemEntries (spec : Spec) :
    (Noted.join (spec.items.map (itemEntry record))).value =
      (spec.entriesOf record).flatMap Entry.nodes := by
  rw [Noted.value_join_map, Spec.entriesOf, List.filterMap_eq_flatMap_toList, List.flatMap_assoc]
  exact List.flatMap_congr fun item _ => value_itemEntry record item

/-! ## Reports -/

/-- The identities of the articles, with the definition lists that they consist of. -/
def Rendered.definitions (report : Rendered) : List (Option String × List Node) :=
  (report.parts "records" [named "article"]).map fun article =>
    (article.tag.attributes.lookup "id", article.select [named "dl"])

namespace Context

variable (c : Context)

theorem select_definitions (record : Record) : (c.article record).value.select [named "dl"] =
    [.block ⟨"dl", []⟩ ((c.spec.entriesOf record).flatMap Entry.nodes)] := by
  have hentries := value_itemEntries record c.spec
  cases h : c.headingContext? record <;>
    simp [article, headingNodes, Noted.map, h, named, hentries]

theorem definitions_render (h : c.spec.visibility.records = true) : c.render.definitions =
    c.records.map fun r =>
      (some r.anchor, [.block ⟨"dl", []⟩ ((c.spec.entriesOf r).flatMap Entry.nodes)]) := by
  have hid (r : Record) : (c.article r).value.tag.attributes.lookup "id" = some r.anchor := rfl
  rw [Rendered.definitions, parts_records, if_pos h, recordsSection,
    select_section_articles (by rfl) c.name_articles]
  simp [hid, select_definitions]

end Context

/-- The definition list of an article holds an entry for each item with a value in the record, in the order
of the items, and every value that is not empty stands in one of them. -/
theorem definitions_of_render {table : Table} {spec : Spec} {options : Options} {report : Rendered}
    (h : render table spec options = .ok report) (hrecords : spec.visibility.records = true) :
    report.definitions = (sortRecords spec.sortKeys table.records).map (fun r =>
      (some r.anchor, [.block ⟨"dl", []⟩ ((spec.entriesOf r).flatMap Entry.nodes)])) ∧
    ∀ r : Record, (∀ entry ∈ spec.entriesOf r, entry.values ≠ []) ∧
      (spec.entriesOf r).flatMap Entry.values =
        ((spec.items.flatMap Item.scalars).filter fun s => r.value s.property ≠ "").map
          fun s => (s.label, s.display r) := by
  obtain ⟨c, hc, rfl⟩ := exists_context_of_render h
  obtain ⟨rfl, rfl, -⟩ := Context.of_eq_ok hc
  refine ⟨c.definitions_render hrecords, fun r => ⟨fun entry hentry => ?_, c.spec.values_entriesOf r⟩⟩
  obtain ⟨item, -, hitem⟩ := List.mem_filterMap.mp hentry
  exact Item.values_ne_nil_of_asEntry hitem

/-- A label that is empty, a key that occurs twice, a group without values and one with some. -/
theorem definitions_of_render_groups :
    let table : Table := ⟨["a", "b", "c"], [⟨1, 2, [("a", "1"), ("b", ""), ("c", "x")]⟩,
      ⟨2, 3, [("a", "?"), ("b", ""), ("c", "")]⟩]⟩
    let enumeration : Enumeration := ⟨[("1", ""), ("1", "one")], by decide⟩
    let spec : Spec := ⟨none, none, [], ["a"], [.scalar ⟨"a", "A", some enumeration, ""⟩,
      .hidden ⟨"c", none, ""⟩, .group ⟨"G", [⟨"b", "B", none, ""⟩, ⟨"c", "", none, ""⟩]⟩,
      .other ⟨"a", none, ""⟩, .scalar ⟨"a", "Again", none, ""⟩], .all⟩
    ∃ report, render table spec {} = .ok report ∧ spec.visibility.records = true ∧
      report.definitions =
        [(some "r1", [.block ⟨"dl", []⟩ ([Entry.value "A" "", .group "G" [("", "x")],
            .value "Again" "1"].flatMap Entry.nodes)]),
          (some "r2", [.block ⟨"dl", []⟩ ([Entry.value "A" "?", .value "Again" "?"].flatMap
            Entry.nodes)])] := by
  intro table enumeration spec
  obtain ⟨report, h⟩ : ∃ report, render table spec {} = .ok report := ⟨_, by rfl⟩
  have hrecords : spec.visibility.records = true := rfl
  refine ⟨report, h, hrecords, (definitions_of_render h hrecords).1.trans ?_⟩
  rw [sortRecords_nil]
  rfl

end Report
end RecordReport
