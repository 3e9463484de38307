import RecordReport.Proofs.Report.Listing
import RecordReport.Proofs.Report.Order
import RecordReport.Proofs.Report.Writing

/-!
# Summaries of properties

A property is summarised as the first place that shows it says, and otherwise only if the specification does
not refer to it at all. The index lists the same properties in the order of their names.
-/

namespace RecordReport

/-! ## Places -/

/-- A place of a specification where a property may be shown. -/
inductive Place where
  | scalar (scalar : Scalar)
  | member (group : Group) (member : Scalar)
  | other (mention : Mention)
  | hidden (mention : Mention)
  deriving DecidableEq, Repr

def Item.places : Item → List Place
  | .scalar s => [.scalar s]
  | .group g => g.members.map (.member g)
  | .other m => [.other m]
  | .hidden m => [.hidden m]

/-- The places of all items, in their order. -/
def Spec.places (spec : Spec) : List Place := spec.items.flatMap Item.places

namespace Place

def property : Place → String
  | .scalar s | .member _ s => s.property
  | .other m | .hidden m => m.property

/-- Mentions are shown by the choice of the caller. -/
def shown (options : Report.Options) : Place → Bool
  | .scalar _ | .member _ _ => true
  | .other _ => !options.excludeOther
  | .hidden _ => options.includeHidden

/-- What a place says about its property. Without a label of its own a member has that of its group. -/
def summary : Place → Report.Summary
  | .scalar s => ⟨s.property, s.label, .normal, s.enumeration, s.notes⟩
  | .member g s =>
    let label := if s.label = "" then g.label else g.label ++ ": " ++ s.label
    ⟨s.property, label, .normal, s.enumeration, s.notes⟩
  | .other m => ⟨m.property, m.property, .other, m.enumeration, m.notes⟩
  | .hidden m => ⟨m.property, m.property, .hidden, m.enumeration, m.notes⟩

@[simp] theorem property_summary (place : Place) : place.summary.property = place.property := by
  cases place <;> rfl

end Place

namespace Report

open Node (named)

/-- The shown places of an item say what its summaries do. -/
theorem ofItem_eq_places (options : Options) (item : Item) :
    Summary.ofItem options item = (item.places.filter (Place.shown options)).map Place.summary := by
  cases item with
  | scalar s => rfl
  | group g =>
      have hall : (g.members.map (Place.member g)).filter (Place.shown options) =
          g.members.map (Place.member g) := by
        refine List.filter_eq_self.mpr ?_
        simp [Place.shown]
      rw [Item.places, hall, List.map_map, Summary.ofItem]
      refine List.map_congr_left fun m _ => ?_
      simp [Place.summary, Summary.ofScalar, Summary.memberLabel, toString]
  | other m =>
      cases h : options.excludeOther <;>
        simp [Summary.ofItem, Item.places, Place.shown, Place.summary, Summary.ofMention, h]
  | hidden m =>
      cases h : options.includeHidden <;>
        simp [Summary.ofItem, Item.places, Place.shown, Place.summary, Summary.ofMention, h]

theorem flatMap_ofItem (options : Options) (items : List Item) :
    items.flatMap (Summary.ofItem options) =
      ((items.flatMap Item.places).filter (Place.shown options)).map Place.summary := by
  rw [List.filter_flatMap, List.map_flatMap]
  exact List.flatMap_congr fun item _ => ofItem_eq_places options item

/-- The entries of the index: the class of each, and its links and texts. -/
def Rendered.index (report : Rendered) : List (Option String × List String × List String) :=
  (report.parts "properties" [named "nav", named "ul", named "li"]).map fun entry =>
    (entry.tag.attributes.lookup "class", linked entry)

namespace Context

variable (c : Context)

/-! ## The list -/

/-- Hidden places are dropped before the first of those that are left is taken. -/
theorem summaries_eq_places : c.summaries =
    (firstsBy Place.property (c.spec.places.filter (Place.shown c.options))).map Place.summary ++
      (c.table.properties.filter (· ∉ c.spec.references)).map fun p => ⟨p, p, .unexpected, none, ""⟩ := by
  have hunused : c.spec.unused c.table = c.table.properties.filter (· ∉ c.spec.references) := by
    simp [Spec.unused, Spec.mentions]
  rw [summaries, summariesOf, flatMap_ofItem, firstsBy_map, hunused]
  simp only [Place.property_summary]
  rfl

theorem mem_summaries {p : String} : p ∈ c.summaries.map Summary.property ↔
    (∃ place ∈ c.spec.places, place.shown c.options ∧ place.property = p) ∨
      p ∈ c.table.properties ∧ p ∉ c.spec.references := by
  have hplaces (places : List Place) : (places.map Place.summary).map Summary.property =
      places.map Place.property := by simp
  rw [summaries_eq_places, List.map_append, List.mem_append, hplaces, mem_map_firstsBy]
  simp [and_assoc]

/-! ## The index -/

theorem indexed_perm : List.Perm c.indexed c.summaries := List.mergeSort_perm _ _

theorem pairwise_indexed (h : (c.summaries.map Summary.property).Nodup) :
    c.indexed.Pairwise fun a b => Text.encode a.property < Text.encode b.property := by
  have htrans (a b d : Summary) : (compare a.property b.property).isLE →
      (compare b.property d.property).isLE → (compare a.property d.property).isLE :=
    Std.TransOrd.isLE_trans
  have htotal (a b : Summary) :
      ((compare a.property b.property).isLE || (compare b.property a.property).isLE) = true :=
    isLE_total a.property b.property
  have hsorted : c.indexed.Pairwise fun a b => (compare a.property b.property).isLE :=
    List.pairwise_mergeSort htrans htotal _
  have hdistinct : c.indexed.Pairwise fun a b => a.property ≠ b.property := by
    rw [← List.pairwise_map]
    exact (c.indexed_perm.map Summary.property).nodup_iff.mpr h
  refine hsorted.imp₂ (fun a b hle hne => Text.compare_eq_lt_iff.mp ?_) hdistinct
  exact (Ordering.isLE_iff_eq_lt_or_eq_eq.mp hle).resolve_right fun heq =>
    hne (Std.LawfulEqOrd.eq_of_compare heq)

theorem index_render : c.render.index =
    if c.spec.visibility.properties ∧ c.spec.visibility.index then
      c.indexed.map fun s => (some s.category.name, ["#" ++ c.table.columnAnchor s.property], [s.property])
    else [] := by
  have hentries : (c.index.select [named "ul", named "li"]).map
      (fun entry => (entry.tag.attributes.lookup "class", linked entry)) =
        c.indexed.map fun s =>
          (some s.category.name, ["#" ++ c.table.columnAnchor s.property], [s.property]) := by
    rw [index_eq, Node.select_only (by rfl), Node.select_map (fun _ => rfl), List.map_map]
    exact List.map_congr_left fun s _ => by simp [linked, Node.links_eq_values]
  rw [Rendered.index, parts_properties, propertiesSection, select_section_nav (by rfl) c.name_summaryArticles]
  split <;> split <;> simp_all

end Context

/-- A property is summarised once, by the first place that shows it, and a property of the data that the
specification does not refer to comes after them. The index lists the same properties in the order of their
names. -/
theorem summaries_of_fits {rows : List Csv.Row} {table : Table} {spec : Spec} (options : Options)
    (hload : Table.load rows = .ok table) (hfits : ∀ p ∈ spec.references, p ∈ table.properties) :
    let summaries := summariesOf table spec options
    ∃ report, render table spec options = .ok report ∧
      (summaries.map Summary.property).Nodup ∧
      (∀ p, p ∈ summaries.map Summary.property ↔
        (∃ place ∈ spec.places, place.shown options ∧ place.property = p) ∨
          p ∈ table.properties ∧ p ∉ spec.references) ∧
      (∃ positions : List Nat, positions.Pairwise (· < ·) ∧
        (∀ i, i ∈ positions ↔ IsFirst Place.property (Place.shown options) spec.places i) ∧
        summaries = (positions.filterMap (spec.places[·]?)).map Place.summary ++
          (table.properties.filter (· ∉ spec.references)).map fun p => ⟨p, p, .unexpected, none, ""⟩) ∧
      ∃ indexed : List Summary, indexed.Perm summaries ∧
        indexed.Pairwise (fun a b => Text.encode a.property < Text.encode b.property) ∧
        report.index = if spec.visibility.properties ∧ spec.visibility.index then
          indexed.map fun s => (some s.category.name, ["#" ++ table.columnAnchor s.property], [s.property])
          else [] := by
  intro summaries
  have hnone : spec.references.find? (fun p => !table.hasProperty p) = none := by
    simpa [Table.hasProperty] using hfits
  obtain ⟨c, hc⟩ := Context.exists_of_eq_ok options hnone
  have hrender : render table spec options = .ok c.render := by
    rw [render, hc]
    rfl
  obtain ⟨rfl, rfl, rfl⟩ := Context.of_eq_ok hc
  have hnodup := c.nodup_summaries (Table.wellFormed_of_load hload)
  obtain ⟨positions, hordered, hmem, hfirsts⟩ :=
    exists_positions_firstsBy Place.property (Place.shown c.options) c.spec.places
  refine ⟨c.render, hrender, hnodup, fun p => c.mem_summaries, ⟨positions, hordered, hmem, ?_⟩,
    c.indexed, c.indexed_perm, c.pairwise_indexed hnodup, c.index_render⟩
  exact c.summaries_eq_places.trans (by rw [hfirsts])

/-- A place that is not shown comes first, one property is a sort key only, and one is not referred to. The
index has another order than the summaries. -/
theorem summaries_of_fits_members :
    let rows : List Csv.Row := [⟨1, ["e", "d", "c", "b", "a"]⟩]
    let table : Table := ⟨["e", "d", "c", "b", "a"], []⟩
    let items : List Item := [.other ⟨"a", none, "left out"⟩, .hidden ⟨"b", none, ""⟩,
      .group ⟨"G", [⟨"b", "B", none, ""⟩, ⟨"a", "", none, "shown"⟩]⟩, .scalar ⟨"a", "A", none, "later"⟩,
      .other ⟨"c", none, ""⟩]
    let spec : Spec := ⟨none, none, ["d"], ["d"], items, .all⟩
    let options : Options := { excludeOther := true }
    let a : Summary := ⟨"a", "G", .normal, none, "shown"⟩
    let b : Summary := ⟨"b", "G: B", .normal, none, ""⟩
    let e : Summary := ⟨"e", "e", .unexpected, none, ""⟩
    Table.load rows = .ok table ∧ (∀ p ∈ spec.references, p ∈ table.properties) ∧
      summariesOf table spec options = [b, a, e] ∧
      ∃ report, render table spec options = .ok report ∧
        report.index = [(some "normal", ["#p4"], ["a"]), (some "normal", ["#p3"], ["b"]),
          (some "unexpected", ["#p0"], ["e"])] := by
  intro rows table items spec options a b e
  have hload : Table.load rows = .ok table := by rfl
  have hfits : ∀ p ∈ spec.references, p ∈ table.properties := by decide
  have hsummaries : summariesOf table spec options = [b, a, e] := by decide
  obtain ⟨report, hreport, -, -, -, indexed, hperm, hordered, hindex⟩ :=
    summaries_of_fits options hload hfits
  have hindexed : indexed = [a, b, e] := by
    refine (hperm.trans (hsummaries ▸ .swap a b [e])).eq_of_pairwise ?_ hordered (by decide)
    exact fun s t _ _ hst hts => absurd hst (List.lt_asymm hts)
  rw [hindexed] at hindex
  exact ⟨hload, hfits, hsummaries, report, hreport, hindex.trans (by decide +kernel)⟩

end Report
end RecordReport
