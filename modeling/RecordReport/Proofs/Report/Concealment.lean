import Mathlib.Data.List.Forall2
import RecordReport.Proofs.Report.Writing
import RecordReport.Proofs.Report.Context

/-!
# Concealed properties

A property that is mentioned only where the options leave it out has no influence on the report: two
tables that differ in its values, or in the lines of their records, give the same document and the same
findings.
-/

namespace RecordReport

/-- The options leave the item out of the report. -/
def Item.Suppressed (options : Report.Options) : Item → Prop
  | .scalar _ | .group _ => False
  | .other _ => options.excludeOther = true
  | .hidden _ => options.includeHidden = false

/-- The specification mentions the property, and only in items that are left out. -/
structure Spec.Conceals (spec : Spec) (options : Report.Options) (property : String) : Prop where
  mentioned : ∃ item ∈ spec.items, property ∈ item.properties
  suppressed : ∀ item ∈ spec.items, property ∈ item.properties → item.Suppressed options
  not_sortKey : property ∉ spec.sortKeys
  not_identifier : property ∉ spec.identifiers

/-- The records have the same number and the same values, except where values are concealed. -/
structure Record.Agree (concealed : String → Prop) (r s : Record) : Prop where
  id_eq : r.id = s.id
  value_eq : ∀ p, ¬concealed p → r.value p = s.value p

structure Table.Agree (concealed : String → Prop) (t u : Table) : Prop where
  properties_eq : t.properties = u.properties
  records : List.Forall₂ (Record.Agree concealed) t.records u.records

namespace Spec.Conceals

variable {spec : Spec} {options : Report.Options} {p : String}

theorem not_of_sortKey (h : p ∈ spec.sortKeys) : ¬spec.Conceals options p :=
  fun hc => hc.not_sortKey h

theorem not_of_identifier (h : p ∈ spec.identifiers) : ¬spec.Conceals options p :=
  fun hc => hc.not_identifier h

theorem not_of_shown {item : Item} (hitem : item ∈ spec.items) (hp : p ∈ item.properties)
    (h : ¬item.Suppressed options) : ¬spec.Conceals options p :=
  fun hc => h (hc.suppressed item hitem hp)

theorem not_of_not_mentioned (h : p ∉ spec.references) : ¬spec.Conceals options p := by
  intro hc
  obtain ⟨item, hitem, hp⟩ := hc.mentioned
  have hitems : p ∈ spec.items.flatMap Item.properties := List.mem_flatMap.mpr ⟨item, hitem, hp⟩
  exact h (List.mem_append_left _ (List.mem_append_left _ hitems))

end Spec.Conceals

namespace Report

/-! ## Order -/

/-- Sorting keeps two lists related if related members compare alike. -/
theorem forall₂_mergeSort {α β : Type} {R : α → β → Prop} {le : α → α → Bool} {le' : β → β → Bool}
    (hle : ∀ x y x' y', R x x' → R y y' → le x y = le' x' y') {xs : List α} {ys : List β}
    (h : List.Forall₂ R xs ys) : List.Forall₂ R (xs.mergeSort le) (ys.mergeSort le') := by
  -- Sort the pairs by their first parts, which is sorting them by their second parts.
  obtain ⟨hlength, hzip⟩ := List.forall₂_iff_zip.mp h
  have hpair (q : α × β) (hq : q ∈ xs.zip ys) : R q.1 q.2 := hzip hq
  have hfst := List.map_mergeSort (r := fun p q : α × β => le p.1 q.1) (s := le) (f := Prod.fst)
    (l := xs.zip ys) fun _ _ _ _ => rfl
  have hsnd := List.map_mergeSort (r := fun p q : α × β => le p.1 q.1) (s := le') (f := Prod.snd)
    (l := xs.zip ys) fun p hp q hq => hle _ _ _ _ (hpair p hp) (hpair q hq)
  rw [List.map_fst_zip (Nat.le_of_eq hlength)] at hfst
  rw [List.map_snd_zip (Nat.le_of_eq hlength.symm)] at hsnd
  rw [← hfst, ← hsnd, List.forall₂_map_left_iff, List.forall₂_map_right_iff, List.forall₂_same]
  exact fun q hq => hpair q (List.mem_mergeSort.mp hq)

theorem compareRecords_eq {concealed : String → Prop} {keys : List String}
    (hkeys : ∀ key ∈ keys, ¬concealed key) {r s r' s' : Record} (hr : r.Agree concealed r')
    (hs : s.Agree concealed s') : compareRecords keys r s = compareRecords keys r' s' := by
  induction keys with
  | nil => rfl
  | cons key keys ih =>
      have hkey := hkeys key List.mem_cons_self
      rw [compareRecords, compareRecords, hr.value_eq key hkey, hs.value_eq key hkey,
        ih fun k hk => hkeys k (List.mem_cons_of_mem _ hk)]

/-! ## Entries -/

section Entries

variable {concealed : String → Prop} {r s : Record}

theorem anchor_eq (h : r.Agree concealed s) : r.anchor = s.anchor := by
  rw [Record.anchor, Record.anchor, h.id_eq]

theorem scalarEntry_eq (h : r.Agree concealed s) {scalar : Scalar} (hp : ¬concealed scalar.property) :
    scalarEntry r scalar = scalarEntry s scalar := by
  rw [scalarEntry, scalarEntry, h.value_eq _ hp]

theorem groupEntry_eq (h : r.Agree concealed s) {group : Group}
    (hp : ∀ m ∈ group.members, ¬concealed m.property) : groupEntry r group = groupEntry s group := by
  have hany : (group.members.any fun m => r.hasValue m.property) =
      group.members.any fun m => s.hasValue m.property := by
    rw [Bool.eq_iff_iff, List.any_eq_true, List.any_eq_true]
    refine exists_congr fun m => and_congr_right fun hm => ?_
    rw [Record.hasValue, Record.hasValue, h.value_eq _ (hp m hm)]
  have hentries : group.members.map (scalarEntry r) = group.members.map (scalarEntry s) :=
    List.map_congr_left fun m hm => scalarEntry_eq h (hp m hm)
  rw [groupEntry, groupEntry, hany, hentries]

theorem itemEntry_eq {spec : Spec} {options : Options} (h : r.Agree (spec.Conceals options) s)
    {item : Item} (hitem : item ∈ spec.items) : itemEntry r item = itemEntry s item := by
  cases item with
  | scalar scalar =>
      have hp : scalar.property ∈ (Item.scalar scalar).properties := List.mem_singleton_self _
      exact scalarEntry_eq h (Spec.Conceals.not_of_shown hitem hp id)
  | group group =>
      refine groupEntry_eq h fun m hm => ?_
      have hp : m.property ∈ (Item.group group).properties := List.mem_map_of_mem hm
      exact Spec.Conceals.not_of_shown hitem hp id
  | other _ | hidden _ => rfl

end Entries

/-- An item that is summarised is not left out. -/
theorem not_suppressed_of_mem_ofItem {options : Options} {item : Item} {s : Summary}
    (h : s ∈ Summary.ofItem options item) : ¬item.Suppressed options := by
  intro hs
  cases item with
  | scalar _ | group _ => exact hs
  | other m =>
      have hexclude : options.excludeOther = true := hs
      simp [Summary.ofItem, hexclude] at h
  | hidden m =>
      have hinclude : options.includeHidden = false := hs
      simp [Summary.ofItem, hinclude] at h

/-! ## Reports -/

namespace Context

/-- Two reports are asked for alike, of tables that agree but for what is concealed. -/
structure Alike (c d : Context) : Prop where
  spec_eq : c.spec = d.spec
  options_eq : c.options = d.options
  table : c.table.Agree (c.spec.Conceals c.options) d.table

theorem not_concealed_of_mem_summaries (c : Context) {s : Summary} (h : s ∈ c.summaries) :
    ¬c.spec.Conceals c.options s.property := by
  rcases List.mem_append.mp h with h | h
  · obtain ⟨item, hitem, hs⟩ := List.mem_flatMap.mp ((firstsBy_sublist _ _).subset h)
    exact Spec.Conceals.not_of_shown hitem (property_of_mem_ofItem hs)
      (not_suppressed_of_mem_ofItem hs)
  · obtain ⟨p, hp, rfl⟩ := List.mem_map.mp h
    exact Spec.Conceals.not_of_not_mentioned (c.mem_unused.mp hp).2

namespace Alike

variable {c d : Context} {r s : Record}

theorem records (h : c.Alike d) :
    List.Forall₂ (Record.Agree (c.spec.Conceals c.options)) c.records d.records := by
  rw [Context.records, Context.records, ← h.spec_eq]
  refine forall₂_mergeSort (fun x y x' y' hx hy => ?_) h.table.records
  rw [compareRecords_eq (fun key hkey => Spec.Conceals.not_of_sortKey hkey) hx hy]

theorem map_records {α : Type} (h : c.Alike d) {f g : Record → α}
    (hfg : ∀ r s, r.Agree (c.spec.Conceals c.options) s → f r = g s) :
    c.records.map f = d.records.map g :=
  map_eq_of_forall₂ h.records hfg

theorem identifierValues_eq (h : c.Alike d) (hr : r.Agree (c.spec.Conceals c.options) s) :
    c.identifierValues r = d.identifierValues s := by
  have hvalues : c.spec.identifiers.map r.value = c.spec.identifiers.map s.value :=
    List.map_congr_left fun p hp => hr.value_eq p (Spec.Conceals.not_of_identifier hp)
  rw [identifierValues, identifierValues, ← h.spec_eq, hvalues]

theorem label_eq (h : c.Alike d) (hr : r.Agree (c.spec.Conceals c.options) s) :
    c.label r = d.label s := by
  rw [label, label, h.identifierValues_eq hr]

theorem headingNodes_eq (h : c.Alike d) (hr : r.Agree (c.spec.Conceals c.options) s) :
    c.headingNodes r = d.headingNodes s := by
  have hvalues := h.identifierValues_eq hr
  rw [headingNodes, headingNodes, headingContext?, headingContext?, heading, heading, hvalues]

theorem propertyAnchor_eq (h : c.Alike d) (property : String) :
    c.propertyAnchor property = d.propertyAnchor property := by
  rw [propertyAnchor, propertyAnchor, Table.propertyIndex?, Table.propertyIndex?, h.table.properties_eq]

/-! ### The records section -/

theorem article_eq (h : c.Alike d) (hr : r.Agree (c.spec.Conceals c.options) s) :
    c.article r = d.article s := by
  have hentries : c.spec.items.map (itemEntry r) = c.spec.items.map (itemEntry s) :=
    List.map_congr_left fun item hitem => itemEntry_eq hr hitem
  rw [article, article, h.headingNodes_eq hr, anchor_eq hr, hentries, h.spec_eq]

theorem contents_eq (h : c.Alike d) : c.contents = d.contents := by
  have hentry (r s : Record) (hr : r.Agree (c.spec.Conceals c.options) s) :
      Node.block ⟨"li", []⟩ [.link r.anchor (c.label r)] =
        .block ⟨"li", []⟩ [.link s.anchor (d.label s)] := by
    rw [anchor_eq hr, h.label_eq hr]
  rw [contents, contents, h.map_records hentry]

theorem recordsSection_eq (h : c.Alike d) : c.recordsSection = d.recordsSection := by
  rw [recordsSection, recordsSection, h.map_records fun _ _ hr => h.article_eq hr, h.contents_eq,
    h.spec_eq]

/-! ### The properties section -/

theorem summaries_eq (h : c.Alike d) : c.summaries = d.summaries := by
  rw [summaries, summaries, summariesOf, summariesOf, Spec.unused, Spec.unused, h.spec_eq, h.options_eq,
    h.table.properties_eq]

theorem index_eq (h : c.Alike d) : c.index = d.index := by
  have hanchor : c.propertyAnchor = d.propertyAnchor := funext h.propertyAnchor_eq
  rw [index, index, indexed, indexed, h.summaries_eq, hanchor]

theorem summaryRow_eq (h : c.Alike d) (hr : r.Agree (c.spec.Conceals c.options) s)
    {summary : Summary} (hp : ¬c.spec.Conceals c.options summary.property) :
    c.summaryRow summary r = d.summaryRow summary s := by
  have hcell : c.recordCell r = d.recordCell s := by
    rw [recordCell, recordCell, anchor_eq hr, h.label_eq hr, h.spec_eq]
  rw [summaryRow, summaryRow, hcell, hr.value_eq _ hp]

theorem summaryArticle_eq (h : c.Alike d) {summary : Summary}
    (hp : ¬c.spec.Conceals c.options summary.property) :
    c.summaryArticle summary = d.summaryArticle summary := by
  rw [summaryArticle, summaryArticle, h.map_records fun _ _ hr => h.summaryRow_eq hr hp,
    h.propertyAnchor_eq]

theorem propertiesSection_eq (h : c.Alike d) : c.propertiesSection = d.propertiesSection := by
  have harticles : c.summaries.map c.summaryArticle = c.summaries.map d.summaryArticle :=
    List.map_congr_left fun s hs => h.summaryArticle_eq (c.not_concealed_of_mem_summaries hs)
  rw [propertiesSection, propertiesSection, harticles, h.index_eq, h.summaries_eq, h.spec_eq]

/-! ### The document -/

theorem render_eq (h : c.Alike d) : c.render = d.render := by
  have hsections : c.sections = d.sections := by
    rw [sections, sections, h.recordsSection_eq, h.propertiesSection_eq, h.spec_eq]
  have htitle : c.title = d.title := by rw [title, title, h.spec_eq, h.options_eq]
  have hhead : c.head = d.head := by rw [head, head, htitle]
  have hheader : c.header = d.header := by rw [header, header, htitle, h.spec_eq]
  have hfooter : c.footer = d.footer := by rw [footer, footer, h.options_eq]
  have hunreferenced : c.unreferenced = d.unreferenced := by
    rw [unreferenced, unreferenced, Spec.unused, Spec.unused, h.spec_eq, h.table.properties_eq]
  rw [render, render, hsections, hhead, hheader, hfooter, hunreferenced]

end Alike
end Context

/-- Values of concealed properties and the lines of records have no influence on what comes of a
report. -/
theorem render_eq_of_agree {t u : Table} {spec : Spec} {options : Options}
    (h : t.Agree (spec.Conceals options) u) : render t spec options = render u spec options := by
  have hcolumns (p : String) : u.hasProperty p = t.hasProperty p := by
    rw [Table.hasProperty, Table.hasProperty, h.properties_eq]
  cases hmissing : spec.references.find? fun p => !t.hasProperty p with
  | some p =>
      have hmissing' : spec.references.find? (fun p => !u.hasProperty p) = some p := by
        simpa only [hcolumns] using hmissing
      rw [render, render, Context.of_eq_error options hmissing, Context.of_eq_error options hmissing']
  | none =>
      have hmissing' : spec.references.find? (fun p => !u.hasProperty p) = none := by
        simpa only [hcolumns] using hmissing
      obtain ⟨c, hc⟩ := Context.exists_of_eq_ok options hmissing
      obtain ⟨d, hd⟩ := Context.exists_of_eq_ok options hmissing'
      obtain ⟨hct, hcs, hco⟩ := Context.of_eq_ok hc
      obtain ⟨hdt, hds, hdo⟩ := Context.of_eq_ok hd
      have halike : c.Alike d := by
        refine ⟨hcs.trans hds.symm, hco.trans hdo.symm, ?_⟩
        rw [hct, hcs, hco, hdt]
        exact h
      rw [render, render, hc, hd]
      exact congrArg Except.ok halike.render_eq

/-- A property that is hidden in one item and excluded in another. -/
theorem render_eq_of_agree_secret :
    let t : Table := ⟨["a", "b", "c"],
      [⟨1, 2, [("a", "x"), ("b", "secret"), ("c", "2")]⟩, ⟨2, 3, [("a", ""), ("b", ""), ("c", "1")]⟩]⟩
    let u : Table := ⟨["a", "b", "c"],
      [⟨1, 5, [("a", "x"), ("b", ""), ("c", "2")]⟩, ⟨2, 9, [("a", ""), ("b", "other"), ("c", "1")]⟩]⟩
    let spec : Spec := ⟨none, none, ["c"], ["a"], [.scalar ⟨"a", "A", none, ""⟩,
      .hidden ⟨"b", some ⟨[("1", "one")], by decide⟩, ""⟩, .other ⟨"b", none, ""⟩], .all⟩
    let options : Options := ⟨"", none, true, false⟩
    spec.Conceals options "b" ∧ t.Agree (spec.Conceals options) u ∧
      render t spec options = render u spec options := by
  intro t u spec options
  have hb : spec.Conceals options "b" := by
    refine ⟨⟨_, List.mem_cons_of_mem _ List.mem_cons_self, List.mem_singleton_self _⟩, ?_, by decide,
      by decide⟩
    intro item hitem hp
    simp only [spec, List.mem_cons, List.not_mem_nil, or_false] at hitem
    rcases hitem with rfl | rfl | rfl
    · exact absurd hp (by decide)
    · rfl
    · rfl
  have hother {p : String} (hp : ¬spec.Conceals options p) : (p == "b") = false :=
    beq_eq_false_iff_ne.mpr fun hpb => hp (hpb ▸ hb)
  have hagree : t.Agree (spec.Conceals options) u := by
    refine ⟨rfl, .cons ⟨rfl, fun p hp => ?_⟩ (.cons ⟨rfl, fun p hp => ?_⟩ .nil)⟩ <;>
      simp [Record.value, Record.get?, List.lookup_cons, hother hp]
  exact ⟨hb, hagree, render_eq_of_agree hagree⟩

end Report
end RecordReport
