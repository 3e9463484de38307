import Mathlib.Data.List.Basic
import RecordReport.Proofs.Markup
import RecordReport.Proofs.Report.Context

/-!
# Links in a report

No two elements of a report have the same identity, and every link leads to an element of the same
report, whichever sections are shown.
-/

namespace RecordReport

/-! ## Names of elements -/

/-- The name is a letter with a number after it. -/
def Numbered (letter : Char) (n : Nat) (name : String) : Prop :=
  name.toList = letter :: Nat.toDigits 10 n

namespace Numbered

variable {letter : Char} {m n : Nat} {name : String}

theorem inj (hm : Numbered letter m name) (hn : Numbered letter n name) : m = n := by
  have hdigits : Nat.toDigits 10 m = Nat.toDigits 10 n := (List.cons.inj (hm.symm.trans hn)).2
  have h := congrArg (fun ds => Nat.ofDigitChars 10 ds 0) hdigits
  simpa only [Nat.ofDigitChars_ten_toDigits] using h

/-- A name with a number is no word. -/
theorem ne_word {word : String} (h : Numbered letter n name)
    (hword : word.toList.tail.all Char.isDigit = false) : name ≠ word := by
  rintro rfl
  have hdigits : name.toList.tail.all Char.isDigit = true := by
    rw [h, List.tail_cons, List.all_eq_true]
    exact fun d hd => Nat.isDigit_of_mem_toDigits (by decide) (by decide) hd
  rw [hword] at hdigits
  cases hdigits

theorem not_mem_map {α : Type} {name : α → String} {number : α → Nat}
    (h : ∀ x, Numbered letter (number x) (name x)) {word : String}
    (hword : word.toList.tail.all Char.isDigit = false) (xs : List α) : word ∉ xs.map name := by
  intro hmem
  obtain ⟨x, -, hx⟩ := List.mem_map.mp hmem
  exact (h x).ne_word hword hx

end Numbered

theorem Record.numbered_anchor (r : Record) : Numbered 'r' r.id r.anchor := by
  rw [Numbered, Record.anchor, String.toList_append, Nat.toString_eq_repr, Nat.toList_repr]
  rfl

theorem Table.numbered_columnAnchor (table : Table) (property : String) :
    Numbered 'p' (table.properties.idxOf property) (table.columnAnchor property) := by
  rw [Numbered, columnAnchor, String.toList_append, Nat.toString_eq_repr, Nat.toList_repr]
  rfl

namespace Report

/-! ## Entries without identities and links -/

theorem flatMap_if {α β : Type} (p : Prop) [Decidable p] (f : α → β) (xs : List α) :
    (xs.flatMap fun x => if p then [f x] else []) = if p then xs.map f else [] := by
  split <;> simp [List.map_eq_flatMap]

theorem id_ne_class : "id" ≠ "class" := by decide

theorem href_ne_class : "href" ≠ "class" := by decide

variable {name : String}

theorem lookup_class (h : name ≠ "class") (className : String) (rest : List (String × String)) :
    List.lookup name (("class", className) :: rest) = List.lookup name rest := by
  rw [List.lookup_cons, beq_eq_false_iff_ne.mpr h]

theorem values_scalarEntry (record : Record) (scalar : Scalar) :
    (scalarEntry record scalar).value.flatMap (Node.values name) = [] := by
  rw [scalarEntry]
  split
  · rfl
  · simp [Noted.map]

theorem values_groupEntry (h : name ≠ "class") (record : Record) (group : Group) :
    (groupEntry record group).value.flatMap (Node.values name) = [] := by
  rw [groupEntry]
  split
  · simp only [Noted.map, Noted.join, List.flatMap_cons, List.flatMap_nil, Node.values_block,
      Node.values_classed _ _ h, lookup_class h, List.flatMap_assoc, List.flatMap_map,
      values_scalarEntry]
    simp
  · rfl

theorem values_itemEntry (h : name ≠ "class") (record : Record) (item : Item) :
    (itemEntry record item).value.flatMap (Node.values name) = [] := by
  cases item with
  | scalar s => exact values_scalarEntry record s
  | group g => exact values_groupEntry h record g
  | other _ | hidden _ => rfl

theorem Summary.values_legend (h : name ≠ "class") (e : Enumeration) :
    (Summary.legend e).values name = [] := by
  simp [Summary.legend, lookup_class h, List.flatMap_assoc]

theorem Summary.values_headNodes (h : name ≠ "class") (s : Summary) :
    s.headNodes.flatMap (Node.values name) = [] := by
  have hlegend : (s.enumeration.toList.map legend).flatMap (Node.values name) = [] := by
    cases s.enumeration <;> simp [Summary.values_legend h]
  simp only [Summary.headNodes, List.flatMap_append, hlegend]
  split <;> split <;> simp [Node.values_classed _ _ h]

namespace Context

variable (c : Context)

/-! ## Identities and links of the sections -/

/-- A section has its own identity, and besides that those of its list, if it is shown, and articles. -/
theorem values_section (id title : String) (shown : Bool) (nav : Node) (articles : List Node) :
    (Node.block ⟨"section", [("id", id)]⟩
      (.plain "h2" title :: (if shown then [nav] else []) ++ articles)).values name =
        (List.lookup name [("id", id)]).toList ++ (if shown then nav.values name else []) ++
          articles.flatMap (Node.values name) := by
  cases shown <;> simp

theorem values_article (h : name ≠ "class") (record : Record) :
    (c.article record).value.values name = (List.lookup name [("id", record.anchor)]).toList := by
  have hheading : (c.headingNodes record).flatMap (Node.values name) = [] := by
    cases hc : c.headingContext? record <;> simp [headingNodes, hc, Node.values_classed _ _ h]
  have hentries : (Noted.join (c.spec.items.map (itemEntry record))).value.flatMap
      (Node.values name) = [] := by
    simp [Noted.join, List.flatMap_map, List.flatMap_assoc, values_itemEntry h]
  simp only [article, Noted.map, Node.values_block, lookup_class h, List.flatMap_append, hheading,
    hentries, List.flatMap_cons, List.flatMap_nil]
  simp

theorem values_contents (h : name ≠ "class") : c.contents.values name =
    if name = "href" then c.records.map (fun r => "#" ++ r.anchor) else [] := by
  rw [← flatMap_if]
  simp [contents, lookup_class h, List.flatMap_map]

theorem ids_recordsSection :
    c.recordsSection.value.values "id" = "records" :: c.records.map Record.anchor := by
  rw [recordsSection, values_section, values_contents c id_ne_class]
  simp only [List.flatMap_map, values_article c id_ne_class]
  simp [List.map_eq_flatMap]

theorem links_recordsSection : c.recordsSection.value.values "href" =
    if c.spec.visibility.contents then c.records.map (fun r => "#" ++ r.anchor) else [] := by
  rw [recordsSection, values_section, values_contents c href_ne_class]
  simp [List.flatMap_map, values_article c href_ne_class]

/-- Every entry of the index has its link. -/
theorem index_eq : c.index =
    .block ⟨"nav", [("class", "index")]⟩
      [.block ⟨"ul", []⟩
        (c.indexed.map fun s =>
          .block ⟨"li", [("class", s.category.name)]⟩
            [.link (c.table.columnAnchor s.property) s.property])] := by
  have hentry : ∀ s ∈ c.indexed, (c.propertyAnchor s.property).toList.map (Node.link · s.property) =
      [.link (c.table.columnAnchor s.property) s.property] := fun s hs => by
    rw [c.propertyAnchor_of_mem_summaries (List.mem_mergeSort.mp hs)]
    rfl
  rw [index, List.map_congr_left fun s hs => by rw [hentry s hs]]

theorem values_index (h : name ≠ "class") : c.index.values name =
    if name = "href" then c.indexed.map (fun s => "#" ++ c.table.columnAnchor s.property) else [] := by
  rw [← flatMap_if]
  simp [index_eq, lookup_class h, List.flatMap_map]

theorem values_recordCell (record : Record) : (c.recordCell record).values name =
    if name = "href" ∧ c.spec.visibility.records then ["#" ++ record.anchor] else [] := by
  cases hv : c.spec.visibility.records <;> simp [recordCell, hv]

theorem values_summaryArticle (h : name ≠ "class") {s : Summary} (hs : s ∈ c.summaries) :
    (c.summaryArticle s).value.values name =
      (List.lookup name [("id", c.table.columnAnchor s.property)]).toList ++
        if name = "href" ∧ c.spec.visibility.records then
          c.records.map (fun r => "#" ++ r.anchor) else [] := by
  rw [← flatMap_if]
  simp only [summaryArticle, c.propertyAnchor_of_mem_summaries hs, Option.getD_some,
    Node.values_block, lookup_class h, List.flatMap_append, Summary.values_headNodes h,
    List.flatMap_map, summaryRow, Noted.map, List.flatMap_cons, values_recordCell]
  simp

theorem ids_propertiesSection : c.propertiesSection.value.values "id" =
    "properties" :: c.summaries.map fun s => c.table.columnAnchor s.property := by
  rw [propertiesSection, values_section, values_index c id_ne_class]
  simp only [List.flatMap_map]
  rw [List.flatMap_congr fun s hs => values_summaryArticle c id_ne_class hs]
  simp [List.map_eq_flatMap]

theorem links_propertiesSection : c.propertiesSection.value.values "href" =
    (if c.spec.visibility.index then
      c.indexed.map (fun s => "#" ++ c.table.columnAnchor s.property) else []) ++
    c.summaries.flatMap fun _ =>
      if c.spec.visibility.records then c.records.map (fun r => "#" ++ r.anchor) else [] := by
  rw [propertiesSection, values_section, values_index c href_ne_class]
  simp only [List.flatMap_map]
  rw [List.flatMap_congr fun s hs => values_summaryArticle c href_ne_class hs]
  simp

/-! ## Identities and links of the document -/

/-- Whatever stands around the sections is neither linked to nor links. -/
theorem values_render (h : name ≠ "class") (hlang : name ≠ "lang") (hcharset : name ≠ "charset") :
    c.render.document.values name =
      (if c.spec.visibility.records then c.recordsSection.value.values name else []) ++
        if c.spec.visibility.properties then c.propertiesSection.value.values name else [] := by
  have hhead : c.head.values name = [] := by
    simp [head, List.lookup_cons, beq_eq_false_iff_ne.mpr hcharset]
  have hheader : c.header.values name = [] := by
    cases hs : c.spec.subtitle <;> simp [header, hs, Node.values_classed _ _ h]
  have hfooter : c.footer.flatMap (Node.values name) = [] := by
    cases ht : c.options.timestamp <;> simp [footer, ht]
  have hsections : c.sections.value.flatMap (Node.values name) =
      (if c.spec.visibility.records then c.recordsSection.value.values name else []) ++
        if c.spec.visibility.properties then c.propertiesSection.value.values name else [] := by
    rw [c.sections_value]
    split <;> split <;> simp
  simp only [render, Node.values_block, List.flatMap_cons, List.flatMap_append, List.flatMap_nil,
    hhead, hheader, hfooter, hsections]
  simp [List.lookup_cons, beq_eq_false_iff_ne.mpr hlang]

theorem ids_render : c.render.document.ids =
    (if c.spec.visibility.records then "records" :: c.records.map Record.anchor else []) ++
      if c.spec.visibility.properties then
        "properties" :: c.summaries.map (fun s => c.table.columnAnchor s.property) else [] := by
  rw [Node.ids_eq_values, values_render c id_ne_class (by decide) (by decide), ids_recordsSection,
    ids_propertiesSection]

/-- Links lead to the articles of records and to those of summaries, where these are shown. -/
theorem mem_links_render {x : String} (h : x ∈ c.render.document.links) :
    (c.spec.visibility.records = true ∧ ∃ r ∈ c.records, x = "#" ++ r.anchor) ∨
      (c.spec.visibility.properties = true ∧
        ∃ s ∈ c.summaries, x = "#" ++ c.table.columnAnchor s.property) := by
  rw [Node.links_eq_values, values_render c href_ne_class (by decide) (by decide),
    links_recordsSection, links_propertiesSection] at h
  simp only [List.mem_append, List.mem_ite_nil_right, List.mem_flatMap, List.mem_map] at h
  rcases h with ⟨hrecords, -, r, hr, rfl⟩ |
    ⟨hproperties, ⟨-, s, hs, rfl⟩ | ⟨_, -, hrecords, r, hr, rfl⟩⟩
  · exact Or.inl ⟨hrecords, r, hr, rfl⟩
  · exact Or.inr ⟨hproperties, s, List.mem_mergeSort.mp hs, rfl⟩
  · exact Or.inl ⟨hrecords, r, hr, rfl⟩

/-! ## Distinct identities -/

theorem nodup_anchors (h : c.table.WellFormed) : (c.records.map Record.anchor).Nodup := by
  have hids : (c.records.map Record.id).Nodup := (c.records_perm.map _).nodup_iff.mpr h.ids_nodup
  rw [List.Nodup, List.pairwise_map] at hids ⊢
  refine hids.imp fun {r s} hne heq => hne ?_
  have hr := r.numbered_anchor
  rw [heq] at hr
  exact hr.inj s.numbered_anchor

theorem nodup_columnAnchors (h : c.table.WellFormed) :
    (c.summaries.map fun s => c.table.columnAnchor s.property).Nodup := by
  have hproperties := c.nodup_summaries h
  rw [List.Nodup, List.pairwise_map] at hproperties ⊢
  refine hproperties.imp_of_mem fun {s t} hs _ hne heq => hne ?_
  have hanchor := c.table.numbered_columnAnchor s.property
  rw [heq] at hanchor
  exact (List.idxOf_inj (c.property_mem_table hs)).mp
    (hanchor.inj (c.table.numbered_columnAnchor t.property))

theorem if_sublist {α : Type} (p : Prop) [Decidable p] (xs : List α) :
    List.Sublist (if p then xs else []) xs := by
  split
  · exact .refl _
  · exact List.nil_sublist _

theorem nodup_ids_render (h : c.table.WellFormed) : c.render.document.ids.Nodup := by
  have hrecords : ("records" :: c.records.map Record.anchor).Nodup :=
    List.nodup_cons.mpr ⟨Numbered.not_mem_map Record.numbered_anchor rfl _, c.nodup_anchors h⟩
  have hproperties : ("properties" :: c.summaries.map fun s => c.table.columnAnchor s.property).Nodup :=
    List.nodup_cons.mpr
      ⟨Numbered.not_mem_map (fun s : Summary => c.table.numbered_columnAnchor s.property) rfl _,
        c.nodup_columnAnchors h⟩
  -- The names of the two sections begin with different letters.
  have hr : ∀ x ∈ "records" :: c.records.map Record.anchor, x.toList.head? = some 'r' := by
    simp only [List.forall_mem_cons, List.forall_mem_map]
    exact ⟨rfl, fun r _ => by rw [r.numbered_anchor]; rfl⟩
  have hp : ∀ x ∈ "properties" :: c.summaries.map fun s => c.table.columnAnchor s.property,
      x.toList.head? = some 'p' := by
    simp only [List.forall_mem_cons, List.forall_mem_map]
    exact ⟨rfl, fun s _ => by rw [c.table.numbered_columnAnchor s.property]; rfl⟩
  rw [ids_render, List.nodup_append]
  refine ⟨hrecords.sublist (if_sublist _ _), hproperties.sublist (if_sublist _ _), ?_⟩
  rintro x hx y hy rfl
  have hletter := (hr x ((if_sublist _ _).subset hx)).symm.trans
    (hp x ((if_sublist _ _).subset hy))
  exact absurd hletter (by decide)

end Context

/-- No identity occurs twice in the report of a loaded table, and every link leads to one of them. -/
theorem links_resolve_of_render {rows : List Csv.Row} {table : Table} {spec : Spec}
    {options : Options} {report : Rendered} (hload : Table.load rows = .ok table)
    (h : render table spec options = .ok report) :
    report.document.ids.Nodup ∧
      ∀ x, "#" ++ x ∈ report.document.links → x ∈ report.document.ids := by
  obtain ⟨c, hc, rfl⟩ := exists_context_of_render h
  obtain ⟨rfl, -, -⟩ := Context.of_eq_ok hc
  refine ⟨c.nodup_ids_render (Table.wellFormed_of_load hload), fun x hx => ?_⟩
  rw [Context.ids_render, List.mem_append]
  rcases c.mem_links_render hx with ⟨hrecords, r, hr, heq⟩ | ⟨hproperties, s, hs, heq⟩
  · obtain rfl := (String.append_right_inj _).mp heq
    rw [if_pos hrecords]
    exact Or.inl (List.mem_cons_of_mem _ (List.mem_map_of_mem hr))
  · obtain rfl := (String.append_right_inj _).mp heq
    rw [if_pos hproperties]
    exact Or.inr (List.mem_cons_of_mem _ (List.mem_map.mpr ⟨s, hs, rfl⟩))

/-- A property that is shown, grouped and hidden is summarised once, beside one that is unexpected. -/
theorem links_resolve_of_render_mentions :
    let rows : List Csv.Row := [⟨1, ["a", "b"]⟩, ⟨2, ["1", "x"]⟩, ⟨3, ["", ""]⟩, ⟨4, ["2", ""]⟩]
    let table : Table :=
      ⟨["a", "b"], [⟨1, 2, [("a", "1"), ("b", "x")]⟩, ⟨2, 4, [("a", "2"), ("b", "")]⟩]⟩
    let spec : Spec := ⟨none, none, ["a"], ["a"], [.hidden ⟨"a", none, ""⟩,
      .group ⟨"G", [⟨"a", "", none, ""⟩]⟩, .scalar ⟨"a", "A", none, ""⟩], .all⟩
    Table.load rows = .ok table ∧ ∃ report,
      render table spec { includeHidden := true } = .ok report ∧ report.document.ids.Nodup ∧
        ∀ x, "#" ++ x ∈ report.document.links → x ∈ report.document.ids := by
  intro rows table spec
  have hload : Table.load rows = .ok table := by rfl
  obtain ⟨report, h⟩ : ∃ report, render table spec { includeHidden := true } = .ok report :=
    ⟨_, by rfl⟩
  exact ⟨hload, report, h, links_resolve_of_render hload h⟩

end Report
end RecordReport
