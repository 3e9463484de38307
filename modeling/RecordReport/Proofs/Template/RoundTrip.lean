import RecordReport.Proofs.Delivery
import RecordReport.Proofs.Template.Reading
import RecordReport.Proofs.Template.Rows

/-!
# Reading a written specification

The text that a specification is written as is read as the same specification.
-/

namespace RecordReport.Template

/-! ## The specification of the rows -/

theorem commandsOf_linesOfSpec (spec : Spec) :
    commandsOf (linesOfSpec spec) =
      commandsOfSpec spec ++ (spec.items.flatMap linesOfItem).filterMap Line.command? := by
  have hcommands (cs : List Command) : (cs.map Line.command).filterMap Line.command? = cs := by
    rw [List.filterMap_map]
    exact List.filterMap_some
  rw [commandsOf, linesOfSpec, List.filterMap_append, hcommands]

/-- The commands among the items' rows mention properties. -/
theorem mention_of_item_command {spec : Spec} {c : Command}
    (h : c ∈ (spec.items.flatMap linesOfItem).filterMap Line.command?) :
    ∃ m, c = .other m ∨ c = .hide m := by
  simp only [List.mem_filterMap, List.mem_flatMap] at h
  obtain ⟨line, ⟨item, -, hline⟩, hc⟩ := h
  cases item with
  | scalar s =>
      rw [List.mem_singleton.mp hline] at hc
      cases hc
  | group g =>
      simp only [linesOfItem, List.cons_append, List.mem_cons, List.mem_append, List.mem_map,
        List.not_mem_nil, or_false] at hline
      rcases hline with rfl | ⟨m, -, rfl⟩ | rfl <;> cases hc
  | other m =>
      rw [List.mem_singleton.mp hline] at hc
      cases hc
      exact ⟨m, Or.inl rfl⟩
  | hidden m =>
      rw [List.mem_singleton.mp hline] at hc
      cases hc
      exact ⟨m, Or.inr rfl⟩

/-- What is asked of the commands that mention no property is answered by those of the specification. -/
theorem filterMap_commandsOf_linesOfSpec {α : Type} {f : Command → Option α}
    (hother : ∀ m, f (.other m) = none) (hhide : ∀ m, f (.hide m) = none) (spec : Spec) :
    (commandsOf (linesOfSpec spec)).filterMap f = (commandsOfSpec spec).filterMap f := by
  have hitems : ((spec.items.flatMap linesOfItem).filterMap Line.command?).filterMap f = [] := by
    rw [List.filterMap_eq_nil_iff]
    intro c hc
    obtain ⟨m, rfl | rfl⟩ := mention_of_item_command hc
    · exact hother m
    · exact hhide m
  rw [commandsOf_linesOfSpec, List.filterMap_append, hitems, List.append_nil]

/-- A label that was left blank is the property's name again. -/
theorem labelled_of_not_marked {s : Scalar} (hne : s.label ≠ "") (h : ¬MarkedItem (.scalar s)) :
    Grouping.labelled { s with label := if isMarked s.label then "" else s.label } = s := by
  by_cases hm : isMarked s.label = true
  · have hproperty : s.label = s.property := by
      by_contra hlabel
      exact h ⟨hm, hlabel⟩
    obtain ⟨property, label, enumeration, notes⟩ := s
    obtain rfl : label = property := hproperty
    have hblank : (if isMarked label = true then "" else label) = "" := if_pos hm
    simp only [hblank, Grouping.labelled, if_true]
  · simp [Grouping.labelled, hm, hne]

/-- The members of an open group add no items of their own, and a blank row closes it. -/
theorem itemsFrom_members {before : List Line} (h : openAfter before = true) (ms : List Scalar)
    (rest : List Line) :
    itemsFrom before (ms.map .item ++ .blank :: rest) =
      itemsFrom (before ++ ms.map .item ++ [.blank]) rest := by
  induction ms generalizing before with
  | nil => simp [itemsFrom, itemsAt]
  | cons m ms ih =>
      rw [List.map_cons, List.cons_append, itemsFrom, ih (by rw [openAfter_concat]; exact h)]
      simp [itemsAt_item, h]

theorem membersOf_members (ms : List Scalar) (rest : List Line) :
    membersOf (ms.map .item ++ .blank :: rest) = ms := by
  induction ms with
  | nil => rfl
  | cons m ms ih => rw [List.map_cons, List.cons_append, membersOf_open _ rfl, ih]; rfl

theorem itemsFrom_linesOfItem {item : Item} (htidy : item.Tidy) (hmarked : ¬MarkedItem item)
    {before : List Line} (h : openAfter before = false) (rest : List Line) :
    ∃ before', openAfter before' = false ∧
      itemsFrom before (linesOfItem item ++ rest) = item :: itemsFrom before' rest := by
  cases item with
  | scalar s =>
      refine ⟨before ++ [.item { s with label := if isMarked s.label then "" else s.label }],
        by rw [openAfter_concat]; exact h, ?_⟩
      simp [linesOfItem, itemsFrom, itemsAt_item, h, labelled_of_not_marked htidy.2 hmarked]
  | group g =>
      refine ⟨before ++ [.groupStart g.label] ++ g.members.map .item ++ [.blank],
        openAfter_concat _ _, ?_⟩
      rw [linesOfItem, List.cons_append, List.cons_append, List.append_assoc, List.singleton_append,
        itemsFrom, itemsFrom_members (openAfter_concat _ _), itemsAt, membersOf_members]
      rfl
  | other m | hidden m => exact ⟨before ++ [.command _], openAfter_concat _ _, rfl⟩

theorem itemsFrom_linesOfItems {items : List Item} (htidy : ∀ item ∈ items, item.Tidy)
    (hmarked : ∀ item ∈ items, ¬MarkedItem item) {before : List Line}
    (h : openAfter before = false) : itemsFrom before (items.flatMap linesOfItem) = items := by
  induction items generalizing before with
  | nil => rfl
  | cons item items ih =>
      obtain ⟨before', hb, hitems⟩ :=
        itemsFrom_linesOfItem (htidy item (by simp)) (hmarked item (by simp)) h
          (items.flatMap linesOfItem)
      rw [List.flatMap_cons, hitems, ih (fun i hi => htidy i (List.mem_cons_of_mem _ hi))
        (fun i hi => hmarked i (List.mem_cons_of_mem _ hi)) hb]

theorem itemsOf_linesOfSpec {spec : Spec} (h : spec.Tidy)
    (hmarked : ∀ item ∈ spec.items, ¬MarkedItem item) : itemsOf (linesOfSpec spec) = spec.items := by
  have hcommands (cs : List Command) (hcs : ∀ c ∈ cs, c.item? = none) {before : List Line}
      (hb : openAfter before = false) (rest : List Line) :
      ∃ before', openAfter before' = false ∧
        itemsFrom before (cs.map .command ++ rest) = itemsFrom before' rest := by
    induction cs generalizing before with
    | nil => exact ⟨before, hb, rfl⟩
    | cons c cs ih =>
        obtain ⟨before', hb', hrest⟩ := ih (fun d hd => hcs d (List.mem_cons_of_mem _ hd))
          (openAfter_concat before (.command c))
        refine ⟨before', hb', ?_⟩
        rw [List.map_cons, List.cons_append, itemsFrom, hrest, itemsAt, hcs c (by simp)]
        rfl
  have hitem : ∀ c ∈ commandsOfSpec spec, c.item? = none := by
    intro c hc
    simp only [commandsOfSpec, List.mem_append, List.mem_map] at hc
    rcases hc with (((⟨_, _, rfl⟩ | ⟨_, _, rfl⟩) | ⟨_, _, rfl⟩) | ⟨_, _, rfl⟩) | ⟨_, _, rfl⟩ <;> rfl
  obtain ⟨before, hb, hrest⟩ := hcommands _ hitem openAfter_nil (spec.items.flatMap linesOfItem)
  rw [itemsOf, linesOfSpec, hrest, itemsFrom_linesOfItems h.items hmarked hb]

/-- Each part of a specification is asked for by its own commands. -/
theorem selected_commandsOfSpec (spec : Spec) :
    (commandsOfSpec spec).filterMap Command.title? = spec.title.toList ∧
      (commandsOfSpec spec).filterMap Command.subtitle? = spec.subtitle.toList ∧
      (commandsOfSpec spec).filterMap Command.sortKey? = spec.sortKeys ∧
      (commandsOfSpec spec).filterMap Command.identifier? = spec.identifiers ∧
      (commandsOfSpec spec).filterMap Command.visibility? =
        (sectionList? spec.visibility).toList.map fun _ => spec.visibility := by
  cases hlist : sectionList? spec.visibility <;> refine ⟨?_, ?_, ?_, ?_, ?_⟩ <;>
    simp [commandsOfSpec, hlist, List.filterMap_map, Function.comp_def, Command.title?,
      Command.subtitle?, Command.sortKey?, Command.identifier?, Command.visibility?]

theorem sections_default (v : Visibility) :
    ((((sectionList? v).toList.map fun _ => v).getLast?).getD .all) = v := by
  cases hl : sectionList? v with
  | some _ => rfl
  | none =>
      by_cases hv : v = .all
      · exact hv.symm
      · rw [sectionList?, if_neg hv] at hl
        split at hl <;> cases hl

/-- The rows that a specification is written as say the same specification. -/
theorem specOf_linesOfSpec {spec : Spec} (h : spec.Tidy)
    (hmarked : ∀ item ∈ spec.items, ¬MarkedItem item) :
    identifiersOf (linesOfSpec spec) = spec.identifiers ∧ specOf (linesOfSpec spec) = spec := by
  have hselect {α : Type} {f : Command → Option α} := filterMap_commandsOf_linesOfSpec (f := f)
  obtain ⟨htitle, hsubtitle, hsortKeys, hidentifiers, hvisibility⟩ := selected_commandsOfSpec spec
  rw [← hselect (fun _ => rfl) (fun _ => rfl)] at htitle hsubtitle hsortKeys hidentifiers hvisibility
  have hnamed : identifiersOf (linesOfSpec spec) = spec.identifiers := by
    rw [identifiersOf, hidentifiers]
    cases hi : spec.identifiers with
    | nil => exact absurd hi h.identified
    | cons _ _ => rfl
  have hlast {α : Type} (o : Option α) : o.toList.getLast? = o := by cases o <;> rfl
  refine ⟨hnamed, ?_⟩
  rw [specOf, htitle, hsubtitle, hlast, hlast, sortKeysOf, hsortKeys, hnamed,
    itemsOf_linesOfSpec h hmarked, hvisibility, sections_default]

/-! ## Writing and reading -/

theorem exportText_of_not_marked {spec : Spec} (h : ∀ item ∈ spec.items, ¬MarkedItem item) :
    exportText spec = .ok (Csv.format (rowsOfSpec spec)) := by
  rw [exportText, exportRows_of_not_marked h]

/-- Without a limit the text arrives as a whole. -/
theorem exportTo_of_not_marked {spec : Spec} (h : ∀ item ∈ spec.items, ¬MarkedItem item) :
    exportTo none spec = (⟨Text.encode (Csv.format (rowsOfSpec spec)), true⟩, .ok ()) := by
  simp [exportTo, exportRows_of_not_marked h, Delivery.within, Delivery.unlimited, flatten_blocks,
    Csv.flatten_parts]

theorem exportTo_of_marked {spec : Spec} (h : ∃ item ∈ spec.items, MarkedItem item) :
    ∃ e, (exportTo none spec).2 = .error e := by
  obtain ⟨rows, fault, hrows⟩ := exportRows_of_marked h
  exact ⟨.unwritable fault, by simp [exportTo, hrows, Delivery.within, Delivery.unlimited]⟩

theorem classified_of_means {rows : List Csv.Row} {lines : List Line}
    (h : List.Forall₂ Means (rows.map Csv.Row.fields) lines) : Classified rows lines := by
  rw [List.forall₂_map_left_iff] at h
  exact h.imp fun row _ hmeans => hmeans row.line

/-- The text begins with the first heading. -/
theorem not_mark_rowsOfSpec (spec : Spec) :
    Csv.markBytes.isPrefixOf (Text.encode (Csv.format (rowsOfSpec spec))) = false := by
  rw [Csv.encode_format]
  rfl

/-- What is written is read as its cells. -/
theorem exists_parseText_rowsOfSpec {spec : Spec} (h : spec.Tidy) :
    ∃ read : List Csv.Row, read.map Csv.Row.fields = (rowsOfSpec spec).map Csv.cells ∧
      parseText (Csv.format (rowsOfSpec spec)) = parse read := by
  have hrows : ∀ fields ∈ rowsOfSpec spec, IsRow (fun t => Text.trim t = t) fields :=
    isRow_of_mem_rowsOfSpec (fun _ hs => hs.trim_eq) (trim_of_mem_textsOf h)
  obtain ⟨read, hread, hfields⟩ := Csv.readRows_format
    (fun fields hfields => (hrows fields hfields).ne_nil)
    (fun fields hfields => (hrows fields hfields).fields) (not_mark_rowsOfSpec spec)
  refine ⟨read, hfields, ?_⟩
  simp [parseText, parseBytes, rowsOf, RecordReport.rowsOf, hread, Except.mapError, bind, Except.bind]

/-- A specification is read back if all fields of its rows are cells. -/
theorem parseText_of_cells {spec : Spec} (h : spec.Tidy)
    (hmarked : ∀ item ∈ spec.items, ¬MarkedItem item)
    (hcells : ∀ fields ∈ rowsOfSpec spec, ∀ f ∈ fields, Text.cell f = f) :
    parseText (Csv.format (rowsOfSpec spec)) = .ok spec := by
  obtain ⟨read, hfields, hparse⟩ := exists_parseText_rowsOfSpec h
  have hsame : (rowsOfSpec spec).map Csv.cells = rowsOfSpec spec := by
    refine (List.map_congr_left fun fields hfields => ?_).trans (List.map_id _)
    exact (List.map_congr_left (hcells fields hfields)).trans (List.map_id _)
  have hlines : Classified read.tail (linesOfSpec spec) := by
    refine classified_of_means ?_
    rw [List.map_tail, hfields, hsame]
    exact means_rowsOfSpec h hmarked
  obtain ⟨hnamed, hspec⟩ := specOf_linesOfSpec h hmarked
  have hkeys : sortKeysOf (linesOfSpec spec) = spec.sortKeys := congrArg Spec.sortKeys hspec
  rw [hparse, parse_eq_ok_iff]
  refine ⟨linesOfSpec spec, hlines, ?_, ?_, hspec.symm⟩
  · rw [hkeys]
    exact h.sortKeys_nodup
  · rw [hnamed]
    exact h.identified

theorem parseText_rowsOfSpec {spec : Spec} (h : spec.Clean)
    (hmarked : ∀ item ∈ spec.items, ¬MarkedItem item) :
    parseText (Csv.format (rowsOfSpec spec)) = .ok spec := by
  have hrows := isRow_of_mem_rowsOfSpec (fun _ hs => hs) (isTrimmed_of_mem_textsOf h)
  exact parseText_of_cells h.tidy hmarked fun fields hfields f hf =>
    ((hrows fields hfields).fields f hf).cell_eq

/-- Writing fails exactly if a label would be taken for a comment or a command. The text that is
written otherwise is read as the same specification. -/
theorem parseText_exportTo {spec : Spec} (h : spec.Clean) :
    ((∃ e, (exportTo none spec).2 = .error e) ↔ ∃ item ∈ spec.items, MarkedItem item) ∧
      ((exportTo none spec).2 = .ok () → ∃ text, exportText spec = .ok text ∧
        (exportTo none spec).1.accepted = Text.encode text ∧ parseText text = .ok spec) := by
  by_cases hmarked : ∃ item ∈ spec.items, MarkedItem item
  · obtain ⟨e, he⟩ := exportTo_of_marked hmarked
    exact ⟨iff_of_true ⟨e, he⟩ hmarked, fun hok => by rw [he] at hok; cases hok⟩
  · have hplain : ∀ item ∈ spec.items, ¬MarkedItem item := by simpa using hmarked
    have hto := exportTo_of_not_marked hplain
    refine ⟨iff_of_false ?_ hmarked, fun _ => ?_⟩
    · rintro ⟨e, he⟩
      rw [hto] at he
      cases he
    · exact ⟨Csv.format (rowsOfSpec spec), exportText_of_not_marked hplain, by rw [hto],
        parseText_rowsOfSpec h hplain⟩

/-- A label that looks like a comment, quotes, line breaks and an empty group are no obstacle. -/
theorem parseText_exportTo_quotes :
    let spec : Spec := ⟨some "One, \"two\"\nthree", none, ["b;c", "_a"], ["#id"],
      [.scalar ⟨"_a", "_a", some ⟨[("", "none"), ("1", "x=y, z")], by decide⟩, "up\r\ndown"⟩,
        .group ⟨"Empty", []⟩, .group ⟨"Two", [⟨"p", "", none, ""⟩, ⟨"q", "Q", none, ";"⟩]⟩,
        .other ⟨"b;c", none, "é"⟩, .hidden ⟨"#id", some ⟨[("k", "")], by decide⟩, ""⟩],
      ⟨true, false, true, false⟩⟩
    spec.Clean ∧
      ((∃ e, (exportTo none spec).2 = .error e) ↔ ∃ item ∈ spec.items, MarkedItem item) ∧
      ((exportTo none spec).2 = .ok () → ∃ text, exportText spec = .ok text ∧
        (exportTo none spec).1.accepted = Text.encode text ∧ parseText text = .ok spec) :=
  ⟨by decide, parseText_exportTo (by decide)⟩

end RecordReport.Template
