import Mathlib.Algebra.Order.BigOperators.Group.List
import Mathlib.Algebra.Order.Ring.Nat
import RecordReport.Proofs.Template.Lines
import RecordReport.Proofs.Template.RoundTrip

/-!
# Reading a template that has been read and written

The text that a specification is written as after reading is read as the same specification, unless a
field of it begins or ends with a byte order mark. Reading drops such a mark and never makes a text
longer, so the lost character is missing from whatever is read.
-/

namespace RecordReport.Template

/-! ## The size of a row -/

/-- The number of characters of a row, without a label that repeats the property and without a list of
sections. -/
def rowSize : List String → Nat
  | [label, property, enumeration, notes] =>
    if label = CommandName.sections.token then 0
    else (if label = property then 0 else label.length) + property.length + enumeration.length +
      notes.length
  | _ => 0

theorem cell_token (name : CommandName) : Text.cell name.token = name.token :=
  (isTrimmed_token name).cell_eq

theorem rowSize_cells_le {fields : List String} (h : fields.length = maxFields) :
    rowSize (Csv.cells fields) ≤ rowSize fields := by
  match fields, h with
  | [a, b, c, d], _ =>
    have ha := Text.length_cell_le a
    have hb := Text.length_cell_le b
    have hc := Text.length_cell_le c
    have hd := Text.length_cell_le d
    simp only [Csv.cells, List.map_cons, List.map_nil, rowSize]
    by_cases hshow : a = CommandName.sections.token
    · rw [if_pos hshow, hshow, if_pos (cell_token _)]
    · rw [if_neg hshow]
      split
      · exact Nat.zero_le _
      · by_cases hab : a = b
        · rw [if_pos hab, hab, if_pos rfl]
          omega
        · rw [if_neg hab]
          split <;> omega

/-- A field that is no cell makes the row smaller. -/
theorem rowSize_cells_lt {fields : List String} (h : fields.length = maxFields)
    (hshow : fields.head? ≠ some CommandName.sections.token) {f : String} (hf : f ∈ fields)
    (hcell : Text.cell f ≠ f) : rowSize (Csv.cells fields) < rowSize fields := by
  match fields, h with
  | [a, b, c, d], _ =>
    have ha := Text.length_cell_le a
    have hb := Text.length_cell_le b
    have hc := Text.length_cell_le c
    have hd := Text.length_cell_le d
    have hshow : a ≠ CommandName.sections.token := fun ha => hshow (congrArg some ha)
    have hshorter := Text.length_cell_lt hcell
    simp only [Csv.cells, List.map_cons, List.map_nil, rowSize]
    rw [if_neg hshow]
    split
    · -- The label would begin a list of sections, so it is not empty.
      rename_i htoken
      have hlength : (Text.cell a).length = 5 := by
        rw [htoken]
        rfl
      split
      · rename_i hab
        rw [← hab]
        omega
      · omega
    · simp only [List.mem_cons, List.not_mem_nil, or_false] at hf
      by_cases hab : a = b
      · subst hab
        rw [if_pos rfl, if_pos rfl]
        rcases hf with rfl | rfl | rfl | rfl <;> omega
      · rw [if_neg hab]
        rcases hf with rfl | rfl | rfl | rfl <;> split <;> omega

/-! ## The size of what a row says -/

/-- The row that a line is written as, without a list of sections. -/
def rowOf : Line → List String
  | .item s => scalarRow s.label s
  | .groupStart label => [label, "", "", ""]
  | .command (.title text) => commandRow .title text
  | .command (.subtitle text) => commandRow .subtitle text
  | .command (.sort property) => commandRow .sort property
  | .command (.identifier property) => commandRow .identifier property
  | .command (.other m) => mentionRow .other m
  | .command (.hide m) => mentionRow .hide m
  | .command (.sections _) | .comment | .blank | .ignored => []

def lineSize (line : Line) : Nat := rowSize (rowOf line)

theorem length_enumerationText_le {text : String} {e : Option Enumeration}
    (h : Enumeration.parse text = .ok e) : (enumerationText e).length ≤ text.length := by
  cases e with
  | none => exact Nat.zero_le _
  | some e => exact (Enumeration.plain_of_parse h).2

theorem HoldsMention.rowSize_le {line : Nat} {a b c d : String} {m : Mention}
    (h : HoldsMention ⟨line, [a, b, c, d]⟩ m) :
    rowSize [a, m.property, enumerationText m.enumeration, m.notes] ≤ rowSize [a, b, c, d] := by
  obtain ⟨hproperty, -, henumeration, hnotes⟩ := h
  have hlength := length_enumerationText_le henumeration
  have hb : m.property = b := hproperty
  have hd : m.notes = d := hnotes
  have hc : (enumerationText m.enumeration).length ≤ c.length := hlength
  rw [hb, hd, rowSize, rowSize]
  split <;> omega

/-- What a row says is written with no more characters than the row has. -/
theorem lineSize_le {row : Csv.Row} {line : Line} (h : row.fields.length = maxFields)
    (hholds : Holds row line) : lineSize line ≤ rowSize row.fields := by
  obtain ⟨n, fields⟩ := row
  match fields, h with
  | [a, b, c, d], _ =>
    cases line with
    | item s =>
        obtain ⟨hlabel, -, hmention⟩ := hholds
        have ha : s.label = a := hlabel
        rw [lineSize, rowOf, scalarRow, ha]
        exact hmention.rowSize_le
    | groupStart label =>
        obtain ⟨hlabel, -, hmarked⟩ := hholds
        obtain rfl : label = a := hlabel
        have hshow : label ≠ CommandName.sections.token := by
          rintro rfl
          exact hmarked rfl
        rw [lineSize, rowOf, rowSize, rowSize, if_neg hshow, if_neg hshow]
        by_cases hb : label = b
        · rw [if_pos hb, ← hb]
          split <;> simp only [String.length_empty] <;> omega
        · rw [if_neg hb]
          split <;> simp only [String.length_empty] <;> omega
    | command command =>
        obtain ⟨htoken, hcommand⟩ := hholds
        obtain rfl : a = command.name.token := htoken
        cases command with
        | title text | subtitle text | sort text | identifier text =>
            obtain rfl : text = b := hcommand.1
            rw [lineSize, rowOf, commandRow, Command.name, rowSize, rowSize]
            split
            · exact Nat.le_refl 0
            · simp only [String.length_empty]
              omega
        | other m | hide m => exact HoldsMention.rowSize_le hcommand
        | sections _ => exact Nat.zero_le _
    | comment | blank | ignored => exact Nat.zero_le _

/-! ## The size of a specification -/

def rowsSize (rows : List (List String)) : Nat := (rows.map rowSize).sum

theorem rowsSize_append (rows others : List (List String)) :
    rowsSize (rows ++ others) = rowsSize rows + rowsSize others := by
  rw [rowsSize, List.map_append, List.sum_append]
  rfl

/-- The size of a row that gives an item or a member of one. -/
def itemSize : Line → Nat
  | .item s => lineSize (.item s)
  | .groupStart label => lineSize (.groupStart label)
  | .command (.other m) => lineSize (.command (.other m))
  | .command (.hide m) => lineSize (.command (.hide m))
  | _ => 0

def membersSize (ms : List Scalar) : Nat := rowsSize (ms.map fun m => scalarRow m.label m)

theorem rowsSize_group (g : Group) :
    rowsSize (rowsOfItem (.group g)) = lineSize (.groupStart g.label) + membersSize g.members := by
  have hblank : rowsSize [["", "", "", ""]] = 0 := rfl
  rw [rowsOfItem, rowsSize_append, hblank, Nat.add_zero, rowsSize, List.map_cons, List.sum_cons]
  rfl

/-- A label that has been filled in with the property is not counted. -/
theorem rowsSize_labelled {s : Scalar} (hmarked : ¬isMarked s.label = true) :
    rowsSize (rowsOfItem (.scalar (Grouping.labelled s))) ≤ lineSize (.item s) := by
  rw [Grouping.labelled]
  split
  · rename_i hlabel
    have hblank : ("" : String) ≠ CommandName.sections.token := by decide
    rw [lineSize, rowOf, scalarRow, hlabel, rowSize, if_neg hblank, rowsOfItem, rowsSize,
      List.map_singleton, List.sum_singleton, scalarRow, rowSize]
    by_cases hproperty : isMarked s.property = true
    · simp [hproperty, hblank]
    · simp only [hproperty, Bool.false_eq_true, if_false, if_true]
      split
      · exact Nat.zero_le _
      · omega
  · rw [rowsOfItem, if_neg hmarked]
    exact Nat.le_refl _

/-- The size of the members that these rows add to a group that is open. -/
def pendingSize (before lines : List Line) : Nat :=
  if openAfter before then membersSize (membersOf lines) else 0

theorem pendingSize_closed (before : List Line) {line : Line} (h : line.closesGroup = true)
    (lines : List Line) : pendingSize before (line :: lines) = 0 := by
  rw [pendingSize, membersOf_closed line h]
  split <;> rfl

/-- One row gives items and members that are no larger than the row. -/
theorem pendingSize_step (before after : List Line) {line : Line}
    (h : ∀ s, line = .item s → ¬isMarked s.label = true) :
    pendingSize before (line :: after) + rowsSize ((itemsAt before after line).flatMap rowsOfItem) ≤
      itemSize line + pendingSize (before ++ [line]) after := by
  have hnil : rowsSize [] = 0 := rfl
  cases line with
  | item s =>
      have hmember : membersSize (membersOf (.item s :: after)) =
          lineSize (.item s) + membersSize (membersOf after) := by
        rw [membersOf_open _ rfl]
        rfl
      have hscalar := rowsSize_labelled (h s rfl)
      rw [pendingSize, pendingSize, openAfter_concat, itemsAt_item, itemSize, hmember]
      cases openAfter before with
      | true => simp [hnil]
      | false => simpa using hscalar
  | groupStart label =>
      have hgroup := rowsSize_group ⟨label, membersOf after⟩
      rw [pendingSize_closed before rfl, pendingSize, openAfter_concat, itemsAt, itemSize]
      simp [hgroup]
  | command c =>
      rw [pendingSize_closed before rfl]
      cases c with
      | other m | hide m => exact Nat.le_of_eq (Nat.zero_add _) |>.trans (Nat.le_add_right _ _)
      | title _ | subtitle _ | sort _ | identifier _ | sections _ => exact Nat.zero_le _
  | blank =>
      rw [pendingSize_closed before rfl]
      exact Nat.zero_le _
  | comment | ignored =>
      rw [pendingSize, pendingSize, openAfter_concat, membersOf_open _ rfl]
      simp [itemsAt, hnil, Line.scalar?]

/-- The rows of items are not larger than the rows that the items are read off. -/
theorem rowsSize_itemsFrom {lines : List Line} (h : ∀ s, .item s ∈ lines → ¬isMarked s.label = true)
    (before : List Line) :
    pendingSize before lines + rowsSize ((itemsFrom before lines).flatMap rowsOfItem) ≤
      (lines.map itemSize).sum := by
  induction lines generalizing before with
  | nil => simp [pendingSize, itemsFrom, rowsSize, membersSize]
  | cons line lines ih =>
      have ih := ih (fun s hs => h s (List.mem_cons_of_mem _ hs)) (before ++ [line])
      have hstep := pendingSize_step before lines fun s hs => h s (hs ▸ List.mem_cons_self)
      rw [itemsFrom, List.flatMap_append, rowsSize_append, List.map_cons, List.sum_cons]
      omega

/-! ### Commands -/

/-- The size of the rows of a command with these texts. -/
def textsSize (name : CommandName) (texts : List String) : Nat := rowsSize (texts.map (commandRow name))

theorem textsSize_cons (name : CommandName) (text : String) (texts : List String) :
    textsSize name (text :: texts) = rowSize (commandRow name text) + textsSize name texts := by
  rw [textsSize, rowsSize, List.map_cons, List.map_cons, List.sum_cons]
  rfl

theorem textsSize_sections (texts : List String) : textsSize .sections texts = 0 := by
  induction texts with
  | nil => rfl
  | cons text texts ih =>
      rw [textsSize_cons, ih]
      rfl

theorem textsSize_getLast (name : CommandName) (texts : List String) :
    textsSize name texts.getLast?.toList ≤ textsSize name texts := by
  rcases List.eq_nil_or_concat texts with rfl | ⟨texts, text, rfl⟩
  · exact Nat.le_refl _
  · rw [List.concat_eq_append, List.getLast?_concat, textsSize, textsSize, List.map_append,
      rowsSize_append]
    exact Nat.le_add_left _ _

/-- Every row counts once: for its item, or for its command. -/
theorem sum_lineSize (lines : List Line) :
    (lines.map lineSize).sum =
      (lines.map itemSize).sum + textsSize .title ((commandsOf lines).filterMap Command.title?) +
        textsSize .subtitle ((commandsOf lines).filterMap Command.subtitle?) +
        textsSize .sort ((commandsOf lines).filterMap Command.sortKey?) +
        textsSize .identifier ((commandsOf lines).filterMap Command.identifier?) := by
  induction lines with
  | nil => rfl
  | cons line lines ih =>
      rw [List.map_cons, List.map_cons, List.sum_cons, List.sum_cons, ih]
      cases line with
      | command c =>
          have hcommands : commandsOf (.command c :: lines) = c :: commandsOf lines := rfl
          rw [hcommands]
          cases c <;>
            simp only [List.filterMap_cons, Command.title?, Command.subtitle?, Command.sortKey?,
              Command.identifier?, textsSize_cons, itemSize, lineSize, rowOf, rowSize] <;>
            omega
      | item _ | groupStart _ | comment | blank | ignored =>
          simp only [commandsOf, List.filterMap_cons, Line.command?, itemSize, lineSize, rowOf, rowSize]
          omega

theorem rowsSize_tail_rowsOfSpec (spec : Spec) :
    rowsSize (rowsOfSpec spec).tail =
      rowsSize (spec.items.flatMap rowsOfItem) + textsSize .title spec.title.toList +
        textsSize .subtitle spec.subtitle.toList + textsSize .sort spec.sortKeys +
        textsSize .identifier spec.identifiers := by
  have hrows : (rowsOfSpec spec).tail = commandRows spec ++ spec.items.flatMap rowsOfItem := rfl
  have hsections : rowsSize ((sectionList? spec.visibility).toList.map (commandRow .sections)) = 0 :=
    textsSize_sections _
  rw [hrows, commandRows, rowsSize_append, rowsSize_append, rowsSize_append, rowsSize_append,
    rowsSize_append, hsections]
  simp only [textsSize]
  omega

/-- The rows of a specification that names identifiers are not larger than the rows it is read off. -/
theorem rowsSize_specOf {lines : List Line} (h : ∀ s, .item s ∈ lines → ¬isMarked s.label = true)
    (hnamed : (commandsOf lines).filterMap Command.identifier? ≠ []) :
    rowsSize (rowsOfSpec (specOf lines)).tail ≤ (lines.map lineSize).sum := by
  have hitems : rowsSize ((itemsOf lines).flatMap rowsOfItem) ≤ (lines.map itemSize).sum :=
    (Nat.le_add_left _ _).trans (rowsSize_itemsFrom h [])
  have htitle := textsSize_getLast .title ((commandsOf lines).filterMap Command.title?)
  have hsubtitle := textsSize_getLast .subtitle ((commandsOf lines).filterMap Command.subtitle?)
  have hidentifiers : identifiersOf lines = (commandsOf lines).filterMap Command.identifier? := by
    rw [identifiersOf]
    split
    · rename_i hnil
      exact absurd hnil hnamed
    · rfl
  rw [rowsSize_tail_rowsOfSpec, sum_lineSize]
  simp only [specOf, sortKeysOf, hidentifiers]
  omega

/-- Rows are not smaller than what they say. -/
theorem sum_lineSize_le {rows : List Csv.Row} {lines : List Line} (hlines : Classified rows lines)
    (h : ∀ row ∈ rows, row.fields.length = maxFields) :
    (lines.map lineSize).sum ≤ rowsSize (rows.map Csv.Row.fields) := by
  induction hlines with
  | nil => exact Nat.le_refl _
  | @cons row line rows lines hrow _ ih =>
      obtain ⟨hfields, hrows⟩ := List.forall_mem_cons.mp h
      exact Nat.add_le_add (lineSize_le hfields (holds_of_ofRow hrow)) (ih hrows)

/-! ## Reading again -/

/-- Rows that do not begin a list of sections are cells if reading them gives rows of no smaller size. -/
theorem cells_of_rowsSize_le {rows : List (List String)}
    (hrows : ∀ fields ∈ rows, fields.length = maxFields)
    (hsize : rowsSize rows ≤ rowsSize (rows.map Csv.cells)) :
    ∀ fields ∈ rows, fields.head? ≠ some CommandName.sections.token → ∀ f ∈ fields, Text.cell f = f := by
  intro fields hfields hshow f hf
  by_contra hcell
  have hsmaller : rowsSize (rows.map Csv.cells) < rowsSize rows := by
    rw [rowsSize, rowsSize, List.map_map]
    refine List.sum_lt_sum _ _ (fun others hothers => rowSize_cells_le (hrows others hothers)) ?_
    exact ⟨fields, hfields, rowSize_cells_lt (hrows fields hfields) hshow hf hcell⟩
  omega

theorem head_of_mem_rowsOfItem {item : Item} (h : ¬MarkedItem item) :
    ∀ fields ∈ rowsOfItem item, fields.head? ≠ some CommandName.sections.token := by
  have hlabel {label : String} (hmarked : ¬isMarked label = true) :
      label ≠ CommandName.sections.token := by
    rintro rfl
    exact hmarked rfl
  intro fields hfields hhead
  cases item with
  | scalar s =>
      rw [List.mem_singleton.mp hfields] at hhead
      refine hlabel ?_ (Option.some.inj hhead)
      split
      · decide
      · assumption
  | group g =>
      simp only [rowsOfItem, List.cons_append, List.mem_cons, List.mem_append, List.mem_map,
        List.not_mem_nil, or_false] at hfields
      rcases hfields with rfl | ⟨m, hm, rfl⟩ | rfl
      · exact hlabel (fun hmarked => h (Or.inl hmarked)) (Option.some.inj hhead)
      · exact hlabel (fun hmarked => h (Or.inr ⟨m, hm, hmarked⟩)) (Option.some.inj hhead)
      · exact hlabel (by decide) (Option.some.inj hhead)
  | other m | hidden m =>
      rw [List.mem_singleton.mp hfields] at hhead
      have htoken := congrArg CommandName.ofToken? (Option.some.inj hhead)
      rw [ofToken?_token, ofToken?_token] at htoken
      cases htoken

/-- The list of sections is made of cells. -/
theorem head_or_isTrimmed_of_mem_rowsOfSpec {spec : Spec} (h : ∀ item ∈ spec.items, ¬MarkedItem item) :
    ∀ fields ∈ (rowsOfSpec spec).tail,
      fields.head? ≠ some CommandName.sections.token ∨ ∀ f ∈ fields, Text.IsTrimmed f := by
  have htoken {name : CommandName} {text : String} (hname : name ≠ .sections) :
      (commandRow name text).head? ≠ some CommandName.sections.token := by
    intro hhead
    have htoken := congrArg CommandName.ofToken? (Option.some.inj hhead)
    rw [ofToken?_token, ofToken?_token] at htoken
    exact hname (Option.some.inj htoken)
  intro fields hfields
  simp only [rowsOfSpec, commandRows, List.cons_append, List.tail_cons, List.mem_append, List.mem_map,
    List.mem_flatMap] at hfields
  rcases hfields with (((((⟨t, -, rfl⟩ | ⟨t, -, rfl⟩) | ⟨key, -, rfl⟩) | ⟨name, -, rfl⟩) |
    ⟨list, hlist, rfl⟩) | ⟨item, hitem, hrow⟩)
  · exact Or.inl (htoken (by decide))
  · exact Or.inl (htoken (by decide))
  · exact Or.inl (htoken (by decide))
  · exact Or.inl (htoken (by decide))
  · have hname := (sectionList?_spec (Option.mem_toList.mp hlist)).1
    exact Or.inr (isRow_commandRow (fun _ hs => hs) .sections hname.trimmed).fields
  · exact Or.inl (head_of_mem_rowsOfItem (h item hitem) fields hrow)

/-- The rows that are read name an identifier. -/
theorem identifier_of_classified {spec : Spec} (h : spec.identifiers ≠ []) {rows : List Csv.Row}
    {lines : List Line} (hlines : Classified rows lines)
    (hfields : rows.map Csv.Row.fields = (rowsOfSpec spec).tail.map Csv.cells) :
    (commandsOf lines).filterMap Command.identifier? ≠ [] := by
  obtain ⟨name, names, hnames⟩ := List.exists_cons_of_ne_nil h
  have hwritten : commandRow .identifier name ∈ (rowsOfSpec spec).tail := by
    simp [rowsOfSpec, commandRows, hnames]
  have hread : Csv.cells (commandRow .identifier name) ∈ rows.map Csv.Row.fields := by
    rw [hfields]
    exact List.mem_map_of_mem hwritten
  obtain ⟨row, hrow, heq⟩ := List.mem_map.mp hread
  obtain ⟨line, hline, hof⟩ := exists_of_mem_forall₂ hlines.flip hrow
  have htoken : row.field 0 = CommandName.identifier.token := by
    rw [Csv.Row.field, heq]
    exact cell_token _
  obtain ⟨c, rfl, hc⟩ := exists_command_of_token (holds_of_ofRow hof) htoken
  cases c with
  | identifier text =>
      refine List.ne_nil_of_mem (List.mem_filterMap.mpr ⟨.identifier text, ?_, rfl⟩)
      exact List.mem_filterMap.mpr ⟨_, hline, rfl⟩
  | title _ | subtitle _ | sort _ | other _ | hide _ | sections _ => cases hc

/-- If the same specification is read again, every field that has been written is a cell. -/
theorem cells_of_parseText {spec : Spec} (h : spec.Tidy)
    (hmarked : ∀ item ∈ spec.items, ¬MarkedItem item)
    (hagain : parseText (Csv.format (rowsOfSpec spec)) = .ok spec) :
    ∀ fields ∈ rowsOfSpec spec, ∀ f ∈ fields, Text.cell f = f := by
  obtain ⟨read, hfields, hparse⟩ := exists_parseText_rowsOfSpec h
  rw [hparse] at hagain
  obtain ⟨lines, hlines, -, -, hspec⟩ := parse_eq_ok_iff.mp hagain
  have hfields : read.tail.map Csv.Row.fields = (rowsOfSpec spec).tail.map Csv.cells := by
    rw [List.map_tail, hfields, List.map_tail]
  have hlength : ∀ fields ∈ (rowsOfSpec spec).tail, fields.length = maxFields := fun fields hmem =>
    (isRow_of_mem_rowsOfSpec (p := fun _ => True) (fun _ _ => trivial) (fun _ _ => trivial) fields
      (List.mem_of_mem_tail hmem)).length_eq
  have hread : ∀ row ∈ read.tail, row.fields.length = maxFields := by
    intro row hrow
    have hmem := List.mem_map_of_mem (f := Csv.Row.fields) hrow
    rw [hfields] at hmem
    obtain ⟨fields, hwritten, heq⟩ := List.mem_map.mp hmem
    rw [← heq, Csv.cells, List.length_map, hlength fields hwritten]
  have hunmarked : ∀ s, .item s ∈ lines → ¬isMarked s.label = true := by
    intro s hs
    obtain ⟨row, -, hof⟩ := exists_of_mem_forall₂ hlines hs
    exact (holds_of_ofRow hof).2.1
  have hsize : rowsSize (rowsOfSpec spec).tail ≤ rowsSize ((rowsOfSpec spec).tail.map Csv.cells) := by
    have hspecSize := rowsSize_specOf hunmarked (identifier_of_classified h.identified hlines hfields)
    rw [← hspec] at hspecSize
    rw [← hfields]
    exact hspecSize.trans (sum_lineSize_le hlines hread)
  intro fields hmem
  have hrows : rowsOfSpec spec = headings :: (rowsOfSpec spec).tail := rfl
  rw [hrows] at hmem
  rcases List.mem_cons.mp hmem with rfl | hmem
  · have htrimmed : ∀ f ∈ headings, Text.IsTrimmed f := by decide
    exact fun f hf => (htrimmed f hf).cell_eq
  · rcases head_or_isTrimmed_of_mem_rowsOfSpec hmarked fields hmem with hhead | htrimmed
    · exact cells_of_rowsSize_le hlength hsize fields hmem hhead
    · exact fun f hf => (htrimmed f hf).cell_eq

theorem exists_rows_of_parseText {text : String} {spec : Spec} (h : parseText text = .ok spec) :
    ∃ rows, Csv.readRows .keep (Text.encode text) = .ok rows ∧ parse rows = .ok spec := by
  obtain ⟨rows, hrows, hparse⟩ := exists_of_bind_eq_ok h
  exact ⟨rows, eq_ok_of_mapError (eq_ok_of_mapError hrows), hparse⟩

/-- A template that is read can always be written. What is written is read as the same specification
exactly if no field of it begins or ends with a byte order mark. -/
theorem parseText_of_parseText {text : String} {spec : Spec} (h : parseText text = .ok spec) :
    exportText spec = .ok (Csv.format (rowsOfSpec spec)) ∧
      exportTo none spec = (⟨Text.encode (Csv.format (rowsOfSpec spec)), true⟩, .ok ()) ∧
      (parseText (Csv.format (rowsOfSpec spec)) = .ok spec ↔
        ∀ fields ∈ rowsOfSpec spec, ∀ f ∈ fields, Text.Ends (· ≠ Text.byteOrderMark) f.toList) := by
  obtain ⟨rows, hread, hparse⟩ := exists_rows_of_parseText h
  obtain ⟨htidy, hmarked⟩ := tidy_of_parse (Csv.trim_of_readRows hread) hparse
  have hcell : ∀ fields ∈ rowsOfSpec spec, ∀ f ∈ fields,
      (Text.cell f = f ↔ Text.Ends (· ≠ Text.byteOrderMark) f.toList) := by
    intro fields hfields f hf
    have hrow : IsRow (fun t => Text.trim t = t) fields :=
      isRow_of_mem_rowsOfSpec (fun _ hs => hs.trim_eq) (trim_of_mem_textsOf htidy) fields hfields
    exact Text.cell_eq_iff (hrow.fields f hf)
  refine ⟨exportText_of_not_marked hmarked, exportTo_of_not_marked hmarked, ?_, ?_⟩
  · intro hagain fields hfields f hf
    exact (hcell fields hfields f hf).mp (cells_of_parseText htidy hmarked hagain fields hfields f hf)
  · intro hends
    exact parseText_of_cells htidy hmarked fun fields hfields f hf =>
      (hcell fields hfields f hf).mpr (hends fields hfields f hf)

/-- A label that is left out, a blank entry, and no identifier. -/
theorem parseText_of_parseText_plain :
    let text := "Label,Property,Enumeration\n,_a\nG\nB,b,1 = x;; 2=y=z\n_SHOW,index;records\n"
    let spec : Spec := ⟨none, none, [], ["_a"], [.scalar ⟨"_a", "_a", none, ""⟩,
      .group ⟨"G", [⟨"b", "B", some ⟨[("1", "x"), ("2", "y=z")], by decide⟩, ""⟩]⟩],
      ⟨true, false, false, true⟩⟩
    parseText text = .ok spec ∧ exportText spec = .ok (Csv.format (rowsOfSpec spec)) ∧
      exportTo none spec = (⟨Text.encode (Csv.format (rowsOfSpec spec)), true⟩, .ok ()) ∧
      (parseText (Csv.format (rowsOfSpec spec)) = .ok spec ↔
        ∀ fields ∈ rowsOfSpec spec, ∀ f ∈ fields, Text.Ends (· ≠ Text.byteOrderMark) f.toList) := by
  intro text spec
  have h : parseText text = .ok spec := by rfl
  exact ⟨h, parseText_of_parseText h⟩

/-- The mark is a label within its field when it is read, and stands at the end of the field when it is
written. -/
theorem parseText_of_parseText_mark :
    let text := "Label,Property,Enumeration\nA,a,1=\ufeff;\n"
    let written := "Label,Property,Enumeration,Notes\n_IDENTIFIER,a,,\nA,a,1=\ufeff,\n"
    ∃ spec again, parseText text = .ok spec ∧ exportText spec = .ok written ∧
      parseText written = .ok again ∧ again ≠ spec := by
  intro text written
  let specOfLabel (label : String) : Spec :=
    ⟨none, none, [], ["a"], [.scalar ⟨"a", "A", some ⟨[("1", label)], by simp⟩, ""⟩], .all⟩
  refine ⟨specOfLabel "\ufeff", specOfLabel "", by rfl, by rfl, by rfl, ?_⟩
  simp [specOfLabel]

end RecordReport.Template
