import RecordReport.Proofs.Csv.Decoding
import RecordReport.Proofs.Template.Reading
import RecordReport.Proofs.Template.Rows

/-!
# What a row holds

What a row says stands in its fields. The texts of the specification that is read off rows are of the kind
that the fields are, and no label of it is marked. The specification that is read off rows without blank
ends is tidy.
-/

namespace RecordReport.Template

def Command.name : Command → CommandName
  | .title _ => .title
  | .subtitle _ => .subtitle
  | .sort _ => .sort
  | .identifier _ => .identifier
  | .other _ => .other
  | .hide _ => .hide
  | .sections _ => .sections

/-- The fields after the first are those of a mention. -/
structure HoldsMention (row : Csv.Row) (m : Mention) : Prop where
  property : m.property = row.field 1
  ne_empty : m.property ≠ ""
  enumeration : Enumeration.parse (row.field 2) = .ok m.enumeration
  notes : m.notes = row.field 3

def HoldsCommand (row : Csv.Row) : Command → Prop
  | .title text | .subtitle text | .sort text | .identifier text => text = row.field 1 ∧ text ≠ ""
  | .other m | .hide m => HoldsMention row m
  | .sections v => visibilityOf row.line (row.field 1) = .ok v

/-- What a row says stands in its fields. -/
def Holds (row : Csv.Row) : Line → Prop
  | .command c => row.field 0 = c.name.token ∧ HoldsCommand row c
  | .groupStart label => label = row.field 0 ∧ label ≠ "" ∧ ¬isMarked label = true
  | .item s => s.label = row.field 0 ∧ ¬isMarked s.label = true ∧
    HoldsMention row ⟨s.property, s.enumeration, s.notes⟩
  | .comment => Text.startsWith (row.field 0) commentMark = true
  | .blank | .ignored => row.field 0 = ""

theorem parameter_eq_ok {row : Csv.Row} {text : String} (h : parameter row = .ok text) :
    text = row.field 1 ∧ text ≠ "" := by
  rw [parameter] at h
  split at h
  · cases h
  · rename_i hne
    cases h
    exact ⟨rfl, hne⟩

theorem enumerationOf_eq_ok {row : Csv.Row} {e : Option Enumeration} (h : enumerationOf row = .ok e) :
    Enumeration.parse (row.field 2) = .ok e := by
  exact eq_ok_of_mapError h

theorem mentionOf_eq_ok {row : Csv.Row} {m : Mention} (h : mentionOf row = .ok m) :
    HoldsMention row m := by
  obtain ⟨property, hproperty, h⟩ := exists_of_bind_eq_ok h
  obtain ⟨enumeration, henumeration, h⟩ := exists_of_bind_eq_ok h
  cases h
  obtain ⟨heq, hne⟩ := parameter_eq_ok hproperty
  exact ⟨heq, hne, enumerationOf_eq_ok henumeration, rfl⟩

theorem ofToken?_eq_some {token : String} {name : CommandName}
    (h : CommandName.ofToken? token = some name) : token = name.token := by
  have hfound := List.find?_some h
  simpa [eq_comm] using hfound

theorem commandOf_eq_ok {row : Csv.Row} {c : Command} (h : commandOf row = .ok c) :
    row.field 0 = c.name.token ∧ HoldsCommand row c := by
  rw [commandOf] at h
  cases htoken : CommandName.ofToken? (row.field 0) with
  | none => rw [htoken] at h; cases h
  | some name =>
      have hname := ofToken?_eq_some htoken
      rw [htoken] at h
      cases name with
      | title | subtitle | sort | identifier =>
          obtain ⟨text, htext, rfl⟩ := exists_of_map_eq_ok h
          exact ⟨hname, parameter_eq_ok htext⟩
      | other | hide =>
          obtain ⟨m, hm, rfl⟩ := exists_of_map_eq_ok h
          exact ⟨hname, mentionOf_eq_ok hm⟩
      | sections =>
          obtain ⟨list, hlist, h⟩ := exists_of_bind_eq_ok h
          obtain ⟨v, hv, h⟩ := exists_of_bind_eq_ok h
          cases h
          rw [(parameter_eq_ok hlist).1] at hv
          exact ⟨hname, hv⟩

theorem field_of_isBlank {row : Csv.Row} (h : row.isBlank = true) (i : Nat) : row.field i = "" := by
  rw [Csv.Row.field]
  cases hf : row.fields[i]? with
  | none => rfl
  | some f => exact eq_of_beq (List.all_eq_true.mp h f (List.mem_of_getElem? hf))

theorem holds_of_ofRow {row : Csv.Row} {line : Line} (h : Line.ofRow row = .ok line) :
    Holds row line := by
  rw [Line.ofRow] at h
  split at h
  · rename_i hcomment
    cases h
    exact hcomment
  rename_i hcomment
  split at h
  · cases h
  split at h
  · obtain ⟨c, hc, rfl⟩ := exists_of_map_eq_ok h
    exact commandOf_eq_ok hc
  rename_i hcommand
  have hunmarked : ¬isMarked (row.field 0) = true := by simp [isMarked, hcomment, hcommand]
  split at h
  · rename_i hblank
    cases h
    exact field_of_isBlank hblank 0
  split at h
  · split at h
    · rename_i hlabel
      cases h
      exact hlabel
    · rename_i hlabel
      cases h
      exact ⟨rfl, hlabel, hunmarked⟩
  · rename_i hproperty
    obtain ⟨enumeration, henumeration, h⟩ := exists_of_bind_eq_ok h
    cases h
    exact ⟨rfl, hunmarked, rfl, hproperty, enumerationOf_eq_ok henumeration, rfl⟩

/-- Only a command stands after its token. -/
theorem exists_command_of_token {row : Csv.Row} {line : Line} {name : CommandName}
    (h : Holds row line) (htoken : row.field 0 = name.token) :
    ∃ c, line = .command c ∧ c.name = name := by
  have hmarked : isMarked (row.field 0) = true := by
    rw [htoken]
    cases name <;> decide
  cases line with
  | command c =>
      have hsame : c.name.token = name.token := h.1.symm.trans htoken
      have hname := congrArg CommandName.ofToken? hsame
      rw [ofToken?_token, ofToken?_token] at hname
      exact ⟨c, rfl, Option.some.inj hname⟩
  | item s =>
      obtain ⟨hlabel, hunmarked, -⟩ := h
      rw [hlabel] at hunmarked
      exact absurd hmarked hunmarked
  | groupStart label =>
      obtain ⟨hlabel, -, hunmarked⟩ := h
      rw [hlabel] at hunmarked
      exact absurd hmarked hunmarked
  | comment =>
      have hcomment : Text.startsWith (row.field 0) commentMark = true := h
      rw [htoken] at hcomment
      cases name <;> cases hcomment
  | blank | ignored =>
      have hempty : row.field 0 = "" := h
      rw [hempty] at hmarked
      cases hmarked

/-! ### Commands with a text -/

namespace Command

variable {c : Command} {text : String}

theorem title?_eq_some : c.title? = some text ↔ c = .title text := by
  cases c <;> simp [title?]

theorem subtitle?_eq_some : c.subtitle? = some text ↔ c = .subtitle text := by
  cases c <;> simp [subtitle?]

theorem sortKey?_eq_some : c.sortKey? = some text ↔ c = .sort text := by
  cases c <;> simp [sortKey?]

theorem identifier?_eq_some : c.identifier? = some text ↔ c = .identifier text := by
  cases c <;> simp [identifier?]

end Command

/-! ## The texts of a specification -/

theorem HoldsMention.over {p : String → Prop} {row : Csv.Row} {m : Mention}
    (hrow : ∀ i, p (row.field i)) (h : HoldsMention row m) : m.Over p := by
  refine ⟨⟨?_, h.ne_empty⟩, ?_, fun e he => ?_⟩
  · rw [h.property]
    exact hrow 1
  · rw [h.notes]
    exact hrow 3
  · have hparse := h.enumeration
    rw [he] at hparse
    exact (Enumeration.plain_of_parse hparse).1

theorem mem_of_mem_membersOf {lines : List Line} {m : Scalar} (h : m ∈ membersOf lines) :
    .item m ∈ lines := by
  obtain ⟨line, hline, hm⟩ := List.mem_filterMap.mp h
  have hmem : line ∈ lines := (List.takeWhile_sublist _).subset hline
  cases line with
  | item s =>
      cases hm
      exact hmem
  | comment | command _ | blank | groupStart _ | ignored => cases hm

/-- Each item is given by a row, the members of a group by rows of their own. -/
theorem forall_mem_itemsFrom {p : Item → Prop} {lines : List Line}
    (hscalar : ∀ s, .item s ∈ lines → p (.scalar (Grouping.labelled s)))
    (hgroup : ∀ label ms, .groupStart label ∈ lines → (∀ m ∈ ms, .item m ∈ lines) →
      p (.group ⟨label, ms⟩))
    (hcommand : ∀ c item, .command c ∈ lines → c.item? = some item → p item) (before : List Line) :
    ∀ item ∈ itemsFrom before lines, p item := by
  induction lines generalizing before with
  | nil => simp [itemsFrom]
  | cons line lines ih =>
      rw [itemsFrom, List.forall_mem_append]
      constructor
      · intro item hitem
        cases line with
        | item s =>
            rw [itemsAt_item] at hitem
            split at hitem
            · cases hitem
            · rw [List.mem_singleton.mp hitem]
              exact hscalar s List.mem_cons_self
        | groupStart label =>
            rw [List.mem_singleton.mp hitem]
            exact hgroup label _ List.mem_cons_self fun m hm =>
              List.mem_cons_of_mem _ (mem_of_mem_membersOf hm)
        | command c => exact hcommand c item List.mem_cons_self (Option.mem_toList.mp hitem)
        | blank | comment | ignored => cases hitem
      · exact ih (fun s hs => hscalar s (List.mem_cons_of_mem _ hs))
          (fun label ms hlabel hms => hgroup label ms (List.mem_cons_of_mem _ hlabel) fun m hm =>
            List.mem_cons_of_mem _ (hms m hm))
          (fun c item hc => hcommand c item (List.mem_cons_of_mem _ hc)) _

theorem mem_of_mem_commandsOf {lines : List Line} {c : Command} (h : c ∈ commandsOf lines) :
    .command c ∈ lines := by
  obtain ⟨line, hline, hc⟩ := List.mem_filterMap.mp h
  cases line with
  | command d =>
      cases hc
      exact hline
  | comment | item _ | blank | groupStart _ | ignored => cases hc

section Over

variable {p : String → Prop} {lines : List Line}
  (h : ∀ line ∈ lines, ∃ row : Csv.Row, (∀ i, p (row.field i)) ∧ Holds row line)

include h

theorem over_of_item {s : Scalar} (hs : .item s ∈ lines) : s.Over p ∧ ¬isMarked s.label = true := by
  obtain ⟨row, hrow, hlabel, hmarked, hmention⟩ := h _ hs
  have hover := hmention.over hrow
  refine ⟨⟨hover.property, ?_, hover.notes, hover.enumeration⟩, hmarked⟩
  rw [hlabel]
  exact hrow 0

theorem over_of_mention {c : Command} {m : Mention} (hc : .command c ∈ lines)
    (hm : c = .other m ∨ c = .hide m) : m.Over p := by
  obtain ⟨row, hrow, -, hcommand⟩ := h _ hc
  rcases hm with rfl | rfl
  · exact HoldsMention.over hrow hcommand
  · exact HoldsMention.over hrow hcommand

/-- The texts of the commands that have nothing but a text. -/
theorem over_of_command {f : Command → Option String} {text : String}
    (hf : ∀ c, f c = some text →
      c = .title text ∨ c = .subtitle text ∨ c = .sort text ∨ c = .identifier text)
    (htext : text ∈ (commandsOf lines).filterMap f) : p text ∧ text ≠ "" := by
  obtain ⟨c, hc, hselected⟩ := List.mem_filterMap.mp htext
  obtain ⟨row, hrow, -, hcommand⟩ := h _ (mem_of_mem_commandsOf hc)
  have hfield : text = row.field 1 ∧ text ≠ "" := by
    rcases hf c hselected with rfl | rfl | rfl | rfl <;> exact hcommand
  refine ⟨?_, hfield.2⟩
  rw [hfield.1]
  exact hrow 1

theorem over_of_mem_itemsOf : ∀ item ∈ itemsOf lines, item.Over p ∧ ¬MarkedItem item := by
  refine forall_mem_itemsFrom (fun s hs => ?_) (fun label ms hlabel hms => ?_)
    (fun c item hc hitem => ?_) []
  · obtain ⟨hover, hmarked⟩ := over_of_item h hs
    rw [Grouping.labelled]
    split
    · exact ⟨⟨⟨hover.property, hover.property.1, hover.notes, hover.enumeration⟩, hover.property.2⟩,
        fun hm => hm.2 rfl⟩
    · rename_i hlabel
      exact ⟨⟨hover, hlabel⟩, fun hm => hmarked hm.1⟩
  · obtain ⟨row, hrow, heq, hne, hmarked⟩ := h _ hlabel
    have hp : p label := by
      rw [heq]
      exact hrow 0
    refine ⟨⟨⟨hp, hne⟩, fun m hm => (over_of_item h (hms m hm)).1⟩, ?_⟩
    rintro (hm | ⟨m, hmem, hm⟩)
    · exact hmarked hm
    · exact (over_of_item h (hms m hmem)).2 hm
  · cases c with
    | other m =>
        cases hitem
        exact ⟨over_of_mention h hc (Or.inl rfl), id⟩
    | hide m =>
        cases hitem
        exact ⟨over_of_mention h hc (Or.inr rfl), id⟩
    | title _ | subtitle _ | sort _ | identifier _ | sections _ => cases hitem

theorem over_of_mem_identifiersOf : ∀ name ∈ identifiersOf lines, p name ∧ name ≠ "" := by
  intro name hname
  rw [identifiersOf] at hname
  split at hname
  · obtain ⟨line, hline, hfound⟩ := List.exists_of_findSome?_eq_some (Option.mem_toList.mp hname)
    cases line with
    | item s =>
        cases hfound
        exact (over_of_item h hline).1.property
    | command c =>
        cases c with
        | hide m =>
            cases hfound
            exact (over_of_mention h hline (Or.inr rfl)).property
        | title _ | subtitle _ | sort _ | identifier _ | other _ | sections _ => cases hfound
    | comment | blank | groupStart _ | ignored => cases hfound
  · exact over_of_command h (fun c hc => by simp [Command.identifier?_eq_some.mp hc]) hname

theorem over_specOf (hkeys : (sortKeysOf lines).Nodup) (hid : identifiersOf lines ≠ []) :
    (specOf lines).Over p where
  title := fun text htext => over_of_command h
    (fun c hc => by simp [Command.title?_eq_some.mp hc]) (List.mem_of_getLast? htext)
  subtitle := fun text htext => over_of_command h
    (fun c hc => by simp [Command.subtitle?_eq_some.mp hc]) (List.mem_of_getLast? htext)
  sortKeys := fun key hkey => over_of_command h
    (fun c hc => by simp [Command.sortKey?_eq_some.mp hc]) hkey
  identifiers := over_of_mem_identifiersOf h
  items := fun item hitem => (over_of_mem_itemsOf h item hitem).1
  identified := hid
  sortKeys_nodup := hkeys

end Over

/-- What is read off rows has texts of the kind of their fields, and no label of it is marked. -/
theorem over_of_parse {p : String → Prop} {rows : List Csv.Row} {spec : Spec}
    (hrows : ∀ row ∈ rows, ∀ i, p (row.field i)) (h : parse rows = .ok spec) :
    spec.Over p ∧ ∀ item ∈ spec.items, ¬MarkedItem item := by
  obtain ⟨lines, hlines, hkeys, hid, rfl⟩ := parse_eq_ok_iff.mp h
  have hheld : ∀ line ∈ lines, ∃ row : Csv.Row, (∀ i, p (row.field i)) ∧ Holds row line := by
    intro line hline
    obtain ⟨row, hrow, hread⟩ := exists_of_mem_forall₂ hlines hline
    exact ⟨row, hrows row (List.mem_of_mem_tail hrow), holds_of_ofRow hread⟩
  exact ⟨over_specOf hheld hkeys hid, fun item hitem => (over_of_mem_itemsOf hheld item hitem).2⟩

/-! ## Tidy specifications -/

/-- No field has a blank end. -/
def Trimmed (row : Csv.Row) : Prop := ∀ f ∈ row.fields, Text.trim f = f

theorem Trimmed.field {row : Csv.Row} (h : Trimmed row) (i : Nat) :
    Text.trim (row.field i) = row.field i := by
  rw [Csv.Row.field]
  cases hf : row.fields[i]? with
  | none => rfl
  | some f => exact h f (List.mem_of_getElem? hf)

/-- What is read off rows without blank ends is tidy, and no label of it is marked. -/
theorem tidy_of_parse {rows : List Csv.Row} {spec : Spec} (hrows : ∀ row ∈ rows, Trimmed row)
    (h : parse rows = .ok spec) : spec.Tidy ∧ ∀ item ∈ spec.items, ¬MarkedItem item := by
  have hfields : ∀ row ∈ rows, ∀ i, Text.trim (row.field i) = row.field i :=
    fun row hrow i => (hrows row hrow).field i
  obtain ⟨hover, hmarked⟩ := over_of_parse (p := fun t => Text.trim t = t) hfields h
  exact ⟨hover.tidy, hmarked⟩

end RecordReport.Template
