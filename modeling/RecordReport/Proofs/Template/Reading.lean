import Mathlib.Data.List.Forall2
import Mathlib.Data.List.Nodup
import RecordReport.Template.Parse

/-!
# What a template says

The rows of a template are read one by one, and a group is finished only by a later row. Here the same
specification is read off the whole list of classified rows at once, and the two readings agree.
-/

namespace RecordReport.Template

/-! ## Reading off the whole list -/

namespace Command

def title? : Command → Option String
  | .title text => some text
  | _ => none

def subtitle? : Command → Option String
  | .subtitle text => some text
  | _ => none

def sortKey? : Command → Option String
  | .sort property => some property
  | _ => none

def identifier? : Command → Option String
  | .identifier property => some property
  | _ => none

def visibility? : Command → Option Visibility
  | .sections visibility => some visibility
  | _ => none

/-- The item that a command adds by itself. -/
def item? : Command → Option Item
  | .other mention => some (.other mention)
  | .hide mention => some (.hidden mention)
  | _ => none

end Command

namespace Line

def command? : Line → Option Command
  | .command c => some c
  | _ => none

def scalar? : Line → Option Scalar
  | .item s => some s
  | _ => none

/-- The row ends a group that is open. Comments and rows without use do not. -/
def closesGroup : Line → Bool
  | .blank | .command _ | .groupStart _ => true
  | .comment | .ignored | .item _ => false

/-- The property by which a row can identify records. -/
def identifying? : Line → Option String
  | .item s => some s.property
  | .command (.hide m) => some m.property
  | _ => none

end Line

def commandsOf (lines : List Line) : List Command := lines.filterMap Line.command?

/-- A group is open after these rows: the last row that ends a group has opened one. -/
def openAfter (lines : List Line) : Bool :=
  match (lines.filter Line.closesGroup).getLast? with
  | some (.groupStart _) => true
  | _ => false

/-- The members of a group whose head stands before these rows. -/
def membersOf (after : List Line) : List Scalar :=
  (after.takeWhile fun line => !line.closesGroup).filterMap Line.scalar?

/-- The items that a row stands for, between the rows before and after it. Outside groups a blank label
stands for the property. -/
def itemsAt (before after : List Line) : Line → List Item
  | .item scalar =>
    let label := if scalar.label = "" then scalar.property else scalar.label
    if openAfter before then [] else [.scalar { scalar with label }]
  | .groupStart label => [.group ⟨label, membersOf after⟩]
  | .command command => command.item?.toList
  | .blank | .comment | .ignored => []

/-- The items of the rows that follow those of `before`, row after row. -/
def itemsFrom (before : List Line) : List Line → List Item
  | [] => []
  | line :: after => itemsAt before after line ++ itemsFrom (before ++ [line]) after

/-- The items of a template's rows. -/
def itemsOf (lines : List Line) : List Item := itemsFrom [] lines

def sortKeysOf (lines : List Line) : List String := (commandsOf lines).filterMap Command.sortKey?

/-- The identifiers that are named or, if none is, the first property that can stand in for one. -/
def identifiersOf (lines : List Line) : List String :=
  match (commandsOf lines).filterMap Command.identifier? with
  | [] => (lines.findSome? Line.identifying?).toList
  | named => named

/-- The specification of classified rows. -/
def specOf (lines : List Line) : Spec where
  title := ((commandsOf lines).filterMap Command.title?).getLast?
  subtitle := ((commandsOf lines).filterMap Command.subtitle?).getLast?
  sortKeys := sortKeysOf lines
  identifiers := identifiersOf lines
  items := itemsOf lines
  visibility := (((commandsOf lines).filterMap Command.visibility?).getLast?).getD .all

/-! ## Effects

The effects of the rows are the link between the two readings: they are applied to the draft one after
the other, and the groups among them are complete. -/

namespace Effect

def command? : Effect → Option Command
  | .command c => some c
  | .item _ => none

def item? : Effect → Option Item
  | .item i => some i
  | .command c => c.item?

end Effect

/-- The effects of rows that are read in some state, with that of the end of the template. -/
def effectsFrom (g : Grouping) : List Line → List Effect
  | [] => g.closing
  | line :: rest => (g.advance line).2 ++ effectsFrom (g.advance line).1 rest

namespace Draft

/-- The draft with all of some effects. -/
def putAll (d : Draft) (effects : List Effect) : Draft :=
  let commands := effects.filterMap Effect.command?
  { title := ((commands.filterMap Command.title?).getLast?).or d.title
    subtitle := ((commands.filterMap Command.subtitle?).getLast?).or d.subtitle
    sortKeys := d.sortKeys ++ commands.filterMap Command.sortKey?
    identifiers := d.identifiers ++ commands.filterMap Command.identifier?
    items := d.items ++ effects.filterMap Effect.item?
    visibility := ((commands.filterMap Command.visibility?).getLast?).getD d.visibility }

@[simp] theorem putAll_nil (d : Draft) : d.putAll [] = d := by simp [putAll]

theorem putAll_append (d : Draft) (es fs : List Effect) :
    d.putAll (es ++ fs) = (d.putAll es).putAll fs := by
  simp [putAll, List.getLast?_append, Option.or_assoc, Option.getD_or]

@[simp] theorem putAll_item (d : Draft) (item : Item) : d.putAll [.item item] = d.add item := by
  simp [putAll, add, Effect.command?, Effect.item?, List.filterMap_cons]

/-- An effect is refused only for a sort key that occurs again. -/
theorem apply_eq (d : Draft) (line : Nat) (e : Effect) :
    d.apply line e =
      match e with
      | .command (.sort property) =>
        if property ∈ d.sortKeys then .error (.repeatedSortKey line property)
        else .ok (d.putAll [e])
      | _ => .ok (d.putAll [e]) := by
  cases e with
  | item item => simp [apply]
  | command command =>
      cases command <;>
        simp [apply, putAll, add, Effect.command?, Effect.item?, Command.item?, Command.title?,
          Command.subtitle?, Command.sortKey?, Command.identifier?, Command.visibility?,
          List.filterMap_cons]

theorem apply_eq_ok_iff {d d' : Draft} {line : Nat} {e : Effect} (hd : d.sortKeys.Nodup) :
    d.apply line e = .ok d' ↔ (d.putAll [e]).sortKeys.Nodup ∧ d' = d.putAll [e] := by
  rw [apply_eq]
  split
  · rename_i property
    have hkeys : (d.putAll [.command (.sort property)]).sortKeys = d.sortKeys ++ [property] := by
      simp [putAll, Effect.command?, Command.sortKey?]
    have hn : (d.sortKeys ++ [property]).Nodup ↔ property ∉ d.sortKeys := by
      rw [← List.concat_eq_append, List.nodup_concat]
      exact and_iff_left hd
    by_cases hp : property ∈ d.sortKeys <;> simp [hkeys, hn, hp, eq_comm]
  · have hkeys : (d.putAll [e]).sortKeys = d.sortKeys := by
      cases e with
      | item _ => simp [putAll, Effect.command?]
      | command c => cases c <;> simp_all [putAll, Effect.command?, Command.sortKey?]
    simp [hkeys, hd, eq_comm]

theorem sortKeys_nodup_of_putAll {d : Draft} {es : List Effect}
    (h : (d.putAll es).sortKeys.Nodup) : d.sortKeys.Nodup :=
  h.sublist (List.sublist_append_left _ _)

/-- Effects are accepted together exactly if no sort key occurs twice. -/
theorem applyAll_eq_ok_iff {d d' : Draft} {line : Nat} {es : List Effect} (hd : d.sortKeys.Nodup) :
    d.applyAll line es = .ok d' ↔ (d.putAll es).sortKeys.Nodup ∧ d' = d.putAll es := by
  induction es generalizing d with
  | nil => simp [applyAll, hd, eq_comm]
  | cons e es ih =>
      have happ : d.putAll (e :: es) = (d.putAll [e]).putAll es := putAll_append d [e] es
      rw [happ, applyAll]
      constructor
      · intro h
        cases he : d.apply line e with
        | error _ => rw [he] at h; cases h
        | ok next =>
            rw [he] at h
            obtain ⟨hn, rfl⟩ := (apply_eq_ok_iff hd).mp he
            exact (ih hn).mp h
      · rintro ⟨hn, rfl⟩
        have hn' := sortKeys_nodup_of_putAll hn
        rw [(apply_eq_ok_iff hd).mpr ⟨hn', rfl⟩]
        exact (ih hn').mpr ⟨hn, rfl⟩

end Draft

/-! ## Row by row -/

/-- What the rows say, one by one. -/
abbrev Classified (rows : List Csv.Row) (lines : List Line) : Prop :=
  List.Forall₂ (fun row line => Line.ofRow row = .ok line) rows lines

namespace Progress

theorem complete_eq (p : Progress) : p.complete = p.draft.putAll p.grouping.closing := by
  cases hg : p.grouping <;> simp [complete, Grouping.closing, Grouping.close, hg]

/-- A row is taken exactly if it can be classified and repeats no sort key. -/
theorem feed_eq_ok_iff {p q : Progress} {row : Csv.Row} (hp : p.draft.sortKeys.Nodup) :
    p.feed row = .ok q ↔ ∃ line, Line.ofRow row = .ok line ∧
      (p.draft.putAll (p.grouping.advance line).2).sortKeys.Nodup ∧
      q = ⟨(p.grouping.advance line).1, p.draft.putAll (p.grouping.advance line).2,
        if line = .ignored then p.ignored ++ [row.line] else p.ignored⟩ := by
  unfold feed
  cases hl : Line.ofRow row with
  | error _ => simp [bind, Except.bind]
  | ok line =>
      have happ (d : Draft) : p.draft.applyAll row.line (p.grouping.advance line).2 = .ok d ↔ _ :=
        Draft.applyAll_eq_ok_iff hp
      cases hd : p.draft.applyAll row.line (p.grouping.advance line).2 with
      | error _ =>
          have hn : ¬(p.draft.putAll (p.grouping.advance line).2).sortKeys.Nodup := fun hn => by
            have := (happ _).mpr ⟨hn, rfl⟩
            rw [hd] at this; cases this
          simp [bind, Except.bind, hd, hn]
      | ok next =>
          obtain ⟨hn, rfl⟩ := (happ next).mp hd
          simp [bind, Except.bind, pure, Except.pure, hd, hn, eq_comm]

theorem closing_sortKeys (p : Progress) :
    (p.draft.putAll p.grouping.closing).sortKeys = p.draft.sortKeys := by
  cases hg : p.grouping <;> simp [Grouping.closing, Grouping.close, Draft.add]

/-- The rows of a reading without a fault can all be classified, and name each sort key once. -/
theorem classified_of_feedAll {p q : Progress} {rows : List Csv.Row}
    (hp : p.draft.sortKeys.Nodup) (h : p.feedAll rows = (q, none)) :
    ∃ lines, Classified rows lines ∧
      (p.draft.putAll (effectsFrom p.grouping lines)).sortKeys.Nodup := by
  induction rows generalizing p with
  | nil => exact ⟨[], .nil, by rwa [effectsFrom, closing_sortKeys]⟩
  | cons row rows ih =>
      rw [feedAll] at h
      cases hf : p.feed row with
      | error _ => simp [hf] at h
      | ok next =>
          rw [hf] at h
          obtain ⟨line, hl, hn, rfl⟩ := (feed_eq_ok_iff hp).mp hf
          obtain ⟨lines, hls, hns⟩ := ih hn h
          exact ⟨line :: lines, .cons hl hls, by rwa [effectsFrom, Draft.putAll_append]⟩

/-- Reading classified rows gives the draft with all their effects. -/
theorem feedAll_of_classified {p : Progress} {rows : List Csv.Row} {lines : List Line}
    (hl : Classified rows lines)
    (hn : (p.draft.putAll (effectsFrom p.grouping lines)).sortKeys.Nodup) :
    ∃ q, p.feedAll rows = (q, none) ∧
      q.complete = p.draft.putAll (effectsFrom p.grouping lines) := by
  induction hl generalizing p with
  | nil => exact ⟨p, rfl, complete_eq p⟩
  | @cons row line rows lines hr _ ih =>
      rw [effectsFrom, Draft.putAll_append] at hn ⊢
      have hstep := Draft.sortKeys_nodup_of_putAll hn
      have hfeed := (feed_eq_ok_iff (Draft.sortKeys_nodup_of_putAll hstep)).mpr
        ⟨line, hr, hstep, rfl⟩
      rw [feedAll, hfeed]
      exact ih hn

end Progress

/-! ## The effects of all rows -/

theorem commands_closing (g : Grouping) : g.closing.filterMap Effect.command? = [] := by
  cases g <;> simp [Grouping.closing, Grouping.close, Effect.command?]

theorem commands_effectsFrom (g : Grouping) (lines : List Line) :
    (effectsFrom g lines).filterMap Effect.command? = commandsOf lines := by
  induction lines generalizing g with
  | nil => exact commands_closing g
  | cons line lines ih =>
      rw [effectsFrom, List.filterMap_append, ih]
      cases line with
      | item _ => cases g <;> rfl
      | comment | ignored => rfl
      | blank | groupStart _ => simp only [Grouping.advance, commands_closing]; rfl
      | command c => simp only [Grouping.advance, List.filterMap_append, commands_closing]; rfl

/-- The item of a group that is open, with the members that these rows add. -/
def pending (g : Grouping) (lines : List Line) : List Item :=
  match g with
  | .idle => []
  | .inGroup group => [.group { group with members := group.members ++ membersOf lines }]

@[simp] theorem membersOf_nil : membersOf [] = [] := rfl

theorem membersOf_closed (line : Line) (h : line.closesGroup = true) (lines : List Line) :
    membersOf (line :: lines) = [] := by
  simp [membersOf, h]

theorem membersOf_open (line : Line) (h : line.closesGroup = false) (lines : List Line) :
    membersOf (line :: lines) = line.scalar?.toList ++ membersOf lines := by
  cases hs : line.scalar? <;> simp [membersOf, h, hs]

theorem items_closing (g : Grouping) {lines : List Line} (h : membersOf lines = []) :
    g.closing.filterMap Effect.item? = pending g lines := by
  cases g <;> simp [Grouping.closing, Grouping.close, pending, Effect.item?, h]

theorem openAfter_nil : openAfter [] = Grouping.idle.close.isSome := rfl

/-- The last row alone says whether a group is open, unless it leaves that as it was. -/
theorem openAfter_concat (before : List Line) (line : Line) :
    openAfter (before ++ [line]) =
      match line with
      | .groupStart _ => true
      | .blank | .command _ => false
      | .comment | .ignored | .item _ => openAfter before := by
  cases line <;> simp [openAfter, Line.closesGroup]

/-- One row keeps the agreement on whether a group is open. -/
theorem openAfter_advance {g : Grouping} {before : List Line} (h : openAfter before = g.close.isSome)
    (line : Line) : openAfter (before ++ [line]) = (g.advance line).1.close.isSome := by
  rw [openAfter_concat]
  cases line with
  | item _ => cases g <;> exact h
  | comment | ignored => exact h
  | blank | command _ | groupStart _ => rfl

theorem labelled_eq (s : Scalar) : Grouping.labelled s =
    { s with label := if s.label = "" then s.property else s.label } := by
  by_cases h : s.label = "" <;> simp [Grouping.labelled, h]

theorem itemsAt_item (before after : List Line) (s : Scalar) : itemsAt before after (.item s) =
    if openAfter before then [] else [.scalar (Grouping.labelled s)] := by
  rw [itemsAt, labelled_eq]

/-- The items that one row completes and the group that it leaves open are the group that was open
before and the items that the row stands for. -/
theorem items_advance {g : Grouping} {before : List Line} (h : openAfter before = g.close.isSome)
    (line : Line) (after : List Line) :
    (g.advance line).2.filterMap Effect.item? ++ pending (g.advance line).1 after =
      pending g (line :: after) ++ itemsAt before after line := by
  cases line with
  | comment =>
      have hm := membersOf_open .comment rfl after
      cases g <;> simp [Grouping.advance, pending, itemsAt, hm, Line.scalar?]
  | ignored =>
      have hm := membersOf_open .ignored rfl after
      cases g <;> simp [Grouping.advance, pending, itemsAt, hm, Line.scalar?]
  | blank =>
      have hc := items_closing g (membersOf_closed .blank rfl after)
      simp [Grouping.advance, hc, itemsAt, pending]
  | command c =>
      have hc := items_closing g (membersOf_closed (.command c) rfl after)
      cases hi : c.item? <;> simp [Grouping.advance, hc, itemsAt, pending, Effect.item?, hi]
  | groupStart label =>
      have hc := items_closing g (membersOf_closed (.groupStart label) rfl after)
      simp [Grouping.advance, hc, itemsAt, pending]
  | item s =>
      have hm := membersOf_open (.item s) rfl after
      cases g with
      | idle =>
          have hb : openAfter before = false := h
          simp [Grouping.advance, pending, itemsAt_item, hb, Effect.item?]
      | inGroup group =>
          have hb : openAfter before = true := h
          simp [Grouping.advance, pending, itemsAt_item, hb, hm, Line.scalar?]

/-- The items among the effects are those read off the list, after the group that is still open. -/
theorem items_effectsFrom {g : Grouping} {before : List Line} (h : openAfter before = g.close.isSome)
    (lines : List Line) :
    (effectsFrom g lines).filterMap Effect.item? = pending g lines ++ itemsFrom before lines := by
  induction lines generalizing g before with
  | nil => simpa [effectsFrom, itemsFrom] using items_closing g membersOf_nil
  | cons line after ih =>
      rw [effectsFrom, itemsFrom, List.filterMap_append, ih (openAfter_advance h line),
        ← List.append_assoc, items_advance h, List.append_assoc]

/-! ## The property that stands in for an identifier -/

/-- A group that is open offers its first member, if it has one already. -/
def Grouping.identifying? : Grouping → Option String
  | .idle => none
  | .inGroup group => group.members.head?.map (·.property)

theorem identifying_closing (g : Grouping) :
    (g.closing.filterMap Effect.item?).findSome? Draft.identifying? = g.identifying? := by
  cases g with
  | idle => rfl
  | inGroup group => cases hm : group.members <;>
      simp [Grouping.closing, Grouping.close, Effect.item?, Draft.identifying?,
        Grouping.identifying?, hm]

@[simp] theorem labelled_property (s : Scalar) : (Grouping.labelled s).property = s.property := by
  rw [labelled_eq]

/-- The first identifying property is kept by every row: it is in a complete item, in the group that
is open, or in the row itself. -/
theorem identifying_advance (g : Grouping) (line : Line) :
    (((g.advance line).2.filterMap Effect.item?).findSome? Draft.identifying?).or
        (g.advance line).1.identifying? =
      g.identifying?.or line.identifying? := by
  cases line with
  | comment | ignored => simp [Grouping.advance, Line.identifying?]
  | blank | groupStart _ =>
      simp only [Grouping.advance, identifying_closing]; rfl
  | command c =>
      simp only [Grouping.advance, List.filterMap_append, List.findSome?_append, identifying_closing,
        Option.or_assoc]
      cases c <;> rfl
  | item s =>
      cases g with
      | idle => simp [Grouping.advance, Effect.item?, Draft.identifying?, Grouping.identifying?,
          Line.identifying?]
      | inGroup group =>
          simp [Grouping.advance, Grouping.identifying?, Line.identifying?, List.head?_append]

theorem identifying_effectsFrom (g : Grouping) (lines : List Line) :
    ((effectsFrom g lines).filterMap Effect.item?).findSome? Draft.identifying? =
      g.identifying?.or (lines.findSome? Line.identifying?) := by
  induction lines generalizing g with
  | nil => simpa [effectsFrom] using identifying_closing g
  | cons line lines ih =>
      have hcons : (line :: lines).findSome? Line.identifying? =
          line.identifying?.or (lines.findSome? Line.identifying?) := by
        cases hl : line.identifying? <;> simp [hl]
      rw [effectsFrom, List.filterMap_append, List.findSome?_append, ih, ← Option.or_assoc,
        identifying_advance, Option.or_assoc, hcons]

/-! ## Whole templates -/

/-- The draft of a template that has been read to its end. -/
theorem putAll_effectsFrom (lines : List Line) :
    ({} : Draft).putAll (effectsFrom .idle lines) =
      ⟨(specOf lines).title, (specOf lines).subtitle, sortKeysOf lines,
        (commandsOf lines).filterMap Command.identifier?, itemsOf lines,
        (specOf lines).visibility⟩ := by
  have hitems := items_effectsFrom openAfter_nil lines
  simp [Draft.putAll, commands_effectsFrom, hitems, pending, specOf, sortKeysOf, itemsOf]

/-- The draft is a specification if the rows name an identifier or something to stand in for one. -/
theorem finish_effectsFrom (lines : List Line) :
    (({} : Draft).putAll (effectsFrom .idle lines)).finish =
      if identifiersOf lines = [] then .error .noIdentifier else .ok (specOf lines) := by
  have hfallback : (itemsOf lines).findSome? Draft.identifying? =
      lines.findSome? Line.identifying? := by
    have hitems := items_effectsFrom openAfter_nil lines
    have hidentifying := identifying_effectsFrom .idle lines
    rw [hitems] at hidentifying
    simpa [pending, Grouping.identifying?, itemsOf] using hidentifying
  rw [putAll_effectsFrom, Draft.finish, Draft.fallback?]
  cases hnamed : (commandsOf lines).filterMap Command.identifier? with
  | nil =>
      cases hf : lines.findSome? Line.identifying? with
      | none => simp [hfallback, hf, identifiersOf, hnamed]
      | some property =>
          simp [hfallback, hf, identifiersOf, hnamed, specOf]
  | cons name named => simp [identifiersOf, hnamed, specOf]

/-- Rows that can be classified and name no sort key twice lack at most an identifier. -/
theorem parse_of_classified {rows : List Csv.Row} {lines : List Line}
    (hl : Classified rows.tail lines) (hn : (sortKeysOf lines).Nodup) :
    parse rows = if identifiersOf lines = [] then .error .noIdentifier else .ok (specOf lines) := by
  have hkeys : (({} : Draft).putAll (effectsFrom .idle lines)).sortKeys = sortKeysOf lines := by
    rw [putAll_effectsFrom]
  obtain ⟨q, hq, hc⟩ := Progress.feedAll_of_classified (p := {}) hl (by rwa [hkeys])
  simp only [parse, read, hq, hc]
  exact finish_effectsFrom lines

/-- The rows of a template that is read can all be classified, and name each sort key once. -/
theorem classified_of_parse {rows : List Csv.Row} {spec : Spec} (h : parse rows = .ok spec) :
    ∃ lines, Classified rows.tail lines ∧ (sortKeysOf lines).Nodup := by
  cases hf : ({} : Progress).feedAll rows.tail with
  | mk q fault =>
      cases fault with
      | some _ => simp [parse, read, hf] at h
      | none =>
          obtain ⟨lines, hl, hn⟩ := Progress.classified_of_feedAll List.nodup_nil hf
          exact ⟨lines, hl, by rwa [putAll_effectsFrom] at hn⟩

/-- Reading succeeds exactly on rows that can be classified, name no sort key twice and have an
identifier or something to stand in for one. The specification is then the one read off the list. -/
theorem parse_eq_ok_iff {rows : List Csv.Row} {spec : Spec} :
    parse rows = .ok spec ↔ ∃ lines, Classified rows.tail lines ∧ (sortKeysOf lines).Nodup ∧
      identifiersOf lines ≠ [] ∧ spec = specOf lines := by
  constructor
  · intro h
    obtain ⟨lines, hl, hn⟩ := classified_of_parse h
    rw [parse_of_classified hl hn] at h
    split at h
    · cases h
    · rename_i hid
      cases h
      exact ⟨lines, hl, hn, hid, rfl⟩
  · rintro ⟨lines, hl, hn, hid, rfl⟩
    rw [parse_of_classified hl hn, if_neg hid]

/-- Every part of a specification is the one that classified rows give: the items in the order of the
rows, the last of the titles, subtitles and lists of sections, all sort keys and all identifiers or,
without one, the first property of an item or a hidden mention. -/
structure ReadOff (lines : List Line) (spec : Spec) : Prop where
  items : spec.items = itemsFrom [] lines
  title : spec.title = ((commandsOf lines).filterMap Command.title?).getLast?
  subtitle : spec.subtitle = ((commandsOf lines).filterMap Command.subtitle?).getLast?
  visibility : spec.visibility =
    (((commandsOf lines).filterMap Command.visibility?).getLast?).getD ⟨true, true, true, true⟩
  sortKeys : spec.sortKeys = (commandsOf lines).filterMap Command.sortKey?
  named : (commandsOf lines).filterMap Command.identifier? ≠ [] →
    spec.identifiers = (commandsOf lines).filterMap Command.identifier?
  standIn : (commandsOf lines).filterMap Command.identifier? = [] →
    ∃ property, lines.findSome? Line.identifying? = some property ∧ spec.identifiers = [property]

/-- Reading loses, repeats and moves nothing. -/
theorem readOff_of_parse {rows : List Csv.Row} {spec : Spec} (h : parse rows = .ok spec) :
    ∃ lines, Classified rows.tail lines ∧ ReadOff lines spec := by
  obtain ⟨lines, hl, -, hid, rfl⟩ := parse_eq_ok_iff.mp h
  refine ⟨lines, hl, rfl, rfl, rfl, rfl, rfl, fun hnamed => ?_, fun hnamed => ?_⟩
  · cases hc : (commandsOf lines).filterMap Command.identifier? with
    | nil => exact absurd hc hnamed
    | cons _ _ => simp [specOf, identifiersOf, hc]
  · cases hf : lines.findSome? Line.identifying? with
    | none => simp [identifiersOf, hnamed, hf] at hid
    | some property => exact ⟨property, rfl, by simp [specOf, identifiersOf, hnamed, hf]⟩

/-- A comment does not end the group, a command does, and the end of the template ends the last one. -/
theorem readOff_of_parse_groups :
    let rows : List Csv.Row := [⟨1, ["Label", "Property"]⟩, ⟨2, ["_SORT", "a"]⟩, ⟨3, ["First"]⟩,
      ⟨4, ["# note"]⟩, ⟨5, ["", "a", "0=off;1=on"]⟩, ⟨6, ["_HIDE", "b"]⟩, ⟨7, ["", "c"]⟩,
      ⟨8, ["Last", ""]⟩]
    let spec : Spec := ⟨none, none, ["a"], ["a"],
      [.group ⟨"First", [⟨"a", "", some ⟨[("0", "off"), ("1", "on")], by decide⟩, ""⟩]⟩,
        .hidden ⟨"b", none, ""⟩, .scalar ⟨"c", "c", none, ""⟩, .group ⟨"Last", []⟩], .all⟩
    parse rows = .ok spec ∧ ∃ lines, Classified rows.tail lines ∧ ReadOff lines spec := by
  refine ⟨by rfl, readOff_of_parse (by rfl)⟩

end RecordReport.Template
