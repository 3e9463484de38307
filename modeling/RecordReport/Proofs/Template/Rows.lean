import Mathlib.Data.List.Forall2
import RecordReport.Proofs.Spec.Tidy
import RecordReport.Template.Export

/-!
# The rows of a written specification

A specification can be written unless a label would be taken for a comment or a command. Its rows are
cells that are read as they are, and each says what it was written for.
-/

namespace RecordReport.Template

/-- A label of the item would be taken for a comment or a command. A scalar outside groups can do
without a label that equals its property. -/
def MarkedItem : Item → Prop
  | .scalar s => isMarked s.label = true ∧ s.label ≠ s.property
  | .group g => isMarked g.label = true ∨ ∃ m ∈ g.members, isMarked m.label = true
  | .other _ | .hidden _ => False

/-! ## What can be written -/

/-- The rows of an item without marked labels. -/
def rowsOfItem : Item → List (List String)
  | .scalar s => [scalarRow (if isMarked s.label then "" else s.label) s]
  | .group g =>
    [g.label, "", "", ""] :: g.members.map (fun m => scalarRow m.label m) ++ [["", "", "", ""]]
  | .other m => [mentionRow .other m]
  | .hidden m => [mentionRow .hide m]

theorem plainLabel_eq_ok {label : String} (h : ¬isMarked label = true) :
    plainLabel label = .ok label := by
  simp [plainLabel, h]

theorem itemRows_of_not_marked {item : Item} (h : ¬MarkedItem item) :
    itemRows item = (rowsOfItem item).map .ok := by
  cases item with
  | scalar s =>
      have htop : topLabel s = .ok (if isMarked s.label then "" else s.label) := by
        by_cases hm : isMarked s.label = true
        · have hp : s.label = s.property := by
            by_contra hne
            exact h ⟨hm, hne⟩
          simp [topLabel, hm, ← hp]
        · simp [topLabel, plainLabel, hm]
      simp [itemRows, rowsOfItem, htop, Except.map]
  | group g =>
      have hlabel : ¬isMarked g.label = true := fun hm => h (Or.inl hm)
      have hmembers : g.members.map (fun m => (plainLabel m.label).map (scalarRow · m)) =
          g.members.map (fun m => .ok (scalarRow m.label m)) :=
        List.map_congr_left fun m hm => by
          rw [plainLabel_eq_ok fun hmarked => h (Or.inr ⟨m, hm, hmarked⟩)]; rfl
      rw [itemRows, plainLabel_eq_ok hlabel, hmembers]
      simp [rowsOfItem, Except.map]
  | other m | hidden m => rfl

theorem exists_error_of_marked {item : Item} (h : MarkedItem item) :
    ∃ fault, .error fault ∈ itemRows item := by
  have hplain {label : String} (hm : isMarked label = true) :
      plainLabel label = .error (.markedLabel label) := by
    simp [plainLabel, hm]
  cases item with
  | scalar s =>
      obtain ⟨hm, hne⟩ := h
      exact ⟨.markedLabel s.label, by simp [itemRows, topLabel, hne, hplain hm, Except.map]⟩
  | group g =>
      rcases h with hm | ⟨m, hmem, hm⟩
      · exact ⟨.markedLabel g.label, by simp [itemRows, hplain hm, Except.map]⟩
      · refine ⟨.markedLabel m.label, ?_⟩
        have hrow : (plainLabel m.label).map (scalarRow · m) = .error (.markedLabel m.label) := by
          simp [hplain hm, Except.map]
        simp only [itemRows, List.cons_append, List.mem_cons, List.mem_append, List.mem_map]
        exact Or.inr (Or.inl ⟨m, hmem, hrow⟩)
  | other m | hidden m => exact h.elim

theorem beforeFault_map_ok {ε α : Type} (xs : List α) :
    beforeFault (xs.map (Except.ok : α → Except ε α)) = (xs, none) := by
  induction xs with
  | nil => rfl
  | cons x xs ih => simp [beforeFault, ih]

theorem beforeFault_of_error {ε α : Type} {xs : List (Except ε α)} {fault : ε}
    (h : .error fault ∈ xs) : ∃ ys e, beforeFault xs = (ys, some e) := by
  induction xs with
  | nil => cases h
  | cons x xs ih =>
      cases x with
      | error e => exact ⟨[], e, rfl⟩
      | ok x =>
          obtain ⟨ys, e, hys⟩ := ih (by simpa using h)
          exact ⟨x :: ys, e, by simp [beforeFault, hys]⟩

/-- The rows of a specification without marked labels. -/
def rowsOfSpec (spec : Spec) : List (List String) :=
  headings :: commandRows spec ++ spec.items.flatMap rowsOfItem

theorem exportRows_of_not_marked {spec : Spec} (h : ∀ item ∈ spec.items, ¬MarkedItem item) :
    beforeFault (exportRows spec) = (rowsOfSpec spec, none) := by
  have hitems : spec.items.flatMap itemRows = (spec.items.flatMap rowsOfItem).map .ok := by
    rw [List.map_flatMap]
    exact List.flatMap_congr fun item hitem => itemRows_of_not_marked (h item hitem)
  have hrows : exportRows spec = (rowsOfSpec spec).map .ok := by
    simp [exportRows, rowsOfSpec, hitems]
  rw [hrows, beforeFault_map_ok]

theorem exportRows_of_marked {spec : Spec} (h : ∃ item ∈ spec.items, MarkedItem item) :
    ∃ rows fault, beforeFault (exportRows spec) = (rows, some fault) := by
  obtain ⟨item, hitem, hmarked⟩ := h
  obtain ⟨fault, hfault⟩ := exists_error_of_marked hmarked
  have hrow : .error fault ∈ exportRows spec :=
    List.mem_append_right _ (List.mem_flatMap.mpr ⟨item, hitem, hfault⟩)
  exact beforeFault_of_error hrow

/-! ## What the rows say -/

/-- A row with these fields says this, whatever line it stands on. -/
def Means (fields : List String) (line : Line) : Prop :=
  ∀ n, Line.ofRow ⟨n, fields⟩ = .ok line

theorem means_scalarRow {label : String} {s : Scalar} (hlabel : ¬isMarked label = true)
    (hproperty : s.property ≠ "")
    (he : Enumeration.parse (enumerationText s.enumeration) = .ok s.enumeration) :
    Means (scalarRow label s) (.item { s with label := label }) := by
  intro n
  obtain ⟨hcommand, hcomment⟩ : Text.startsWith label commandMark = false ∧
      Text.startsWith label commentMark = false := by simpa [isMarked] using hlabel
  simp [Line.ofRow, scalarRow, Csv.Row.field, Csv.Row.isBlank, hcommand, hcomment, hproperty,
    maxFields, enumerationOf, he, Except.mapError, bind, Except.bind, pure, Except.pure]

theorem means_groupRow {label : String} (hlabel : ¬isMarked label = true) (hne : label ≠ "") :
    Means [label, "", "", ""] (.groupStart label) := by
  intro n
  obtain ⟨hcommand, hcomment⟩ : Text.startsWith label commandMark = false ∧
      Text.startsWith label commentMark = false := by simpa [isMarked] using hlabel
  simp [Line.ofRow, Csv.Row.field, Csv.Row.isBlank, hcommand, hcomment, hne, maxFields]

theorem means_blankRow : Means ["", "", "", ""] .blank := fun _ => rfl

/-- A row that begins with the token of a command says what the command says. -/
theorem means_of_commandOf {name : CommandName} {a b c : String} {command : Command}
    (h : ∀ n, commandOf ⟨n, [name.token, a, b, c]⟩ = .ok command) :
    Means [name.token, a, b, c] (.command command) := by
  intro n
  have hcommand : Text.startsWith name.token commandMark = true := by cases name <;> decide
  have hcomment : Text.startsWith name.token commentMark = false := by cases name <;> decide
  simp [Line.ofRow, Csv.Row.field, hcommand, hcomment, maxFields, h n, Except.map]

@[simp] theorem ofToken?_token (name : CommandName) : CommandName.ofToken? name.token = some name := by
  cases name <;> decide

theorem means_mentionRow {m : Mention} (hproperty : m.property ≠ "")
    (he : Enumeration.parse (enumerationText m.enumeration) = .ok m.enumeration) :
    Means (mentionRow .other m) (.command (.other m)) ∧
      Means (mentionRow .hide m) (.command (.hide m)) := by
  constructor <;>
    exact means_of_commandOf fun n => by
      simp [commandOf, Csv.Row.field, mentionOf, parameter, hproperty, enumerationOf, he,
        Except.mapError, Except.map, bind, Except.bind, pure, Except.pure]

theorem means_commandRow {text : String} (h : text ≠ "") :
    Means (commandRow .title text) (.command (.title text)) ∧
      Means (commandRow .subtitle text) (.command (.subtitle text)) ∧
      Means (commandRow .sort text) (.command (.sort text)) ∧
      Means (commandRow .identifier text) (.command (.identifier text)) := by
  refine ⟨?_, ?_, ?_, ?_⟩ <;>
    exact means_of_commandOf fun n => by
      simp [commandOf, Csv.Row.field, parameter, h, Except.map]

/-! ### Lists of sections -/

/-- A section is known by its name, which is no list of names. -/
theorem sectionName_spec (part : Section) : Text.IsTrimmed part.name ∧ part.name ≠ "" ∧
    Section.ofName? part.name = some part ∧ Enumeration.entrySeparator ∉ part.name.toList := by
  cases part <;> exact ⟨by decide, by decide, rfl, by decide⟩

theorem enableNames_names (n : Nat) (v : Visibility) (parts : List Section) :
    enableNames n v (parts.map Section.name) = .ok (parts.foldl Visibility.enable v) := by
  induction parts generalizing v with
  | nil => rfl
  | cons part parts ih =>
      obtain ⟨-, hne, hname, -⟩ := sectionName_spec part
      simp [enableNames, hne, hname, ih]

theorem visibilityOf_names (n : Nat) {parts : List Section} (hne : parts ≠ []) :
    visibilityOf n (Enumeration.entrySeparator.toString.intercalate (parts.map Section.name)) =
      .ok (parts.foldl Visibility.enable .none) := by
  have hsplit : Text.split Enumeration.entrySeparator
      (Enumeration.entrySeparator.toString.intercalate (parts.map Section.name)) =
        parts.map Section.name :=
    Text.split_intercalate (by simpa) fun s hs => by
      obtain ⟨part, -, rfl⟩ := List.mem_map.mp hs
      exact (sectionName_spec part).2.2.2
  have htrim : (parts.map Section.name).map Text.trim = parts.map Section.name := by
    rw [List.map_map]
    exact List.map_congr_left fun part _ => (sectionName_spec part).1.trim_eq
  rw [visibilityOf, hsplit, htrim, enableNames_names]

theorem isName_names {parts : List Section} (hne : parts ≠ []) : Text.IsName
    (Enumeration.entrySeparator.toString.intercalate (parts.map Section.name)) := by
  constructor
  · rw [Text.IsTrimmed, String.toList_intercalate, List.map_map]
    refine Text.Ends.intercalate (by decide) fun cs hcs => ?_
    obtain ⟨part, -, rfl⟩ := List.mem_map.mp hcs
    exact (sectionName_spec part).1
  · cases parts with
    | nil => exact absurd rfl hne
    | cons part parts =>
        have hname := (sectionName_spec part).2.1
        cases parts <;> simp [hname]

theorem sections_eq_nil {v : Visibility} : v.sections = [] ↔ v = .none := by
  rcases v with ⟨_ | _, _ | _, _ | _, _ | _⟩ <;> decide

theorem foldl_sections (v : Visibility) : v.sections.foldl Visibility.enable .none = v := by
  rcases v with ⟨_ | _, _ | _, _ | _, _ | _⟩ <;> rfl

/-- The list of sections is a name, and turns on the same sections. -/
theorem sectionList?_spec {v : Visibility} {list : String} (h : sectionList? v = some list) :
    Text.IsName list ∧ ∀ n, visibilityOf n list = .ok v := by
  rw [sectionList?] at h
  split at h
  · cases h
  · split at h
    · rename_i hnone
      cases h
      subst hnone
      exact ⟨⟨by decide, by decide⟩, fun _ => rfl⟩
    · rename_i hnone
      cases h
      have hparts : v.sections ≠ [] := fun hnil => hnone (sections_eq_nil.mp hnil)
      exact ⟨isName_names hparts, fun n => by rw [visibilityOf_names n hparts, foldl_sections]⟩

theorem means_sections {v : Visibility} {list : String} (h : sectionList? v = some list) :
    Means (commandRow .sections list) (.command (.sections v)) := by
  obtain ⟨hname, hv⟩ := sectionList?_spec h
  exact means_of_commandOf fun n => by
    simp [commandOf, Csv.Row.field, parameter, hname.ne_empty, hv, bind, Except.bind, pure,
      Except.pure]

/-! ### All rows -/

/-- The commands of a specification. -/
def commandsOfSpec (spec : Spec) : List Command :=
  spec.title.toList.map .title ++ spec.subtitle.toList.map .subtitle ++ spec.sortKeys.map .sort ++
    spec.identifiers.map .identifier ++
    (sectionList? spec.visibility).toList.map fun _ => .sections spec.visibility

/-- What the rows of an item say. -/
def linesOfItem : Item → List Line
  | .scalar s => [.item { s with label := if isMarked s.label then "" else s.label }]
  | .group g => .groupStart g.label :: g.members.map .item ++ [.blank]
  | .other m => [.command (.other m)]
  | .hidden m => [.command (.hide m)]

def linesOfSpec (spec : Spec) : List Line :=
  (commandsOfSpec spec).map .command ++ spec.items.flatMap linesOfItem

theorem parse_enumerationText {e : Option Enumeration} (h : ∀ e' ∈ e, e'.Plain) :
    Enumeration.parse (enumerationText e) = .ok e := by
  cases e with
  | none => rfl
  | some e => exact Enumeration.parse_format (h e rfl)

theorem means_rowsOfItem {item : Item} (htidy : item.Tidy) (hmarked : ¬MarkedItem item) :
    List.Forall₂ Means (rowsOfItem item) (linesOfItem item) := by
  cases item with
  | scalar s =>
      obtain ⟨hs, _⟩ := htidy
      have he := parse_enumerationText hs.enumeration
      refine .cons (means_scalarRow ?_ hs.property.ne_empty he) .nil
      split
      · decide
      · assumption
  | group g =>
      obtain ⟨hlabel, hmembers⟩ := htidy
      refine .cons (means_groupRow (fun h => hmarked (Or.inl h)) hlabel.ne_empty) ?_
      refine List.rel_append ?_ (.cons means_blankRow .nil)
      rw [List.forall₂_map_left_iff, List.forall₂_map_right_iff]
      exact List.forall₂_same.mpr fun m hm =>
        means_scalarRow (fun h => hmarked (Or.inr ⟨m, hm, h⟩)) (hmembers m hm).property.ne_empty
          (parse_enumerationText (hmembers m hm).enumeration)
  | other m =>
      have he := parse_enumerationText (Mention.Tidy.enumeration htidy)
      exact .cons (means_mentionRow (Mention.Tidy.property htidy).ne_empty he).1 .nil
  | hidden m =>
      have he := parse_enumerationText (Mention.Tidy.enumeration htidy)
      exact .cons (means_mentionRow (Mention.Tidy.property htidy).ne_empty he).2 .nil

theorem means_commandRows {spec : Spec} (h : spec.Tidy) :
    List.Forall₂ Means (commandRows spec) ((commandsOfSpec spec).map .command) := by
  have hmap {α : Type} {xs : List α} {f : α → List String} {g : α → Command}
      (hmeans : ∀ x ∈ xs, Means (f x) (.command (g x))) :
      List.Forall₂ Means (xs.map f) ((xs.map g).map Line.command) := by
    rw [List.map_map, List.forall₂_map_left_iff, List.forall₂_map_right_iff]
    exact List.forall₂_same.mpr hmeans
  simp only [commandRows, commandsOfSpec, List.map_append]
  refine List.rel_append (List.rel_append (List.rel_append (List.rel_append ?_ ?_) ?_) ?_) ?_
  · exact hmap fun t ht => (means_commandRow (h.title t (by simpa using ht)).ne_empty).1
  · exact hmap fun t ht => (means_commandRow (h.subtitle t (by simpa using ht)).ne_empty).2.1
  · exact hmap fun key hkey => (means_commandRow (h.sortKeys key hkey).ne_empty).2.2.1
  · exact hmap fun name hname => (means_commandRow (h.identifiers name hname).ne_empty).2.2.2
  · exact hmap fun list hlist => means_sections (by simpa using hlist)

theorem means_rowsOfSpec {spec : Spec} (h : spec.Tidy)
    (hmarked : ∀ item ∈ spec.items, ¬MarkedItem item) :
    List.Forall₂ Means (rowsOfSpec spec).tail (linesOfSpec spec) := by
  have hitems (items : List Item) (htidy : ∀ item ∈ items, item.Tidy)
      (hmarked : ∀ item ∈ items, ¬MarkedItem item) :
      List.Forall₂ Means (items.flatMap rowsOfItem) (items.flatMap linesOfItem) := by
    induction items with
    | nil => exact .nil
    | cons item items ih =>
        simp only [List.forall_mem_cons] at htidy hmarked
        exact List.rel_append (means_rowsOfItem htidy.1 hmarked.1) (ih htidy.2 hmarked.2)
  exact List.rel_append (means_commandRows h) (hitems spec.items h.items hmarked)

/-! ## Fields -/

/-- The texts of an item that are written. -/
def textsOfItem : Item → List String
  | .scalar s => scalarRow s.label s
  | .group g => g.label :: g.members.flatMap fun m => scalarRow m.label m
  | .other m | .hidden m => [m.property, enumerationText m.enumeration, m.notes]

def textsOf (spec : Spec) : List String :=
  spec.title.toList ++ spec.subtitle.toList ++ spec.sortKeys ++ spec.identifiers ++
    spec.items.flatMap textsOfItem

/-- The row has as many fields as a row may have, each with a property. -/
structure IsRow (p : String → Prop) (fields : List String) : Prop where
  length_eq : fields.length = maxFields
  fields : ∀ f ∈ fields, p f

namespace IsRow

variable {p : String → Prop}

theorem four {a b c d : String} (ha : p a) (hb : p b) (hc : p c) (hd : p d) :
    IsRow p [a, b, c, d] := by
  refine ⟨rfl, ?_⟩
  simp only [List.forall_mem_cons]
  exact ⟨ha, hb, hc, hd, by simp⟩

theorem ne_nil {fields : List String} (h : IsRow p fields) : fields ≠ [] := by
  rintro rfl
  cases h.length_eq

end IsRow

theorem isTrimmed_token (name : CommandName) : Text.IsTrimmed name.token := by
  cases name <;> decide

section Written

variable {p : String → Prop} (hp : ∀ s, Text.IsTrimmed s → p s)

include hp

theorem isRow_commandRow (name : CommandName) {text : String} (h : p text) :
    IsRow p (commandRow name text) :=
  .four (hp _ (isTrimmed_token name)) h (hp _ .empty) (hp _ .empty)

theorem isRow_of_mem_rowsOfItem {item : Item} (h : ∀ t ∈ textsOfItem item, p t) :
    ∀ fields ∈ rowsOfItem item, IsRow p fields := by
  intro fields hfields
  cases item with
  | scalar s =>
      simp only [textsOfItem, scalarRow, List.forall_mem_cons] at h
      obtain ⟨hlabel, hproperty, henumeration, hnotes, -⟩ := h
      rw [List.mem_singleton.mp hfields]
      refine .four ?_ hproperty henumeration hnotes
      split
      · exact hp _ .empty
      · exact hlabel
  | group g =>
      obtain ⟨hlabel, hmembers⟩ := List.forall_mem_cons.mp h
      simp only [rowsOfItem, List.cons_append, List.mem_cons, List.mem_append, List.mem_map,
        List.not_mem_nil, or_false] at hfields
      rcases hfields with rfl | ⟨m, hm, rfl⟩ | rfl
      · exact .four hlabel (hp _ .empty) (hp _ .empty) (hp _ .empty)
      · exact ⟨rfl, fun f hf => hmembers f (List.mem_flatMap.mpr ⟨m, hm, hf⟩)⟩
      · exact .four (hp _ .empty) (hp _ .empty) (hp _ .empty) (hp _ .empty)
  | other m | hidden m =>
      rw [List.mem_singleton.mp hfields]
      exact ⟨rfl, List.forall_mem_cons.mpr ⟨hp _ (isTrimmed_token _), h⟩⟩

/-- The fields of the rows are fixed cells and texts of the specification. -/
theorem isRow_of_mem_rowsOfSpec {spec : Spec} (h : ∀ t ∈ textsOf spec, p t) :
    ∀ fields ∈ rowsOfSpec spec, IsRow p fields := by
  intro fields hfields
  simp only [textsOf, List.forall_mem_append] at h
  obtain ⟨⟨⟨⟨htitle, hsubtitle⟩, hsortKeys⟩, hidentifiers⟩, hitems⟩ := h
  simp only [rowsOfSpec, commandRows, List.cons_append, List.mem_cons, List.mem_append, List.mem_map,
    List.mem_flatMap] at hfields
  rcases hfields with rfl | (((((⟨t, ht, rfl⟩ | ⟨t, ht, rfl⟩) | ⟨key, hkey, rfl⟩) |
    ⟨name, hname, rfl⟩) | ⟨list, hlist, rfl⟩) | ⟨item, hitem, hrow⟩)
  · exact .four (hp _ (by decide)) (hp _ (by decide)) (hp _ (by decide)) (hp _ (by decide))
  · exact isRow_commandRow hp .title (htitle t ht)
  · exact isRow_commandRow hp .subtitle (hsubtitle t ht)
  · exact isRow_commandRow hp .sort (hsortKeys key hkey)
  · exact isRow_commandRow hp .identifier (hidentifiers name hname)
  · have hname := (sectionList?_spec (Option.mem_toList.mp hlist)).1
    exact isRow_commandRow hp .sections (hp _ hname.trimmed)
  · exact isRow_of_mem_rowsOfItem hp (fun t ht => hitems t (List.mem_flatMap.mpr ⟨item, hitem, ht⟩))
      fields hrow

end Written

/-! ### Texts -/

theorem isTrimmed_enumerationText {e : Option Enumeration} (h : ∀ e' ∈ e, e'.Clean) :
    Text.IsTrimmed (enumerationText e) := by
  cases e with
  | none => exact .empty
  | some e => exact (h e rfl).isTrimmed_format

theorem trim_enumerationText {e : Option Enumeration} (h : ∀ e' ∈ e, e'.Plain) :
    Text.trim (enumerationText e) = enumerationText e := by
  cases e with
  | none => rfl
  | some e => exact (h e rfl).trim_format

theorem isTrimmed_of_mem_textsOf {spec : Spec} (h : spec.Clean) :
    ∀ t ∈ textsOf spec, Text.IsTrimmed t := by
  have hscalar {s : Scalar} (hs : s.Clean) : ∀ t ∈ scalarRow s.label s, Text.IsTrimmed t :=
    (IsRow.four hs.label hs.property.trimmed (isTrimmed_enumerationText hs.enumeration)
      hs.notes).fields
  simp only [textsOf, List.forall_mem_append]
  refine ⟨⟨⟨⟨?_, ?_⟩, ?_⟩, ?_⟩, ?_⟩
  · exact fun t ht => (h.title t (Option.mem_toList.mp ht)).trimmed
  · exact fun t ht => (h.subtitle t (Option.mem_toList.mp ht)).trimmed
  · exact fun key hkey => (h.sortKeys key hkey).trimmed
  · exact fun name hname => (h.identifiers name hname).trimmed
  · intro t ht
    obtain ⟨item, hitem, ht⟩ := List.mem_flatMap.mp ht
    have hclean := h.items item hitem
    cases item with
    | scalar s => exact hscalar hclean.1 t ht
    | group g =>
        rcases List.mem_cons.mp ht with rfl | ht
        · exact hclean.1.trimmed
        · obtain ⟨m, hm, ht⟩ := List.mem_flatMap.mp ht
          exact hscalar (hclean.2 m hm) t ht
    | other m | hidden m =>
        have hmention : m.Clean := hclean
        simp only [textsOfItem, List.mem_cons, List.not_mem_nil, or_false] at ht
        rcases ht with rfl | rfl | rfl
        · exact hmention.property.trimmed
        · exact isTrimmed_enumerationText hmention.enumeration
        · exact hmention.notes

theorem trim_of_mem_textsOf {spec : Spec} (h : spec.Tidy) : ∀ t ∈ textsOf spec, Text.trim t = t := by
  have hscalar {s : Scalar} (hs : s.Tidy) : ∀ t ∈ scalarRow s.label s, Text.trim t = t := by
    have hrow : IsRow (fun t => Text.trim t = t) (scalarRow s.label s) :=
      .four hs.label hs.property.trim_eq (trim_enumerationText hs.enumeration) hs.notes
    exact hrow.fields
  simp only [textsOf, List.forall_mem_append]
  refine ⟨⟨⟨⟨?_, ?_⟩, ?_⟩, ?_⟩, ?_⟩
  · exact fun t ht => (h.title t (Option.mem_toList.mp ht)).trim_eq
  · exact fun t ht => (h.subtitle t (Option.mem_toList.mp ht)).trim_eq
  · exact fun key hkey => (h.sortKeys key hkey).trim_eq
  · exact fun name hname => (h.identifiers name hname).trim_eq
  · intro t ht
    obtain ⟨item, hitem, ht⟩ := List.mem_flatMap.mp ht
    have htidy := h.items item hitem
    cases item with
    | scalar s => exact hscalar htidy.1 t ht
    | group g =>
        rcases List.mem_cons.mp ht with rfl | ht
        · exact htidy.1.trim_eq
        · obtain ⟨m, hm, ht⟩ := List.mem_flatMap.mp ht
          exact hscalar (htidy.2 m hm) t ht
    | other m | hidden m =>
        have hmention : m.Tidy := htidy
        simp only [textsOfItem, List.mem_cons, List.not_mem_nil, or_false] at ht
        rcases ht with rfl | rfl | rfl
        · exact hmention.property.trim_eq
        · exact trim_enumerationText hmention.enumeration
        · exact hmention.notes

end RecordReport.Template
