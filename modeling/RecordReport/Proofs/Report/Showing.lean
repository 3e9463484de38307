import RecordReport.Proofs.Report.Summaries
import RecordReport.Proofs.Report.Warnings

/-!
# Findings when more is shown

A property is summarised for the first place that shows it. A mention that comes to be shown can stand
before that place, and takes its findings away unless it brings them itself or articles do.
-/

namespace RecordReport

/-- The place shows a property under some options. -/
def Place.shows (options : Report.Options) (p : String) (place : Place) : Bool :=
  place.shown options && place.property = p

def Place.enumeration : Place → Option Enumeration
  | .scalar s | .member _ s => s.enumeration
  | .other m | .hidden m => m.enumeration

@[simp] theorem Place.enumeration_summary (place : Place) :
    place.summary.enumeration = place.enumeration := by
  cases place <;> rfl

/-- Some record has the value, which is not empty. -/
def Table.HasValue (table : Table) (p value : String) : Prop :=
  value ≠ "" ∧ ∃ r ∈ table.records, r.value p = value

namespace Spec

/-- The place that a property is summarised for: the first one that shows it. -/
def firstPlace? (spec : Spec) (options : Report.Options) (p : String) : Option Place :=
  spec.places.find? (Place.shows options p)

/-- Articles show the property with an enumeration that has no entry for the value. -/
def LacksInArticles (spec : Spec) (p value : String) : Prop :=
  ∃ item ∈ spec.items, ∃ s ∈ item.scalars, s.property = p ∧ ∃ e ∈ s.enumeration, e.Lacks value

/-- The summary of the property has an enumeration without an entry for the value. -/
def LacksInSummary (spec : Spec) (options : Report.Options) (p value : String) : Prop :=
  ∃ place, spec.firstPlace? options p = some place ∧ ∃ e ∈ place.enumeration, e.Lacks value

/-- The finding is of a property that a mention of this kind is the first to show. The mention has an entry
for the value or no enumeration at all, and no article brings the finding. -/
def Mutes (spec : Spec) (options : Report.Options) (kind : Mention → Place) (w : Report.Warning) : Prop :=
  ∃ p value m, w = .missingEntry p value ∧ spec.firstPlace? options p = some (kind m) ∧
    (∀ e ∈ (kind m).enumeration, ¬e.Lacks value) ∧
    ¬(spec.visibility.records ∧ spec.LacksInArticles p value)

end Spec

namespace Report

/-! ## One report -/

theorem mem_missesAt {record : Record} {q p value : String} {e : Option Enumeration} :
    .missingEntry p value ∈ missesAt record q e ↔
      q = p ∧ record.value p = value ∧ value ≠ "" ∧ ∃ e' ∈ e, e'.Lacks value := by
  rw [missesAt, List.mem_ite_nil_right, List.mem_singleton, Warning.missingEntry.injEq]
  constructor
  · rintro ⟨⟨hne, hlacks⟩, rfl, rfl⟩
    exact ⟨rfl, rfl, hne, hlacks⟩
  · rintro ⟨rfl, rfl, hne, hlacks⟩
    exact ⟨⟨hne, hlacks⟩, rfl, rfl⟩

namespace Context

variable (c : Context)

theorem mem_records {r : Record} : r ∈ c.records ↔ r ∈ c.table.records := c.records_perm.mem_iff

theorem mem_missesInRecords {p value : String} : .missingEntry p value ∈ c.missesInRecords ↔
    c.table.HasValue p value ∧ c.spec.LacksInArticles p value := by
  simp only [missesInRecords, List.mem_flatMap, c.mem_records, mem_missesAt]
  constructor
  · rintro ⟨r, hr, item, hitem, s, hs, hp, hvalue, hne, hlacks⟩
    exact ⟨⟨hne, r, hr, hvalue⟩, item, hitem, s, hs, hp, hlacks⟩
  · rintro ⟨⟨hne, r, hr, hvalue⟩, item, hitem, s, hs, hp, hlacks⟩
    exact ⟨r, hr, item, hitem, s, hs, hp, hvalue, hne, hlacks⟩

/-- A summary with an enumeration is that of the first place of its property. -/
theorem exists_summary_iff {p : String} {e : Enumeration} :
    (∃ s ∈ c.summaries, s.property = p ∧ s.enumeration = some e) ↔
      ∃ place, c.spec.firstPlace? c.options p = some place ∧ place.enumeration = some e := by
  have hfirst (place : Place) :
      place ∈ firstsBy Place.property (c.spec.places.filter (Place.shown c.options)) ↔
        c.spec.firstPlace? c.options place.property = some place := by
    rw [mem_firstsBy_iff, List.find?_filter, Spec.firstPlace?]
    simp only [Bool.decide_and, Bool.decide_eq_true]
    rfl
  simp only [summaries_eq_places, List.mem_append, List.mem_map]
  constructor
  · rintro ⟨s, ⟨place, hplace, rfl⟩ | ⟨q, -, rfl⟩, hp, he⟩
    · rw [Place.property_summary] at hp
      rw [Place.enumeration_summary] at he
      exact ⟨place, hp ▸ (hfirst place).mp hplace, he⟩
    · cases he
  · rintro ⟨place, hplace, he⟩
    have hp : place.property = p := by
      have hfound := List.find?_some hplace
      simp only [Place.shows, Bool.and_eq_true, decide_eq_true_eq] at hfound
      exact hfound.2
    refine ⟨place.summary, Or.inl ⟨place, (hfirst place).mpr (hp ▸ hplace), rfl⟩, ?_, ?_⟩
    · rw [Place.property_summary, hp]
    · rw [Place.enumeration_summary, he]

theorem mem_missesInProperties {p value : String} : .missingEntry p value ∈ c.missesInProperties ↔
    c.table.HasValue p value ∧ c.spec.LacksInSummary c.options p value := by
  simp only [missesInProperties, List.mem_flatMap, c.mem_records, mem_missesAt]
  constructor
  · rintro ⟨s, hs, r, hr, hp, hvalue, hne, e, he, hlacks⟩
    obtain ⟨place, hplace, hsame⟩ := c.exists_summary_iff.mp ⟨s, hs, hp, he⟩
    exact ⟨⟨hne, r, hr, hvalue⟩, place, hplace, e, hsame, hlacks⟩
  · rintro ⟨⟨hne, r, hr, hvalue⟩, place, hplace, e, he, hlacks⟩
    obtain ⟨s, hs, hp, hsame⟩ := c.exists_summary_iff.mpr ⟨place, hplace, he⟩
    exact ⟨s, hs, r, hr, hp, hvalue, hne, e, hsame, hlacks⟩

/-- A value is missed in an article or in the summary of its property. -/
theorem missingEntry_mem_warnings {p value : String} : .missingEntry p value ∈ c.render.warnings ↔
    c.table.HasValue p value ∧
      (c.spec.visibility.records ∧ c.spec.LacksInArticles p value ∨
        c.spec.visibility.properties ∧ c.spec.LacksInSummary c.options p value) := by
  have hunreferenced : .missingEntry p value ∉ c.unreferenced := by simp [unreferenced]
  rw [render, mem_firsts, List.mem_append, or_iff_right hunreferenced, warnings_sections, misses,
    List.mem_append, List.mem_ite_nil_right, List.mem_ite_nil_right, c.mem_missesInRecords,
    c.mem_missesInProperties]
  tauto

theorem unreferenced_mem_warnings {p : String} : .unreferenced p ∈ c.render.warnings ↔
    p ∈ c.table.properties ∧ p ∉ c.spec.references := by
  have hmisses : .unreferenced p ∉ c.misses := fun h => by
    obtain ⟨q, value, heq⟩ := c.exists_of_mem_misses h
    cases heq
  rw [render, mem_firsts, List.mem_append, warnings_sections, or_iff_left hmisses, ← c.mem_unused]
  simp [unreferenced]

end Context

/-! ## Two reports -/

/-- Other options show the same places, and mentions of one kind besides. -/
structure Options.Adds (o o' : Options) (kind : Mention → Place) : Prop where
  kept : ∀ place, Place.shown o place = true → Place.shown o' place = true
  added : ∀ place, Place.shown o' place = true → Place.shown o place = true ∨ ∃ m, place = kind m

section Adds

variable {o o' : Options} {kind : Mention → Place}

/-- Only a mention that was not shown before can take the place of the first one. -/
theorem Options.Adds.firstPlace? (h : o.Adds o' kind) {spec : Spec} {p : String} {place : Place}
    (hplace : spec.firstPlace? o p = some place) :
    spec.firstPlace? o' p = some place ∨ ∃ m, spec.firstPlace? o' p = some (kind m) := by
  rw [Spec.firstPlace?] at hplace ⊢
  generalize spec.places = places at hplace ⊢
  induction places with
  | nil => cases hplace
  | cons first places ih =>
      by_cases hfirst : first.shows o' p = true
      · rw [List.find?_cons_of_pos hfirst]
        obtain ⟨hshown, hp⟩ : first.shown o' = true ∧ first.property = p := by
          simpa [Place.shows] using hfirst
        rcases h.added first hshown with hbefore | ⟨m, rfl⟩
        · rw [List.find?_cons_of_pos (by simp [Place.shows, hbefore, hp])] at hplace
          exact Or.inl hplace
        · exact Or.inr ⟨m, rfl⟩
      · have hbefore : ¬first.shows o p = true := fun hshows => hfirst <| by
          obtain ⟨hshown, hp⟩ : first.shown o = true ∧ first.property = p := by
            simpa [Place.shows] using hshows
          simp [Place.shows, h.kept first hshown, hp]
        rw [List.find?_cons_of_neg hfirst]
        rw [List.find?_cons_of_neg hbefore] at hplace
        exact ih hplace

theorem Options.Adds.lost_iff {c c' : Context} (h : c.options.Adds c'.options kind)
    (htable : c'.table = c.table) (hspec : c'.spec = c.spec) {w : Warning}
    (hw : w ∈ c.render.warnings) :
    w ∉ c'.render.warnings ↔ c.spec.Mutes c'.options kind w := by
  cases w with
  | unreferenced p =>
      rw [c.unreferenced_mem_warnings] at hw
      rw [c'.unreferenced_mem_warnings, htable, hspec]
      refine iff_of_false (fun hlost => hlost hw) ?_
      rintro ⟨_, _, _, heq, -⟩
      cases heq
  | missingEntry p value =>
      rw [c.missingEntry_mem_warnings] at hw
      rw [c'.missingEntry_mem_warnings, htable, hspec]
      obtain ⟨hvalue, hlacks⟩ := hw
      constructor
      · intro hlost
        have harticles : ¬(c.spec.visibility.records ∧ c.spec.LacksInArticles p value) :=
          fun h => hlost ⟨hvalue, Or.inl h⟩
        obtain ⟨hproperties, place, hplace, e, he, hentry⟩ := hlacks.resolve_left harticles
        rcases h.firstPlace? hplace with hsame | ⟨m, hm⟩
        · exact absurd ⟨hvalue, Or.inr ⟨hproperties, place, hsame, e, he, hentry⟩⟩ hlost
        · refine ⟨p, value, m, rfl, hm, fun e' he' hentry' => hlost ⟨hvalue, Or.inr ?_⟩, harticles⟩
          exact ⟨hproperties, kind m, hm, e', he', hentry'⟩
      · rintro ⟨_, _, m, heq, hm, hentries, harticles⟩ ⟨-, hmore⟩
        cases heq
        obtain ⟨-, place, hplace, e, he, hentry⟩ := hmore.resolve_left harticles
        rw [hm] at hplace
        cases hplace
        exact hentries e he hentry

end Adds

theorem adds_includeHidden (o : Options) :
    Options.Adds { o with includeHidden := false } { o with includeHidden := true } .hidden where
  kept place := by cases place <;> simp [Place.shown]
  added place := by cases place <;> simp [Place.shown]

theorem adds_excludeOther (o : Options) :
    Options.Adds { o with excludeOther := true } { o with excludeOther := false } .other where
  kept place := by cases place <;> simp [Place.shown]
  added place := by cases place <;> simp [Place.shown]

theorem exists_lost_iff {table : Table} {spec : Spec} (hfits : ∀ p ∈ spec.references, p ∈ table.properties)
    {o o' : Options} {kind : Mention → Place} (h : o.Adds o' kind) :
    ∃ less more, render table spec o = .ok less ∧ render table spec o' = .ok more ∧
      ∀ w ∈ less.warnings, w ∉ more.warnings ↔ spec.Mutes o' kind w := by
  obtain ⟨c, rfl, rfl, rfl, hless⟩ := exists_context_of_fits o hfits
  obtain ⟨c', htable, hspec, rfl, hmore⟩ := exists_context_of_fits o' hfits
  exact ⟨c.render, c'.render, hless, hmore, fun w hw => h.lost_iff htable hspec hw⟩

/-- When hidden mentions come to be shown, and when other mentions do, exactly those findings are lost that
such a mention mutes. -/
theorem lost_of_more_shown {table : Table} {spec : Spec} (options : Options)
    (hfits : ∀ p ∈ spec.references, p ∈ table.properties) :
    (∃ less more, render table spec { options with includeHidden := false } = .ok less ∧
      render table spec { options with includeHidden := true } = .ok more ∧
      ∀ w ∈ less.warnings, w ∉ more.warnings ↔
        spec.Mutes { options with includeHidden := true } .hidden w) ∧
    ∃ less more, render table spec { options with excludeOther := true } = .ok less ∧
      render table spec { options with excludeOther := false } = .ok more ∧
      ∀ w ∈ less.warnings, w ∉ more.warnings ↔
        spec.Mutes { options with excludeOther := false } .other w :=
  ⟨exists_lost_iff hfits (adds_includeHidden options), exists_lost_iff hfits (adds_excludeOther options)⟩

/-- Of two findings one is brought by an article as well, and the other is lost to a mention without an
enumeration. -/
theorem lost_of_more_shown_article :
    let table : Table := ⟨["a", "b"], [⟨1, 2, [("a", "x"), ("b", "y")]⟩]⟩
    let e : Enumeration := ⟨[("z", "Z")], by decide⟩
    let items : List Item := [.hidden ⟨"a", some ⟨[("x", "X")], by decide⟩, ""⟩, .hidden ⟨"b", none, ""⟩,
      .scalar ⟨"a", "A", some e, ""⟩, .other ⟨"b", some e, ""⟩]
    let spec : Spec := ⟨none, none, [], ["a"], items, .all⟩
    (∀ p ∈ spec.references, p ∈ table.properties) ∧
      ∃ less more, render table spec { includeHidden := false } = .ok less ∧
        render table spec { includeHidden := true } = .ok more ∧
        less.warnings = [.missingEntry "a" "x", .missingEntry "b" "y"] ∧
        more.warnings = [.missingEntry "a" "x"] ∧
        spec.Mutes { includeHidden := true } .hidden (.missingEntry "b" "y") := by
  intro table e items spec
  have hfits : ∀ p ∈ spec.references, p ∈ table.properties := by decide
  obtain ⟨less, more, hless, hmore, hlost⟩ := (lost_of_more_shown {} hfits).1
  have hbefore : less.warnings = [.missingEntry "a" "x", .missingEntry "b" "y"] := by
    obtain rfl := Except.ok.inj (hless.symm.trans rfl)
    decide +kernel
  have hafter : more.warnings = [.missingEntry "a" "x"] := by
    obtain rfl := Except.ok.inj (hmore.symm.trans rfl)
    decide +kernel
  refine ⟨hfits, less, more, hless, hmore, hbefore, hafter, ?_⟩
  exact (hlost _ (by simp [hbefore])).mp (by simp [hafter])

/-- A mention that has an entry for the value comes before a scalar without one. The finding of the scalar's
summary is lost as soon as the mention is shown. -/
theorem lost_to_earlier_mention :
    let table : Table := ⟨["a"], [⟨1, 2, [("a", "x")]⟩]⟩
    let mention : Mention := ⟨"a", some ⟨[("x", "X")], by decide⟩, ""⟩
    let scalar : Item := .scalar ⟨"a", "A", some ⟨[("y", "Y")], by decide⟩, ""⟩
    let behind (item : Item) : Spec := ⟨none, none, [], ["a"], [item, scalar], ⟨false, false, true, false⟩⟩
    (∀ item ∈ [Item.hidden mention, .other mention], ∀ p ∈ (behind item).references,
        p ∈ table.properties) ∧
      (∃ less more, render table (behind (.hidden mention)) { includeHidden := false } = .ok less ∧
        render table (behind (.hidden mention)) { includeHidden := true } = .ok more ∧
        ∃ w ∈ less.warnings, w ∉ more.warnings) ∧
      ∃ less more, render table (behind (.other mention)) { excludeOther := true } = .ok less ∧
        render table (behind (.other mention)) { excludeOther := false } = .ok more ∧
        ∃ w ∈ less.warnings, w ∉ more.warnings := by
  intro table mention scalar behind
  exact ⟨by decide, ⟨_, _, rfl, rfl, .missingEntry "a" "x", by decide +kernel, by decide +kernel⟩,
    _, _, rfl, rfl, .missingEntry "a" "x", by decide +kernel, by decide +kernel⟩

end Report
end RecordReport
