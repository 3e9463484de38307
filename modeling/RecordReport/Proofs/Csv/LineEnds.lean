import RecordReport.Proofs.Csv.Places

/-!
# Other line ends

Outside quotes, a record is the same whether its line ends with a line feed, a carriage return or both, and
so is the number of lines before it.
-/

namespace RecordReport.Csv

/-- A line end other than a line feed. -/
def IsEnding (ending : Bytes) : Prop := ending = [13] ∨ ending = [13, 10]

/-- The bytes with another line end for each line feed. -/
def withEnds (ending bytes : Bytes) : Bytes := bytes.flatMap fun b => if b = 10 then ending else [b]

section Ending

variable {ending : Bytes}

theorem withEnds_append (xs ys : Bytes) :
    withEnds ending (xs ++ ys) = withEnds ending xs ++ withEnds ending ys :=
  List.flatMap_append

theorem withEnds_lineFeed : withEnds ending [10] = ending := by simp [withEnds]

theorem withEnds_singleton {b : UInt8} (h : b ≠ 10) : withEnds ending [b] = [b] := by
  simp [withEnds, h]

theorem withEnds_lineFeed_cons (bytes : Bytes) :
    withEnds ending (10 :: bytes) = ending ++ withEnds ending bytes := by
  simp [withEnds]

theorem withEnds_cons {b : UInt8} (h : b ≠ 10) (bytes : Bytes) :
    withEnds ending (b :: bytes) = b :: withEnds ending bytes := by
  simp [withEnds, h]

theorem IsEnding.ne_nil (h : IsEnding ending) : ending ≠ [] := by
  rcases h with rfl | rfl <;> simp

theorem IsEnding.isBreak (h : IsEnding ending) : ∀ b ∈ ending, isBreak b = true := by
  rcases h with rfl | rfl
  · exact List.forall_mem_singleton.mpr rfl
  · exact List.forall_mem_cons.mpr ⟨rfl, isBreak_lineFeed⟩

/-! ## Lines -/

/-- No line end is taken together with what follows it. -/
theorem IsEnding.apart (h : IsEnding ending) (bytes : Bytes) :
    Apart ending (withEnds ending bytes) := by
  rcases h with rfl | rfl
  · refine Or.inr ?_
    cases bytes with
    | nil => simp [withEnds]
    | cons b bytes =>
        by_cases hb : b = 10
        · simp [hb, withEnds_lineFeed_cons]
        · simp [hb, withEnds_cons]
  · exact Or.inl (by simp)

theorem lineBreaks_withEnds (h : IsEnding ending) {bytes : Bytes} (hbytes : 13 ∉ bytes) :
    lineBreaks (withEnds ending bytes) = lineBreaks bytes := by
  induction bytes with
  | nil => rfl
  | cons b bytes ih =>
      have hb := List.ne_of_not_mem_cons hbytes
      replace hbytes := List.not_mem_of_not_mem_cons hbytes
      by_cases hfeed : b = 10
      · subst hfeed
        have hone : lineBreaks ending = 1 := by rcases h with rfl | rfl <;> rfl
        rw [withEnds_lineFeed_cons, lineBreaks_append (h.apart bytes), ih hbytes, hone]
        rfl
      · rw [withEnds_cons hfeed, lineBreaks, lineBreaks, ih hbytes]
        simp [hfeed, Ne.symm hb]

theorem trailingBreaks_withEnds (h : IsEnding ending) (bytes : Bytes) :
    trailingBreaks (withEnds ending bytes) = withEnds ending (trailingBreaks bytes) := by
  induction bytes using List.reverseRecOn with
  | nil => rfl
  | append_singleton bytes b ih =>
      rw [withEnds_append]
      by_cases hfeed : b = 10
      · subst hfeed
        rw [withEnds_lineFeed, trailingBreaks_append_breaks _ h.isBreak, ih,
          trailingBreaks_append_breaks _ isBreak_lineFeed, withEnds_append, withEnds_lineFeed]
      · rw [withEnds_singleton hfeed]
        cases hb : isBreak b with
        | true =>
            have hall : ∀ c ∈ [b], isBreak c = true := by simpa using hb
            rw [trailingBreaks_append_breaks _ hall, ih, trailingBreaks_append_breaks _ hall,
              withEnds_append, withEnds_singleton hfeed]
        | false =>
            have hsome : ∃ c ∈ [b], isBreak c = false := ⟨b, by simp, hb⟩
            have hnone : trailingBreaks [b] = [] := by simp [trailingBreaks, hb]
            rw [trailingBreaks_append_content _ hsome, trailingBreaks_append_content _ hsome, hnone]
            rfl

/-- The row of a record and the empty lines before it. -/
theorem rows_withEnds (h : IsEnding ending) {before : Bytes} (hbefore : 13 ∉ before)
    (fields : List Bytes) :
    (⟨withEnds ending before, fields⟩ : Placed).rows = (⟨before, fields⟩ : Placed).rows := by
  have htrailing : 13 ∉ trailingBreaks before := by
    intro hmem
    exact hbefore (List.mem_reverse.mp ((List.takeWhile_sublist _).subset (List.mem_reverse.mp hmem)))
  simp only [Placed.rows, Placed.line]
  rw [trailingBreaks_withEnds h, lineBreaks_withEnds h hbefore, lineBreaks_withEnds h htrailing]

/-! ## Records -/

/-- The reader is outside quotes. -/
def State.Unquoted (s : State) : Prop := s ≠ .quoted ∧ s ≠ .quoteSeen

theorem step_of_isBreak {s : State} (hs : s.Unquoted) {b : UInt8} (hb : isBreak b = true) :
    s.step (Symbol.ofByte b) = if s = .recordStart then .skip .recordStart else .endRecord := by
  have hor : b = 10 ∨ b = 13 := by simpa [isBreak] using hb
  obtain ⟨hquoted, hseen⟩ := hs
  cases s with
  | quoted => exact absurd rfl hquoted
  | quoteSeen => exact absurd rfl hseen
  | recordStart | fieldStart | bare => rcases hor with rfl | rfl <;> rfl

namespace Current

/-- The record that a line end completes, if it has begun. -/
def ended (c : Current) (s : State) : List Placed := if s = .recordStart then [] else [c.placed]

/-- Before the record that begins after some breaks. -/
def past (c : Current) (s : State) (breaks : Bytes) : Current :=
  if s = .recordStart then { c with before := c.before ++ breaks }
  else { before := c.before ++ c.taken ++ breaks }

def withEnds (ending : Bytes) (c : Current) : Current :=
  { c with before := Csv.withEnds ending c.before, taken := Csv.withEnds ending c.taken }

theorem past_withEnds (c : Current) (s : State) :
    (c.withEnds ending).past s ending = (c.past s [10]).withEnds ending := by
  rw [past, past]
  split <;> simp [withEnds, withEnds_append, withEnds_lineFeed]
  rfl

theorem keep_withEnds (c : Current) {b : UInt8} (hb : b ≠ 10) :
    (c.withEnds ending).keep b = (c.keep b).withEnds ending := by
  simp [withEnds, keep, withEnds_append, withEnds_singleton hb]

theorem endField_withEnds (c : Current) {b : UInt8} (hb : b ≠ 10) :
    (c.withEnds ending).endField b = (c.endField b).withEnds ending := by
  simp [withEnds, endField, withEnds_append, withEnds_singleton hb]

end Current

theorem placedFrom_recordStart_breaks {breaks : Bytes} (h : ∀ b ∈ breaks, isBreak b = true)
    (c : Current) (rest : Bytes) :
    placedFrom .recordStart c (breaks ++ rest) =
      placedFrom .recordStart { c with before := c.before ++ breaks } rest := by
  induction breaks generalizing c with
  | nil => simp
  | cons b breaks ih =>
      obtain ⟨hb, hbreaks⟩ := List.forall_mem_cons.mp h
      rw [List.cons_append, placedFrom, step_recordStart_of_isBreak hb]
      simp only [Current.skip, if_true]
      rw [ih hbreaks]
      simp

/-- Outside quotes, breaks complete a record that has begun and nothing else. -/
theorem placedFrom_breaks {s : State} (hs : s.Unquoted) {breaks : Bytes}
    (h : ∀ b ∈ breaks, isBreak b = true) (hne : breaks ≠ []) (c : Current) (rest : Bytes) :
    placedFrom s c (breaks ++ rest) =
      c.ended s ++ placedFrom .recordStart (c.past s breaks) rest := by
  by_cases hstart : s = .recordStart
  · subst hstart
    exact placedFrom_recordStart_breaks h c rest
  · cases breaks with
    | nil => exact absurd rfl hne
    | cons b breaks =>
        obtain ⟨hb, hbreaks⟩ := List.forall_mem_cons.mp h
        rw [List.cons_append, placedFrom, step_of_isBreak hs hb, if_neg hstart]
        simp only [placedFrom_recordStart_breaks hbreaks, Current.ended, Current.past, Current.next,
          if_neg hstart]
        simp

/-- Outside quotes, a byte that is no quote and no break ends a field or is kept. -/
theorem step_of_plain {s : State} (hs : s.Unquoted) {b : UInt8} (hbreak : isBreak b = false)
    (hquote : b ≠ 34) :
    s.step (Symbol.ofByte b) = .endField ∨ s.step (Symbol.ofByte b) = .keep .bare := by
  obtain ⟨hquoted, hseen⟩ := hs
  have hsymbol : Symbol.ofByte b = .comma ∨ Symbol.ofByte b = .other := by
    grind [Symbol.ofByte, isBreak]
  cases s with
  | quoted => exact absurd rfl hquoted
  | quoteSeen => exact absurd rfl hseen
  | recordStart | fieldStart | bare => rcases hsymbol with h | h <;> simp [h, State.step]

/-- Without quotes and carriage returns, the rows are the same with other line ends. -/
theorem rows_placedFrom_withEnds (h : IsEnding ending) {bytes : Bytes} (hreturn : 13 ∉ bytes)
    (hquote : 34 ∉ bytes) {s : State} (hs : s.Unquoted) {c : Current} (hbefore : 13 ∉ c.before)
    (htaken : 13 ∉ c.taken) :
    (placedFrom s (c.withEnds ending) (withEnds ending bytes)).map Placed.rows =
      (placedFrom s c bytes).map Placed.rows := by
  have hrow {c : Current} (hc : 13 ∉ c.before) : (c.withEnds ending).placed.rows = c.placed.rows :=
    rows_withEnds h hc _
  induction bytes generalizing s c with
  | nil =>
      rw [withEnds, List.flatMap_nil, placedFrom, placedFrom]
      split
      · rfl
      · rw [List.map_singleton, hrow hbefore, List.map_singleton]
  | cons b bytes ih =>
      have hb := List.ne_of_not_mem_cons hreturn
      have hb' := List.ne_of_not_mem_cons hquote
      replace hreturn := List.not_mem_of_not_mem_cons hreturn
      replace hquote := List.not_mem_of_not_mem_cons hquote
      by_cases hfeed : b = 10
      · subst hfeed
        have hended : ((c.withEnds ending).ended s).map Placed.rows = (c.ended s).map Placed.rows := by
          rw [Current.ended, Current.ended]
          split
          · rfl
          · rw [List.map_singleton, hrow hbefore, List.map_singleton]
        have hpast : 13 ∉ (c.past s [10]).before ∧ 13 ∉ (c.past s [10]).taken := by
          rw [Current.past]
          split <;> simp [hbefore, htaken]
        -- A line end is read as a whole, also where its first byte completes the record.
        rw [withEnds_lineFeed_cons, ← List.singleton_append (l := bytes),
          placedFrom_breaks hs h.isBreak h.ne_nil, placedFrom_breaks hs isBreak_lineFeed (by simp),
          Current.past_withEnds, List.map_append, List.map_append, hended,
          ih hreturn hquote ⟨by simp, by simp⟩ hpast.1 hpast.2]
      · have hbreak : isBreak b = false := by simp [isBreak, hfeed, Ne.symm hb]
        have hmore : 13 ∉ c.taken ++ [b] := by simp [htaken, hb]
        rw [withEnds_cons hfeed, placedFrom, placedFrom]
        rcases step_of_plain hs hbreak (Ne.symm hb') with hstep | hstep
        · simp only [hstep, Current.endField_withEnds c hfeed]
          exact ih hreturn hquote ⟨by simp, by simp⟩ hbefore hmore
        · simp only [hstep, Current.keep_withEnds c hfeed]
          exact ih hreturn hquote ⟨by simp, by simp⟩ hbefore hmore

/-! ## Files -/

theorem isPrefixOf_withEnds (h : IsEnding ending) {start : Bytes}
    (hstart : ∀ b ∈ start, isBreak b = false) (bytes : Bytes) :
    start.isPrefixOf (withEnds ending bytes) = start.isPrefixOf bytes := by
  induction start generalizing bytes with
  | nil => simp
  | cons a start ih =>
      obtain ⟨ha, hstart⟩ := List.forall_mem_cons.mp hstart
      cases bytes with
      | nil => rfl
      | cons b bytes =>
          by_cases hb : b = 10
          · subst hb
            have hends : (a == 10) = false ∧ (a == 13) = false := by simpa [isBreak] using ha
            rw [withEnds_lineFeed_cons]
            rcases h with rfl | rfl <;> simp [List.isPrefixOf_cons_cons, hends.1, hends.2]
          · rw [withEnds_cons hb, List.isPrefixOf_cons_cons, List.isPrefixOf_cons_cons, ih hstart]

theorem rows_placed_withEnds (h : IsEnding ending) {file : Bytes} (hreturn : 13 ∉ file)
    (hquote : 34 ∉ file) :
    (placed (withEnds ending file)).map Placed.rows = (placed file).map Placed.rows := by
  have hmark : markOf (withEnds ending file) = markOf file := by
    rw [markOf, markOf, isPrefixOf_withEnds h (by simp [markBytes, isBreak])]
  have hself : withEnds ending (markOf file) = markOf file := by
    rw [markOf]
    split <;> rfl
  have hnone : 13 ∉ markOf file := by
    rw [markOf]
    split <;> decide
  have hfile := markOf_append_drop file
  generalize hrest : file.drop (markOf file).length = rest at hfile
  generalize hof : markOf file = mark at *
  subst hfile
  rw [withEnds_append, hself] at hmark ⊢
  rw [placed_eq hmark, placed_eq hof]
  have hreturn : 13 ∉ rest := fun hmem => hreturn (List.mem_append_right _ hmem)
  have hquote : 34 ∉ rest := fun hmem => hquote (List.mem_append_right _ hmem)
  have hstart : State.recordStart.Unquoted := ⟨by simp, by simp⟩
  have hrows := rows_placedFrom_withEnds h hreturn hquote hstart (c := { before := mark }) hnone (by simp)
  rwa [Current.withEnds, hself] at hrows

theorem laterRows_withEnds (h : IsEnding ending) {file : Bytes} (hreturn : 13 ∉ file)
    (hquote : 34 ∉ file) : laterRows (withEnds ending file) = laterRows file := by
  rw [laterRows, laterRows, List.flatMap_def, List.flatMap_def, List.map_tail, List.map_tail,
    rows_placed_withEnds h hreturn hquote]

end Ending
end RecordReport.Csv
