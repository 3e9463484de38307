import RecordReport.Proofs.Csv.Boundaries
import RecordReport.Proofs.Csv.LineEnds
import RecordReport.Proofs.Template.Rows
import RecordReport.Template.Parse

/-!
# Line ends and empty lines

A template says the same whatever ends its lines, and an empty line in it says what a row of blank fields
says.
-/

namespace RecordReport

/-- The text with another line end for each line feed. -/
def Text.withLineEnds (ending text : String) : String :=
  String.ofList (text.toList.flatMap fun c => if c = '\n' then ending.toList else [c])

theorem Text.encode_withLineEnds (ending text : String) :
    encode (withLineEnds ending text) = Csv.withEnds (encode ending) (encode text) := by
  rw [withLineEnds, Csv.encode_ofList, encode_eq text, Csv.withEnds, List.flatMap_assoc,
    List.flatMap_assoc]
  refine List.flatMap_congr fun c _ => ?_
  by_cases hc : c = '\n'
  · subst hc
    rw [if_pos rfl, ← encode_eq]
    simp [String.utf8EncodeChar]
  · have hbytes : ∀ b ∈ String.utf8EncodeChar c, b ≠ 10 := by
      rintro b hb rfl
      exact hc (Char.toNat_inj.mp (toNat_of_mem_utf8EncodeChar hb (by decide)))
    rw [if_neg hc, List.flatMap_singleton, List.flatMap_congr fun b hb => if_neg (hbytes b hb),
      List.flatMap_singleton']

namespace Template

/-! ## Rows after the first -/

/-- The first row says nothing. -/
theorem parse_eq_of_tail {rows others : List Csv.Row} (h : rows.tail = others.tail) :
    parse rows = parse others := by
  rw [parse, parse, read, read, h]

theorem exists_rows_of_text (text : String) :
    ∃ rows, parseText text = parse rows ∧ rows.tail = Csv.laterRows (Text.encode text) := by
  obtain ⟨rows, hrows⟩ := Csv.exists_readRows .keep text
  refine ⟨rows, ?_, Csv.tail_of_readRows_keep hrows⟩
  simp [parseText, parseBytes, rowsOf, RecordReport.rowsOf, hrows, Except.mapError, bind, Except.bind]

theorem parseText_eq_of_laterRows {text other : String}
    (h : Csv.laterRows (Text.encode text) = Csv.laterRows (Text.encode other)) :
    parseText text = parseText other := by
  obtain ⟨rows, hrows, htail⟩ := exists_rows_of_text text
  obtain ⟨others, hothers, htail'⟩ := exists_rows_of_text other
  rw [hrows, hothers]
  exact parse_eq_of_tail (by rw [htail, htail', h])

/-! ## Line ends -/

theorem parseText_withEnds {text : String} (hreturn : '\r' ∉ text.toList) (hquote : '"' ∉ text.toList)
    {ending : String} (hending : Csv.IsEnding (Text.encode ending)) :
    parseText (Text.withLineEnds ending text) = parseText text := by
  have hbyte {c : Char} (hc : c ∉ text.toList) (hascii : c.toNat < 128) :
      UInt8.ofNat c.toNat ∉ Text.encode text := by
    intro hmem
    have hnat : (UInt8.ofNat c.toNat).toNat = c.toNat := by
      rw [UInt8.toNat_ofNat', Nat.mod_eq_of_lt (by omega)]
    obtain ⟨d, hd, hsame⟩ := Text.mem_of_mem_encode hmem (by omega)
    rw [hnat] at hsame
    exact hc (Char.toNat_inj.mp hsame ▸ hd)
  refine parseText_eq_of_laterRows ?_
  rw [Text.encode_withLineEnds]
  exact Csv.laterRows_withEnds hending (hbyte hreturn (by decide)) (hbyte hquote (by decide))

/-- Without quotes, a template is read alike with line feeds, with carriage returns, and with both. -/
theorem parseText_withLineEnds {text : String} (hreturn : '\r' ∉ text.toList)
    (hquote : '"' ∉ text.toList) :
    parseText (Text.withLineEnds "\r\n" text) = parseText text ∧
      parseText (Text.withLineEnds "\r" text) = parseText text :=
  ⟨parseText_withEnds hreturn hquote (Or.inr rfl), parseText_withEnds hreturn hquote (Or.inl rfl)⟩

/-- Two empty lines end a group, and the fault after them has the same line. -/
theorem parseText_withLineEnds_fault :
    let text := "Label,Property\nGroup\n,a\n\n\n,b\n_SORT\n"
    '\r' ∉ text.toList ∧ '"' ∉ text.toList ∧ parseText text = .error (.missingParameter 7 "_SORT") ∧
      parseText (Text.withLineEnds "\r\n" text) = parseText text ∧
        parseText (Text.withLineEnds "\r" text) = parseText text := by
  intro text
  have hreturn : '\r' ∉ text.toList := by decide
  have hquote : '"' ∉ text.toList := by decide
  exact ⟨hreturn, hquote, by rfl, parseText_withLineEnds hreturn hquote⟩

/-! ## Blank rows -/

theorem means_noFields : Means [] .blank := fun _ => rfl

namespace Progress

/-- A blank row closes the group that is open and does nothing else. -/
theorem feed_of_blank {row : Csv.Row} (h : Line.ofRow row = .ok .blank) (p : Progress) :
    p.feed row = .ok ⟨.idle, p.complete, p.ignored⟩ := by
  rw [feed, h, complete]
  cases p.grouping <;> rfl

theorem feedAll_append (p : Progress) (rows others : List Csv.Row) :
    p.feedAll (rows ++ others) =
      match p.feedAll rows with
      | (q, none) => q.feedAll others
      | (q, some fault) => (q, some fault) := by
  induction rows generalizing p with
  | nil => rfl
  | cons row rows ih =>
      rw [List.cons_append, feedAll, feedAll]
      cases p.feed row with
      | error _ => rfl
      | ok next => exact ih next

theorem feedAll_of_blanks {rows : List Csv.Row} (h : ∀ row ∈ rows, Line.ofRow row = .ok .blank)
    (p : Progress) : ∃ q, p.feedAll rows = (q, none) ∧ q.complete = p.complete := by
  induction rows generalizing p with
  | nil => exact ⟨p, rfl, rfl⟩
  | cons row rows ih =>
      obtain ⟨hrow, hrows⟩ := List.forall_mem_cons.mp h
      rw [feedAll, feed_of_blank hrow]
      exact ih hrows ⟨.idle, p.complete, p.ignored⟩

end Progress

/-- Blank rows at the end say nothing. -/
theorem parse_append_blanks (header : Csv.Row) (rows : List Csv.Row) {blanks : List Csv.Row}
    (h : ∀ row ∈ blanks, Line.ofRow row = .ok .blank) :
    parse (header :: (rows ++ blanks)) = parse (header :: rows) := by
  rw [parse, parse, read, read, List.tail_cons, List.tail_cons, Progress.feedAll_append]
  cases ({} : Progress).feedAll rows with
  | mk p fault =>
      cases fault with
      | some _ => rfl
      | none =>
          obtain ⟨q, hq, hcomplete⟩ := Progress.feedAll_of_blanks h p
          simp only [hq, hcomplete]

/-- One blank row is as good as another. -/
theorem parse_replace_blank (header : Csv.Row) (before later : List Csv.Row) {row other : Csv.Row}
    (hrow : Line.ofRow row = .ok .blank) (hother : Line.ofRow other = .ok .blank) :
    parse (header :: (before ++ row :: later)) = parse (header :: (before ++ other :: later)) := by
  have hfeed (p : Progress) : p.feedAll (row :: later) = p.feedAll (other :: later) := by
    rw [Progress.feedAll, Progress.feedAll, Progress.feed_of_blank hrow, Progress.feed_of_blank hother]
  rw [parse, parse, read, read, List.tail_cons, List.tail_cons, Progress.feedAll_append,
    Progress.feedAll_append]
  simp only [hfeed]

/-- After a line that ends outside quotes, an empty line is a row of blank fields. -/
theorem parseText_emptyLine {before : String} (hend : before.toList.getLast? = some '\n')
    (hquote : Csv.stateAfter (Text.encode before) ≠ .quoted)
    (hrecord : Csv.records (Text.encode before) ≠ []) (after : String) :
    parseText (before ++ "\n" ++ after) = parseText (before ++ ",,,\n" ++ after) := by
  have hlast : (Text.encode before).getLast? = some 10 := by
    obtain ⟨cs, hcs⟩ := List.getLast?_eq_some_iff.mp hend
    rw [Text.encode_eq, hcs, List.flatMap_append]
    exact List.getLast?_concat
  obtain ⟨rows, hrows, htail⟩ := exists_rows_of_text (before ++ "\n" ++ after)
  obtain ⟨others, hothers, htail'⟩ := exists_rows_of_text (before ++ ",,,\n" ++ after)
  have hfeed : Text.encode (before ++ "\n" ++ after) =
      Text.encode before ++ [10] ++ Text.encode after := by
    rw [Text.encode_append, Text.encode_append]
    rfl
  have hcommas : Text.encode (before ++ ",,,\n" ++ after) =
      Text.encode before ++ Csv.blankLine ++ Text.encode after := by
    rw [Text.encode_append, Text.encode_append]
    rfl
  have hheader (rows : List Csv.Row) : parse rows = parse (⟨1, []⟩ :: rows.tail) :=
    parse_eq_of_tail rfl
  rw [hrows, hothers, hheader rows, hheader others, htail, htail', hfeed, hcommas]
  rcases Csv.laterRows_blankLine hlast hquote hrecord (Text.encode after) with
    ⟨hsame, hmore⟩ | ⟨later, hempty, hblank⟩
  · rw [hsame, hmore]
    refine (parse_append_blanks _ _ fun row hrow => ?_).symm
    rcases List.mem_append.mp hrow with hrow | hrow
    · obtain ⟨line, fields⟩ := row
      obtain rfl : fields = [] := Csv.fields_of_mem_emptyRows hrow
      exact means_noFields line
    · rw [List.mem_singleton.mp hrow]
      exact means_blankRow _
  · rw [hempty, hblank]
    exact parse_replace_blank _ _ _ (means_noFields _) (means_blankRow _)

/-- A line feed inside quotes before the empty line, and a fault after it. -/
theorem parseText_emptyLine_quotes :
    let before := "Label,Property\nGroup\n\"A\nB\",a\n"
    let after := "\n,b\n_SORT\n"
    before.toList.getLast? = some '\n' ∧ Csv.stateAfter (Text.encode before) ≠ .quoted ∧
      Csv.records (Text.encode before) ≠ [] ∧
      parseText (before ++ "\n" ++ after) = .error (.missingParameter 8 "_SORT") ∧
      parseText (before ++ "\n" ++ after) = parseText (before ++ ",,,\n" ++ after) := by
  intro before after
  have hend : before.toList.getLast? = some '\n' := by decide
  have hquote : Csv.stateAfter (Text.encode before) ≠ .quoted := by decide
  have hrecord : Csv.records (Text.encode before) ≠ [] := by decide
  have htext : before ++ "\n" ++ after = "Label,Property\nGroup\n\"A\nB\",a\n\n\n,b\n_SORT\n" := by
    decide
  have hfault : parseText (before ++ "\n" ++ after) = .error (.missingParameter 8 "_SORT") := by
    rw [htext]
    rfl
  exact ⟨hend, hquote, hrecord, hfault, parseText_emptyLine hend hquote hrecord after⟩

end Template
end RecordReport
