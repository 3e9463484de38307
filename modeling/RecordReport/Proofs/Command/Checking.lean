import RecordReport.Proofs.Command.Outcome
import RecordReport.Proofs.Report.Findings

/-!
# What a check says of a report

A check and the report of the same files fail together and have the same findings.
-/

namespace RecordReport.Command

/-- The check of what is to be rendered. -/
def RenderRequest.check (r : RenderRequest) : CheckRequest :=
  ⟨r.data, r.template, r.excludeOther, r.includeHidden⟩

/-- The failure of a check where a report fails. The cause stays what it is. -/
def Failure.asChecked : Failure → Failure
  | .render path cause => .check path cause
  | failure => failure

theorem selects_check (r : RenderRequest) (now : Timestamp) : (r.options now).Selects r.check.options :=
  ⟨rfl, rfl⟩

/-! ## Files -/

theorem inputsAt_eq_of_read {disk disk' : Disk} {data : String} {template : Option String}
    (h : ∀ path ∈ data :: template.toList, disk'.read path = disk.read path) :
    inputsAt disk' data template = inputsAt disk data template := by
  rw [inputsAt, inputsAt, tableAt_eq_of_read (h data List.mem_cons_self)]
  cases template with
  | none => rfl
  | some path =>
      dsimp only
      rw [specAt_eq_of_read (h path (by simp))]

theorem asChecked_of_inputsAt {disk : Disk} {data : String} {template : Option String} {failure : Failure}
    (h : inputsAt disk data template = .error failure) : failure.asChecked = failure := by
  cases htable : tableAt disk data with
  | error cause =>
      simp only [inputsAt, htable] at h
      cases h
      rfl
  | ok table =>
      simp only [inputsAt, htable] at h
      cases template with
      | none => cases h
      | some path =>
          cases hspec : Template.specAt disk path with
          | ok spec =>
              simp only [hspec] at h
              cases h
          | error cause =>
              simp only [hspec] at h
              cases h
              rfl

theorem findingsAt_check (disk : Disk) (now : Timestamp) (r : RenderRequest) :
    (findingsAt disk r.check).map (·.2) =
      ((reportAt disk now r).map (·.warnings)).mapError Failure.asChecked := by
  rw [findingsAt, reportAt]
  cases hinputs : inputsAt disk r.data r.template with
  | error failure =>
      rw [show inputsAt disk r.check.data r.check.template = _ from hinputs]
      exact congrArg Except.error (asChecked_of_inputsAt hinputs).symm
  | ok inputs =>
      rw [show inputsAt disk r.check.data r.check.template = _ from hinputs]
      have hwarnings := Report.map_warnings_render inputs.table inputs.spec (selects_check r now)
      calc
        _ = ((Report.render inputs.table inputs.spec r.check.options).map (·.warnings)).mapError
            (.check r.data) := by
          change Except.map _ (Except.mapError (Failure.check r.check.data) _ >>= _) = _
          cases Report.render inputs.table inputs.spec r.check.options <;> rfl
        _ = ((Report.render inputs.table inputs.spec (r.options now)).map (·.warnings)).mapError
            (.check r.data) := by rw [hwarnings]
        _ = _ := by
          change _ = Except.mapError _ (Except.map _ (Except.mapError (Failure.render r.data) _))
          cases Report.render inputs.table inputs.spec (r.options now) <;> rfl

/-! ## Commands -/

variable {s t : Session} {r : RenderRequest}

/-- With the report at hand only its output can fail. -/
theorem runRender_eq_ok_or_output {report : Report.Rendered}
    (hspares : ∀ path ∈ r.template, s.Spares path) (h : reportAt s.disk s.now r = .ok report) :
    (runRender r s).1 = .ok () ∨
      ∃ path ∈ r.output, ∃ cause, (runRender r s).1 = .error (.output path cause) := by
  obtain ⟨u, -, hresult, -⟩ := runRender_of_ok hspares h
  rw [hresult]
  cases houtput : r.output with
  | none => exact .inl rfl
  | some path =>
      cases hwrite : u.disk.write path (Text.encode report.html) with
      | ok written => exact .inl (by rw [writeOutput_of_write hwrite])
      | error cause => exact .inr ⟨path, rfl, cause, by rw [writeOutput_of_error hwrite]⟩

/-- A check of the same files fails if and only if there is no report, for the same cause, and lists the
findings of the report in their order. The title, the time and the place written to do not matter. -/
theorem check_predicts_render
    (hread : ∀ path ∈ r.data :: r.template.toList, t.disk.read path = s.disk.read path)
    (hs : ∀ path ∈ r.template, s.Spares path) (ht : ∀ path ∈ r.template, t.Spares path) :
    (∀ failure, (reportFor r s).1 = .error failure →
      (findingsFor r.check t).1 = .error failure.asChecked ∧
      (runRender r s).1 = .error failure ∧ (runCheck r.check t).1 = .error failure.asChecked) ∧
    (∀ report, (reportFor r s).1 = .ok report →
      ∃ inputs, inputsAt s.disk r.data r.template = .ok inputs ∧
        (findingsFor r.check t).1 = .ok (inputs, report.warnings) ∧
        ((runRender r s).1 = .ok () ∨
          ∃ path ∈ r.output, ∃ cause, (runRender r s).1 = .error (.output path cause)) ∧
        (runCheck r.check t).1 = .ok () ∧
        (runCheck r.check t).2.stdout = t.stdout ++ summaryText r.check inputs report.warnings) ∧
    ∀ inputs, inputsAt s.disk r.data r.template = .ok inputs →
      ∀ (σ : Type) (sink : Writer σ Empty) (start : σ),
        (Report.renderInto sink start inputs.table inputs.spec r.check.options).2 =
          (Report.renderInto Writer.memory [] inputs.table inputs.spec (r.options s.now)).2 := by
  have hinputs : inputsAt t.disk r.data r.template = inputsAt s.disk r.data r.template :=
    inputsAt_eq_of_read hread
  have hfindings : findingsAt t.disk r.check = findingsAt s.disk r.check := by
    rw [findingsAt, findingsAt]
    exact congrArg (· >>= _) hinputs
  have hcheck := findingsAt_check s.disk s.now r
  rw [← hfindings] at hcheck
  rw [(gives_reportFor r hs).result, (gives_findingsFor r.check ht).result]
  refine ⟨fun failure hfailure => ?_, fun report hreport => ?_, fun inputs _ σ sink start => ?_⟩
  · rw [hfailure] at hcheck
    have herror : findingsAt t.disk r.check = .error failure.asChecked := eq_error_of_map hcheck
    exact ⟨herror, (gives_runRender_of_error hs hfailure).result,
      (gives_runCheck_of_error ht herror).result⟩
  · rw [hreport] at hcheck
    obtain ⟨⟨inputs, warnings⟩, hfound, hwarnings⟩ := exists_of_map_eq_ok hcheck
    obtain rfl : warnings = report.warnings := hwarnings
    obtain ⟨hresult, hlogged⟩ := runCheck_of_ok ht hfound
    obtain ⟨loaded, hloaded, h⟩ := exists_of_bind_eq_ok hfound
    obtain ⟨_, -, h⟩ := exists_of_bind_eq_ok h
    obtain rfl : loaded = inputs := congrArg Prod.fst (Except.ok.inj h)
    exact ⟨loaded, hinputs ▸ hloaded, hfound, runRender_eq_ok_or_output hs hreport, hresult,
      hlogged.stdout_eq⟩
  · rw [Report.renderInto_eq, Report.renderInto_eq,
      Report.map_warnings_render inputs.table inputs.spec (selects_check r s.now)]

/-- Two findings of a report that has a title and a time, and a property that the data does not have. -/
theorem check_predicts_render_findings :
    let files : Disk := ⟨[(["d.csv"], .file (Text.encode "a,b\n1,2\n")),
      (["t.csv"], .file (Text.encode "Label,Property,Enumeration\n_IDENTIFIER,a\nA,a,x=y\n")),
      (["u.csv"], .file (Text.encode "Label,Property\n_IDENTIFIER,c\n"))]⟩
    let s : Session := { disk := files, logging := ⟨{}, []⟩, now := ⟨2024, 1, 2, 3, 4, 5⟩ }
    let t : Session := { s with stdout := "Before\n", now := ⟨1, 1, 1, 1, 1, 1⟩ }
    let r : RenderRequest :=
      ⟨"d.csv", some "t.csv", some "o.html", some "T", true, true, true, false, .json⟩
    let astray : RenderRequest := { r with template := some "u.csv" }
    (∃ report inputs, (reportFor r s).1 = .ok report ∧
      (findingsFor r.check t).1 = .ok (inputs, report.warnings) ∧
      (runCheck r.check t).2.stdout = "Before\n" ++ summaryText r.check inputs report.warnings) ∧
    (runRender astray s).1 = .error (.render "d.csv" (.missingProperty "c")) ∧
    (runCheck astray.check t).1 = .error (.check "d.csv" (.missingProperty "c")) := by
  intro files s t r astray
  have hdata : files.locate "d.csv" = .ok ["d.csv"] :=
    Disk.locate_of_valid (by decide) (by decide) (by decide)
  have htemplate : files.locate "t.csv" = .ok ["t.csv"] :=
    Disk.locate_of_valid (by decide) (by decide) (by decide)
  have hother : files.locate "u.csv" = .ok ["u.csv"] :=
    Disk.locate_of_valid (by decide) (by decide) (by decide)
  have htable := tableAt_of_read (Disk.read_of_entry hdata rfl rfl)
  have hs (path : String) : s.Spares path := .of_no_file rfl
  have ht (path : String) : t.Spares path := .of_no_file rfl
  constructor
  · obtain ⟨report, hreport⟩ : ∃ report, reportAt files s.now r = .ok report := by
      have hspec := specAt_of_read (Disk.read_of_entry htemplate rfl rfl)
      simp only [reportAt, inputsAt, htable, hspec, r]
      exact ⟨_, by rfl⟩
    rw [← (gives_reportFor (s := s) r fun path _ => hs path).result] at hreport
    obtain ⟨inputs, -, hfound, -, -, hstdout⟩ := (check_predicts_render (s := s) (t := t) (fun _ _ => rfl)
      (fun path _ => hs path) fun path _ => ht path).2.1 report hreport
    exact ⟨report, inputs, hreport, hfound, hstdout⟩
  · have hfailure : reportAt files s.now astray = .error (.render "d.csv" (.missingProperty "c")) := by
      have hspec := specAt_of_read (Disk.read_of_entry hother rfl rfl)
      simp only [reportAt, inputsAt, htable, hspec, r, astray]
      rfl
    rw [← (gives_reportFor (s := s) astray fun path _ => hs path).result] at hfailure
    exact ((check_predicts_render (s := s) (t := t) (fun _ _ => rfl) (fun path _ => hs path)
      fun path _ => ht path).1 _ hfailure).2

end RecordReport.Command
