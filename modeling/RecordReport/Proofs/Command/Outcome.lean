import RecordReport.Proofs.Command.Steps

/-!
# What a run leaves behind

All that a run reads, it reads before it puts anything out. A run that fails leaves every file as it was
and prints nothing; one that succeeds prints its text, or puts it into one file.
-/

namespace RecordReport.Command

/-- The text that a request is for. -/
def Request.outputAt (disk : Disk) (now : Timestamp) : Request → Except Failure String
  | .render r => (reportAt disk now r).map (·.html)
  | .template data => templateAt disk data
  | .check r => (findingsAt disk r).map fun found => summaryText r found.1 found.2

/-- The file that the text goes to instead of the standard output. -/
def Request.destination? : Request → Option String
  | .render r => r.output
  | .template _ | .check _ => none

theorem outputAt_render_eq_ok_iff {disk : Disk} {now : Timestamp} {r : RenderRequest} {html : String} :
    (Request.render r).outputAt disk now = .ok html ↔
      ∃ inputs report, inputsAt disk r.data r.template = .ok inputs ∧
        Report.render inputs.table inputs.spec (r.options now) = .ok report ∧ report.html = html := by
  constructor
  · intro h
    obtain ⟨report, hreport, rfl⟩ := exists_of_map_eq_ok h
    obtain ⟨inputs, hinputs, hrender⟩ := exists_of_bind_eq_ok hreport
    exact ⟨inputs, report, hinputs, eq_ok_of_mapError hrender, rfl⟩
  · rintro ⟨inputs, report, hinputs, hrender, rfl⟩
    rw [Request.outputAt, reportAt, hinputs]
    simp [bind, Except.bind, hrender, Except.mapError, Except.map]

/-! ## Commands -/

variable {s : Session}

theorem gives_announce (r : RenderRequest) (warnings : List Report.Warning) :
    (announce r warnings).Gives s (.ok ()) := by
  rw [announce]
  split
  · split
    · exact Action.gives_log _
    · exact Action.gives_pure ()
  · split
    · exact ⟨rfl, rfl, rfl, rfl, .inl rfl⟩
    · exact Action.gives_pure ()

/-- The report is there before the output is touched. -/
theorem gives_runRender_of_error {r : RenderRequest} {failure : Failure}
    (hspares : ∀ path ∈ r.template, s.Spares path) (h : reportAt s.disk s.now r = .error failure) :
    (runRender r).Gives s (.error failure) := by
  refine Action.Gives.within (Action.Gives.bind_error ?_)
  rw [← h, ← s.disk_enter ⟨.commands, "render", [("data", .plain r.data)]⟩,
    ← s.now_enter ⟨.commands, "render", [("data", .plain r.data)]⟩]
  exact gives_reportFor r fun path hpath => (hspares path hpath).enter _

theorem writeOutput_of_write {path html : String} {written : Disk}
    (h : s.disk.write path (Text.encode html) = .ok written) :
    writeOutput (some path) html s = (.ok (), Session.log { s with disk := written }
      ⟨.info, .steps, "wrote report",
        [("path", .plain path), ("bytes", .number (Text.encode html).length)]⟩) := by
  change (Action.ofExcept (.output path) (s.disk.write path (Text.encode html)) >>= _) s = _
  rw [h]
  rfl

theorem writeOutput_of_error {path html : String} {cause : Disk.Failure}
    (h : s.disk.write path (Text.encode html) = .error cause) :
    writeOutput (some path) html s = (.error (.output path cause), s) := by
  change (Action.ofExcept (.output path) (s.disk.write path (Text.encode html)) >>= _) s = _
  rw [h]
  rfl

/-- With the report at hand only the output can fail, and after it there is nothing to do but to log. -/
theorem runRender_of_ok {r : RenderRequest} {report : Report.Rendered}
    (hspares : ∀ path ∈ r.template, s.Spares path) (h : reportAt s.disk s.now r = .ok report) :
    ∃ t, s.Logged t ∧ (runRender r s).1 = (writeOutput r.output report.html t).1 ∧
      (writeOutput r.output report.html t).2.Logged (runRender r s).2 := by
  let span : Log.Span := ⟨.commands, "render", [("data", .plain r.data)]⟩
  have hreport := gives_reportFor (s := s.enter span) r fun path hpath => (hspares path hpath).enter _
  rw [s.disk_enter, s.now_enter, h] at hreport
  obtain ⟨hresult, hlogged⟩ := Action.logged_bind (a := writeOutput r.output report.html)
    (fun _ => gives_announce r report.warnings) (reportFor r (s.enter span)).2
  have hrun : (reportFor r >>= fun report => writeOutput r.output report.html >>= fun _ =>
      announce r report.warnings) (s.enter span) =
      (writeOutput r.output report.html >>= fun _ => announce r report.warnings)
        (reportFor r (s.enter span)).2 := Action.bind_of_ok hreport.result
  rw [← hrun] at hresult hlogged
  exact ⟨_, (Session.Logged.enter s span).trans hreport.logged, hresult, hlogged.trans (.leave _ _)⟩

theorem gives_runCheck_of_error {r : CheckRequest} {failure : Failure}
    (hspares : ∀ path ∈ r.template, s.Spares path) (h : findingsAt s.disk r = .error failure) :
    (runCheck r).Gives s (.error failure) := by
  have hfound := gives_findingsFor (s := s.enter ⟨.commands, "check", [("data", .plain r.data)]⟩) r
    fun path hpath => (hspares path hpath).enter _
  rw [s.disk_enter, h] at hfound
  exact hfound.within.bind_error

theorem runCheck_of_ok {r : CheckRequest} {inputs : Inputs} {warnings : List Report.Warning}
    (hspares : ∀ path ∈ r.template, s.Spares path)
    (h : findingsAt s.disk r = .ok (inputs, warnings)) :
    (runCheck r s).1 = .ok () ∧ (s.print (summaryText r inputs warnings)).Logged (runCheck r s).2 := by
  have hfound := gives_findingsFor (s := s.enter ⟨.commands, "check", [("data", .plain r.data)]⟩) r
    fun path hpath => (hspares path hpath).enter _
  rw [s.disk_enter, h] at hfound
  rw [runCheck, Action.bind_of_ok hfound.within.result]
  exact ⟨rfl, hfound.within.logged.print _⟩

theorem runTemplate_of_ok {data text : String} (h : templateAt s.disk data = .ok text) :
    (runTemplate data s).1 = .ok () ∧ (s.print text).Logged (runTemplate data s).2 := by
  have htext := gives_templateFor (s := s) data
  rw [h] at htext
  rw [runTemplate, Action.bind_of_ok htext.result]
  exact ⟨rfl, htext.logged.print text⟩

/-! ## Requests -/

section Requests

variable {request : Request} {text : String} (hfile : s.logging.settings.file = none)
include hfile

theorem gives_runRequest_of_error {failure : Failure}
    (h : request.outputAt s.disk s.now = .error failure) :
    (runRequest request).Gives s (.error failure) := by
  cases request with
  | render r => exact gives_runRender_of_error (fun _ _ => .of_no_file hfile) (eq_error_of_map h)
  | check r => exact gives_runCheck_of_error (fun _ _ => .of_no_file hfile) (eq_error_of_map h)
  | template data =>
      have htext := gives_templateFor (s := s) data
      rw [show templateAt s.disk data = .error failure from h] at htext
      exact htext.bind_error

/-- Without a file to go to the text is printed. -/
theorem runRequest_printed (h : request.outputAt s.disk s.now = .ok text)
    (hdestination : request.destination? = none) :
    (runRequest request s).1 = .ok () ∧ (s.print text).Logged (runRequest request s).2 := by
  cases request with
  | render r =>
      obtain ⟨report, hreport, rfl⟩ := exists_of_map_eq_ok h
      obtain ⟨t, ht, hresult, hlogged⟩ := runRender_of_ok (fun _ _ => .of_no_file hfile) hreport
      rw [show r.output = none from hdestination] at hresult hlogged
      exact ⟨hresult, (ht.print _).trans hlogged⟩
  | check r =>
      obtain ⟨⟨inputs, warnings⟩, hfound, rfl⟩ := exists_of_map_eq_ok h
      exact runCheck_of_ok (fun _ _ => .of_no_file hfile) hfound
  | template data => exact runTemplate_of_ok h

theorem runRequest_written {path : String} {written : Disk}
    (h : request.outputAt s.disk s.now = .ok text) (hdestination : request.destination? = some path)
    (hwrite : s.disk.write path (Text.encode text) = .ok written) :
    (runRequest request s).1 = .ok () ∧
      Session.Logged { s with disk := written } (runRequest request s).2 := by
  cases request with
  | check _ => cases hdestination
  | template _ => cases hdestination
  | render r =>
      obtain ⟨report, hreport, rfl⟩ := exists_of_map_eq_ok h
      obtain ⟨t, ht, hresult, hlogged⟩ := runRender_of_ok (fun _ _ => .of_no_file hfile) hreport
      have hdisk : t.disk.write path (Text.encode report.html) = .ok written := by
        rw [ht.disk_eq hfile, hwrite]
      rw [show r.output = some path from hdestination, writeOutput_of_write hdisk] at hresult hlogged
      exact ⟨hresult, ((ht.withDisk written).trans (.log _ _)).trans hlogged⟩

theorem runRequest_unwritten {path : String} {cause : Disk.Failure}
    (h : request.outputAt s.disk s.now = .ok text) (hdestination : request.destination? = some path)
    (hwrite : s.disk.write path (Text.encode text) = .error cause) :
    (runRequest request).Gives s (.error (.output path cause)) := by
  cases request with
  | check _ => cases hdestination
  | template _ => cases hdestination
  | render r =>
      obtain ⟨report, hreport, rfl⟩ := exists_of_map_eq_ok h
      obtain ⟨t, ht, hresult, hlogged⟩ := runRender_of_ok (fun _ _ => .of_no_file hfile) hreport
      have hdisk : t.disk.write path (Text.encode report.html) = .error cause := by
        rw [ht.disk_eq hfile, hwrite]
      rw [show r.output = some path from hdestination, writeOutput_of_error hdisk] at hresult hlogged
      exact ⟨hresult, ht.trans hlogged⟩

end Requests

/-! ## Runs -/

/-- What remains of a run that is for a text. -/
def settle (disk : Disk) (destination : Option String) : Except Failure String → Nat × String × Disk
  | .error _ => (1, "", disk)
  | .ok text =>
    match destination with
    | none => (0, text, disk)
    | some path =>
      match disk.write path (Text.encode text) with
      | .error _ => (1, "", disk)
      | .ok written => (0, "", written)

/-- What remains of a run besides its log. -/
def Outcome.lasting (outcome : Outcome) : Nat × String × Disk :=
  (outcome.exitCode, outcome.stdout, outcome.disk)

/-- The session that a run begins with. -/
def sessionOf (env : Environment) (disk : Disk) (i : Invocation) : Session where
  disk := disk
  logging := ⟨settingsOf env i.log, (settingsOf env i.log).filter env.logFilter⟩
  now := env.now

section Invoke

variable {env : Environment} {disk : Disk} {i : Invocation} (h : i.log.file = none)
include h

theorem openLog_of_no_file : openLog disk (settingsOf env i.log) = .ok disk := by
  unfold openLog
  rw [show (settingsOf env i.log).file = none from h]

/-- Whatever the run logged, what remains is that of the session before. -/
theorem lasting_of_logged {v : Session} {result : Except Failure Unit}
    (hresult : (runRequest i.request (sessionOf env disk i)).1 = result)
    (hlogged : v.Logged (runRequest i.request (sessionOf env disk i)).2)
    (hfile : v.logging.settings.file = none) :
    (invoke env disk i).lasting = (if result.isOk then 0 else 1, v.stdout, v.disk) := by
  rcases hrun : runRequest i.request (sessionOf env disk i) with ⟨_, t⟩
  rw [hrun] at hresult hlogged
  have hstdout : t.stdout = v.stdout := hlogged.stdout_eq
  have hdisk : t.disk = v.disk := hlogged.disk_eq hfile
  unfold sessionOf at hrun
  cases result <;> cases hresult <;>
    simp [Outcome.lasting, invoke, openLog_of_no_file h, hrun, hstdout, hdisk, Except.isOk, Except.toBool]

theorem lasting_invoke :
    (invoke env disk i).lasting = settle disk i.request.destination? (i.request.outputAt disk env.now) := by
  have hfile : (sessionOf env disk i).logging.settings.file = none := h
  cases houtput : i.request.outputAt disk env.now with
  | error failure =>
      obtain ⟨hresult, hlogged⟩ := gives_runRequest_of_error hfile houtput
      exact lasting_of_logged h hresult hlogged hfile
  | ok text =>
      cases hdestination : i.request.destination? with
      | none =>
          obtain ⟨hresult, hlogged⟩ := runRequest_printed hfile houtput hdestination
          have hprinted : ((sessionOf env disk i).print text).stdout = text := String.empty_append
          rw [lasting_of_logged h hresult hlogged hfile, hprinted]
          rfl
      | some path =>
          cases hwrite : disk.write path (Text.encode text) with
          | error cause =>
              obtain ⟨hresult, hlogged⟩ := runRequest_unwritten hfile houtput hdestination hwrite
              simp only [settle, hwrite]
              exact lasting_of_logged h hresult hlogged hfile
          | ok written =>
              obtain ⟨hresult, hlogged⟩ := runRequest_written hfile houtput hdestination hwrite
              simp only [settle, hwrite]
              exact lasting_of_logged h hresult hlogged hfile

end Invoke

theorem lasting_run (env : Environment) (disk : Disk) {arguments : List String} {i : Invocation}
    (hargs : parseArguments arguments = .ok i) (hlog : i.log.file = none) :
    (run env disk arguments).lasting =
      settle disk i.request.destination? (i.request.outputAt disk env.now) := by
  have hrun : run env disk arguments = invoke env disk i := by
    unfold run
    rw [hargs]
  rw [hrun]
  exact lasting_invoke hlog

theorem Outcome.eq_of_lasting {outcome : Outcome} {left : Nat × String × Disk}
    (h : outcome.lasting = left) :
    outcome.exitCode = left.1 ∧ outcome.stdout = left.2.1 ∧ outcome.disk = left.2.2 := by
  subst h
  exact ⟨rfl, rfl, rfl⟩

/-- A run without a log file fails before it puts anything out, or puts out all of its text, and changes
no file but the one that the text is for. The text of a report is that of the loaded inputs, whatever is done
with the findings. -/
theorem output_only_on_success (env : Environment) (disk : Disk) {arguments : List String}
    {i : Invocation} (hargs : parseArguments arguments = .ok i) (hlog : i.log.file = none) :
    let outcome := run env disk arguments
    let output := i.request.outputAt disk env.now
    (∀ failure, output = .error failure →
      outcome.exitCode = 1 ∧ outcome.stdout = "" ∧ outcome.disk = disk) ∧
    (∀ text, output = .ok text → i.request.destination? = none →
      outcome.exitCode = 0 ∧ outcome.stdout = text ∧ outcome.disk = disk) ∧
    (∀ text path written, output = .ok text → i.request.destination? = some path →
      disk.write path (Text.encode text) = .ok written →
        outcome.exitCode = 0 ∧ outcome.stdout = "" ∧
        outcome.disk.read path = .ok (Text.encode text) ∧
        (∀ place, disk.locate path ≠ .ok place → outcome.disk.entry? place = disk.entry? place) ∧
        ∀ other content, disk.locate other ≠ disk.locate path → disk.read other = .ok content →
          outcome.disk.read other = .ok content) ∧
    ∀ r, i.request = .render r →
      (∀ html, output = .ok html ↔ ∃ inputs report, inputsAt disk r.data r.template = .ok inputs ∧
        Report.render inputs.table inputs.spec (r.options env.now) = .ok report ∧ report.html = html) ∧
      ∀ arguments' i' noWarnings warningsFormat, parseArguments arguments' = .ok i' →
        i'.log.file = none → i'.request = .render { r with noWarnings, warningsFormat } →
          (run env disk arguments').exitCode = outcome.exitCode ∧
          (run env disk arguments').stdout = outcome.stdout ∧
          (run env disk arguments').disk = outcome.disk := by
  intro outcome output
  have hsettle := lasting_run env disk hargs hlog
  refine ⟨fun failure hfailure => ?_, fun text htext hnone => ?_,
    fun text path written htext hpath hwrite => ?_, fun r hr => ⟨fun html => ?_, ?_⟩⟩
  · rw [show i.request.outputAt disk env.now = .error failure from hfailure, settle] at hsettle
    exact Outcome.eq_of_lasting hsettle
  · rw [show i.request.outputAt disk env.now = .ok text from htext, hnone, settle] at hsettle
    exact Outcome.eq_of_lasting hsettle
  · rw [show i.request.outputAt disk env.now = .ok text from htext, hpath, settle] at hsettle
    simp only [hwrite] at hsettle
    obtain ⟨hexit, hstdout, hdisk⟩ := Outcome.eq_of_lasting hsettle
    have hreplaces := Disk.replaces_of_write hwrite
    refine ⟨hexit, hstdout, ?_, fun place hplace => ?_, fun other content hother hread => ?_⟩
    · exact hdisk ▸ hreplaces.read
    · exact hdisk ▸ hreplaces.entry?_eq hplace
    · exact hdisk ▸ hreplaces.read_other hother hread
  · rw [show output = (Request.render r).outputAt disk env.now from hr ▸ rfl]
    exact outputAt_render_eq_ok_iff
  · intro arguments' i' noWarnings warningsFormat hargs' hlog' hr'
    have hsame := lasting_run env disk hargs' hlog'
    -- Neither the destination nor the text is a function of these two choices.
    rw [hr'] at hsame
    rw [hr] at hsettle
    exact Outcome.eq_of_lasting (hsame.trans hsettle.symm)

/-- The output is the data file itself. It is replaced by a report without a template, and kept where the
template names a property that the data does not have. -/
theorem output_over_data :
    let data := Text.encode "a\n1\n"
    let template := Text.encode "Label\n_IDENTIFIER,b\n"
    let disk : Disk := ⟨[(["d.csv"], .file data), (["t.csv"], .file template)]⟩
    let env : Environment := ⟨none, false, ⟨2024, 1, 2, 3, 4, 5⟩⟩
    let request : RenderRequest := ⟨"d.csv", none, some "d.csv", none, false, false, false, false, .text⟩
    let failed := run env disk ["render", "d.csv", "-t", "t.csv", "-o", "d.csv"]
    let succeeded := run env disk ["render", "d.csv", "-o", "d.csv"]
    (failed.exitCode = 1 ∧ failed.stdout = "" ∧ failed.disk.read "d.csv" = .ok data) ∧
    (succeeded.exitCode = 0 ∧ succeeded.stdout = "" ∧
      ∃ html, (Request.render request).outputAt disk env.now = .ok html ∧
        succeeded.disk.read "d.csv" = .ok (Text.encode html)) := by
  intro data template disk env request failed succeeded
  let log : LogRequest := ⟨0, 0, .auto, none, .pretty, none, false⟩
  have hdata : disk.locate "d.csv" = .ok ["d.csv"] :=
    Disk.locate_of_valid (by decide) (by decide) (by decide)
  have htemplate : disk.locate "t.csv" = .ok ["t.csv"] :=
    Disk.locate_of_valid (by decide) (by decide) (by decide)
  have hread : disk.read "d.csv" = .ok data := Disk.read_of_entry hdata rfl rfl
  constructor
  · let astray : RenderRequest := { request with template := some "t.csv" }
    have hargs : parseArguments ["render", "d.csv", "-t", "t.csv", "-o", "d.csv"] =
        .ok ⟨log, .render astray⟩ := by rfl
    have hfailure : (Request.render astray).outputAt disk env.now =
        .error (.render "d.csv" (.missingProperty "b")) := by
      have htext : Template.specAt disk "t.csv" = Template.parseBytes template :=
        specAt_of_read (Disk.read_of_entry htemplate rfl rfl)
      simp only [Request.outputAt, reportAt, inputsAt, tableAt_of_read hread, astray, request, htext]
      rfl
    obtain ⟨hexit, hstdout, hdisk⟩ := (output_only_on_success env disk hargs rfl).1 _ hfailure
    exact ⟨hexit, hstdout, (congrArg (·.read "d.csv") hdisk).trans hread⟩
  · have hargs : parseArguments ["render", "d.csv", "-o", "d.csv"] = .ok ⟨log, .render request⟩ := by rfl
    have htarget : disk.target "d.csv" = .ok (["d.csv"], some data) := Disk.target_of_entry hdata rfl rfl
    have hsome : ((Request.render request).outputAt disk env.now).isOk = true := by
      rw [Request.outputAt, reportAt, inputsAt, tableAt_of_read hread]
      rfl
    cases hhtml : (Request.render request).outputAt disk env.now with
    | error _ =>
        rw [hhtml] at hsome
        cases hsome
    | ok html =>
        obtain ⟨hexit, hstdout, hafter, -⟩ := (output_only_on_success env disk hargs rfl).2.2.1
          html "d.csv" _ hhtml rfl (Disk.write_of_target htarget _)
        exact ⟨hexit, hstdout, html, rfl, hafter⟩

end RecordReport.Command
