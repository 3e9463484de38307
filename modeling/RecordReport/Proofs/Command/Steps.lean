import RecordReport.Command.Run
import RecordReport.Proofs.Command.Sessions

/-!
# What the steps of a command give

A step's result is a function of the files it reads, and all it does besides is to log. Which files these
are is seen in the functions.
-/

namespace RecordReport.Command

/-! ## Results -/

/-- The table of the data file, and the specification of the template file or of the table itself. -/
def inputsAt (disk : Disk) (data : String) (template : Option String) : Except Failure Inputs := do
  let table ← (tableAt disk data).mapError (.data data)
  match template with
  | some path => return ⟨data, table, ← (Template.specAt disk path).mapError (.template path)⟩
  | none => return ⟨data, table, Spec.ofTable table⟩

def reportAt (disk : Disk) (now : Timestamp) (r : RenderRequest) : Except Failure Report.Rendered := do
  let inputs ← inputsAt disk r.data r.template
  (Report.render inputs.table inputs.spec (r.options now)).mapError (.render r.data)

def findingsAt (disk : Disk) (r : CheckRequest) : Except Failure (Inputs × List Report.Warning) := do
  let inputs ← inputsAt disk r.data r.template
  let report ← (Report.render inputs.table inputs.spec r.options).mapError (.check r.data)
  return (inputs, report.warnings)

/-- The text of the template that a data file would have without one. -/
def templateAt (disk : Disk) (data : String) : Except Failure String := do
  let table ← (tableAt disk data).mapError (.data data)
  (Template.exportText (Spec.ofTable table)).mapError .export

theorem tableAt_of_read {disk : Disk} {path : String} {content : Bytes}
    (h : disk.read path = .ok content) : tableAt disk path = rowsOf .skip content >>= Table.load := by
  rw [tableAt, rowsAt, h]

theorem specAt_of_read {disk : Disk} {path : String} {content : Bytes}
    (h : disk.read path = .ok content) : Template.specAt disk path = Template.parseBytes content := by
  rw [Template.specAt, rowsAt, h]
  rfl

theorem tableAt_eq_of_read {disk disk' : Disk} {path : String} (h : disk'.read path = disk.read path) :
    tableAt disk' path = tableAt disk path := by
  rw [tableAt, tableAt, rowsAt, rowsAt, h]

theorem specAt_eq_of_read {disk disk' : Disk} {path : String} (h : disk'.read path = disk.read path) :
    Template.specAt disk' path = Template.specAt disk path := by
  rw [Template.specAt, Template.specAt, rowsAt, rowsAt, h]

theorem dataPath_of_inputsAt {disk : Disk} {data : String} {template : Option String} {inputs : Inputs}
    (h : inputsAt disk data template = .ok inputs) : inputs.dataPath = data := by
  obtain ⟨table, -, h⟩ := exists_of_bind_eq_ok h
  cases template with
  | none =>
      cases h
      rfl
  | some path =>
      obtain ⟨spec, -, h⟩ := exists_of_bind_eq_ok h
      cases h
      rfl

/-! ## Loading -/

variable {s : Session}

theorem gives_loadTable (path : String) :
    (loadTable path).Gives s ((tableAt s.disk path).mapError (.data path)) := by
  rw [tableAt, mapError_bind]
  refine Action.gives_disk.bind_ok fun t _ => (Action.gives_ofExcept _ _).bind fun rows t _ _ => ?_
  refine (Action.gives_log _).bind_ok fun t _ => (Action.gives_ofExcept _ _).bind_self fun table t _ => ?_
  exact (Action.gives_log _).bind_ok fun t _ => Action.gives_pure table

theorem gives_loadSpec (path : String) :
    (loadSpec path).Gives s ((Template.specAt s.disk path).mapError (.template path)) := by
  rw [Template.specAt, mapError_bind, mapError_mapError]
  refine Action.gives_disk.bind_ok fun t _ => (Action.gives_ofExcept _ _).bind fun rows t _ _ => ?_
  refine (Action.gives_log _).bind_ok fun t _ => (Action.gives_logAll _).bind_ok fun t _ => ?_
  refine (Action.gives_ofExcept _ (Template.read rows).result).bind_self fun spec t _ => ?_
  refine (Action.gives_logAll _).bind_ok fun t _ => (Action.gives_log _).bind_ok fun t _ => ?_
  exact Action.gives_pure spec

/-- The data is read before anything is logged; the template must not be the log. -/
theorem gives_loadInputs {data : String} {template : Option String}
    (h : ∀ path ∈ template, s.Spares path) :
    (loadInputs data template).Gives s (inputsAt s.disk data template) := by
  refine (gives_loadTable data).bind fun table t _ ht => (Action.gives_log _).bind_ok fun u hu => ?_
  cases template with
  | none => exact (Action.gives_log _).bind_ok fun _ _ => Action.gives_pure _
  | some path =>
      have hread : u.disk.read path = s.disk.read path := (ht.trans hu).read_eq (h path rfl)
      dsimp only
      rw [← specAt_eq_of_read hread]
      exact (gives_loadSpec path).bind fun spec _ _ _ => Action.gives_pure _

/-! ## Reports -/

/-- A report is an error only where its context is. -/
theorem mapError_render (failure : Report.Error → Failure) (table : Table) (spec : Spec)
    (options : Report.Options) :
    (Report.render table spec options).mapError failure =
      (Report.Context.of table spec options).mapError failure >>= fun c => .ok c.render := by
  rw [Report.render]
  cases Report.Context.of table spec options <;> rfl

theorem gives_makeReport (failure : Report.Error → Failure) (inputs : Inputs) (options : Report.Options) :
    (makeReport failure inputs options).Gives s
      ((Report.render inputs.table inputs.spec options).mapError failure) := by
  rw [mapError_render]
  refine ((Action.gives_ofExcept _ _).bind fun c t _ _ => ?_).within
  refine (Action.gives_log _).bind_ok fun t _ => (Action.gives_logAll _).bind_ok fun t _ => ?_
  exact (Action.gives_log _).bind_ok fun t _ => Action.gives_pure c.render

theorem gives_reportFor (r : RenderRequest) (h : ∀ path ∈ r.template, s.Spares path) :
    (reportFor r).Gives s (reportAt s.disk s.now r) := by
  refine (gives_loadInputs h).bind fun inputs t hload ht => Action.gives_now.bind_ok fun u _ => ?_
  rw [ht.now_eq, renderReport, dataPath_of_inputsAt hload]
  exact gives_makeReport _ inputs _

theorem gives_findingsFor (r : CheckRequest) (h : ∀ path ∈ r.template, s.Spares path) :
    (findingsFor r).Gives s (findingsAt s.disk r) := by
  refine (gives_loadInputs h).bind fun inputs t hload _ => ?_
  have hreport : (checkInputs inputs r.options).Gives t
      ((Report.render inputs.table inputs.spec r.options).mapError (.check r.data) >>= fun report =>
        .ok report.warnings) := by
    rw [checkInputs, dataPath_of_inputsAt hload]
    exact (gives_makeReport _ inputs _).bind fun report _ _ _ => Action.gives_pure report.warnings
  have hpaired := hreport.bind fun warnings _ _ _ => Action.gives_pure (inputs, warnings)
  cases hrender : (Report.render inputs.table inputs.spec r.options).mapError (Failure.check r.data) <;>
    rw [hrender] at hpaired <;> exact hpaired

theorem gives_templateFor (data : String) : (templateFor data).Gives s (templateAt s.disk data) :=
  (gives_loadTable data).bind fun _ _ _ _ => Action.gives_ofExcept _ _

end RecordReport.Command
