import RecordReport.Report.Render

/-!
Writing a report to any place. A place takes piece after piece and may fail at each of them, or at the
end. The specification has been checked before the place is given anything.
-/
namespace RecordReport

/-- A place to write to. Whatever has been taken when a write fails is in the state it leaves. -/
structure Writer (σ ε : Type) where
  write : σ → Bytes → σ × Option ε
  flush : σ → σ × Option ε

namespace Writer

variable {σ ε : Type} (w : Writer σ ε)

/-- Piece after piece, up to the first that fails. -/
def writeAll (s : σ) : List Bytes → σ × Option ε
  | [] => (s, none)
  | piece :: rest =>
    match w.write s piece with
    | (next, none) => writeAll next rest
    | failed => failed

def deliver (s : σ) (pieces : List Bytes) : σ × Option ε :=
  match w.writeAll s pieces with
  | (next, none) => w.flush next
  | failed => failed

/-- A place that takes everything. -/
def memory : Writer Bytes Empty where
  write taken piece := (taken ++ piece, none)
  flush taken := (taken, none)

/-- A place with some room left, which is the second part of its state. A piece that does not fit is
refused. -/
def limited : Writer (Bytes × Nat) Unit where
  write s piece :=
    if piece.length ≤ s.2 then ((s.1 ++ piece, s.2 - piece.length), none) else (s, some ())
  flush s := (s, none)

end Writer

namespace Report

/-- Why a report has not been written. -/
inductive Failure (ε : Type) where
  /-- There is no report. -/
  | refused (cause : Error)
  /-- The place written to has failed. -/
  | unwritten (fault : ε)
  deriving DecidableEq, Repr

/-- What becomes of a place when a report is written to it, and of the writing. -/
def renderInto {σ ε : Type} (w : Writer σ ε) (s : σ) (table : Table) (spec : Spec)
    (options : Options) : σ × Except (Failure ε) (List Warning) :=
  match render table spec options with
  | .error cause => (s, .error (.refused cause))
  | .ok report =>
    match w.deliver s report.pieces with
    | (next, none) => (next, .ok report.warnings)
    | (next, some fault) => (next, .error (.unwritten fault))

end Report
end RecordReport
