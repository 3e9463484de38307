import RecordReport.Text.Utf8

/-!
Writing to a place with limited room. A write that would not fit fails as a whole and ends the
delivery, so what has been accepted is always a beginning of what was to be written.
-/
namespace RecordReport

/-- What has come of a sequence of writes. -/
structure Delivery where
  /-- The bytes accepted. -/
  accepted : Bytes
  /-- Whether every write was accepted. -/
  complete : Bool
  deriving DecidableEq, Repr

namespace Delivery

/-- Write after write into a place that takes `room` bytes. -/
def run (room : Nat) : List Bytes → Delivery
  | [] => ⟨[], true⟩
  | write :: rest =>
    if write.length ≤ room then
      let later := run (room - write.length) rest
      ⟨write ++ later.accepted, later.complete⟩
    else ⟨[], false⟩

/-- Write after write into a place that takes everything. -/
def unlimited (writes : List Bytes) : Delivery := ⟨writes.flatten, true⟩

/-- A place that takes `limit` bytes, or everything if there is no limit. -/
def within (limit : Option Nat) (writes : List Bytes) : Delivery :=
  match limit with
  | some room => run room writes
  | none => unlimited writes

end Delivery

/-- A part at the head of the first block. -/
def withPart (part : Bytes) : List Bytes → List Bytes
  | [] => [part]
  | block :: rest => (part ++ block) :: rest

/-- The blocks of parts when the first block has `room` bytes left. -/
def blocksFrom (size room : Nat) : List Bytes → List Bytes
  | [] => [[]]
  | part :: rest =>
    if part.length ≤ room then withPart part (blocksFrom size (room - part.length) rest)
    else [] :: withPart part (blocksFrom size (size - part.length) rest)

/-- Consecutive blocks of at most `size` bytes. A part that does not fit starts the next block. -/
def blocks (size : Nat) (parts : List Bytes) : List Bytes :=
  (blocksFrom size size parts).filter (!·.isEmpty)

end RecordReport
