import RecordReport.Command.Run
import Std.Time.Zoned

/-!
The program. It looks up what stands at the paths that its arguments name, lets a run work on that, and
brings the outcome into the world.
-/
namespace RecordReport

/-- Why a file cannot be read, in words. -/
def reasonText : IO.Error → String
  | .permissionDenied .. => "Permission denied (os error 13)"
  | e => toString e

def lookUp (place : Disk.Place) : IO (Option Disk.Entry) := do
  let path := (← IO.currentDir) / Disk.pathOf place
  if ← path.isDir then return some .directory
  if !(← path.pathExists) then return none
  try return some (.file (← IO.FS.readBinFile path).toList)
  catch e => return some (.closed (reasonText e))

/-- The disk with what stands at the places on the way to some paths. -/
def diskAt (paths : List String) : IO Disk := do
  let mut disk : Disk := {}
  for place in paths.flatMap Disk.placesOn do
    if let some entry ← lookUp place then disk := disk.put place entry
  return disk

def currentTime : IO Timestamp := do
  let now ← Std.Time.PlainDateTime.now
  return ⟨now.date.year.toInt, now.date.month.toNat, now.date.day.toNat,
    now.time.hour.toNat, now.time.minute.toNat, now.time.second.toNat⟩

end RecordReport

open RecordReport in
def main (arguments : List String) : IO UInt32 := do
  let paths := match Command.parseArguments arguments with
    | .ok invocation => invocation.paths
    | .error _ => []
  let disk ← diskAt paths
  let environment : Command.Environment :=
    { logFilter := ← IO.getEnv "RUST_LOG"
      terminal := ← (← IO.getStderr).isTty
      now := ← currentTime }
  let outcome := Command.run environment disk arguments
  for (place, content) in outcome.disk.changesSince disk do
    IO.FS.writeBinFile (Disk.pathOf place) ⟨content.toArray⟩
  IO.print outcome.stdout
  IO.eprint outcome.stderr
  return UInt32.ofNat outcome.exitCode
