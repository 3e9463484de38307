import RecordReport.Text.Numeral

/-!
How important an event is, and how important it must be to be logged.
-/
namespace RecordReport.Log

/-- The importance of an event, from the highest to the lowest. -/
inductive Level where
  | error
  | warn
  | info
  | debug
  | trace
  deriving DecidableEq, Repr

namespace Level

def depth : Level → Nat
  | .error => 1
  | .warn => 2
  | .info => 3
  | .debug => 4
  | .trace => 5

def ofName? : String → Option Level
  | "error" => some .error
  | "warn" => some .warn
  | "info" => some .info
  | "debug" => some .debug
  | "trace" => some .trace
  | _ => none

def name : Level → String
  | .error => "error"
  | .warn => "warn"
  | .info => "info"
  | .debug => "debug"
  | .trace => "trace"

end Level

/-- The least important level that is logged, if any is. -/
inductive Threshold where
  | off
  | upTo (level : Level)
  deriving DecidableEq, Repr

namespace Threshold

def depth : Threshold → Nat
  | .off => 0
  | .upTo level => level.depth

/-- The threshold with a number of levels, which are at most five. -/
def ofDepth : Nat → Threshold
  | 0 => .off
  | 1 => .upTo .error
  | 2 => .upTo .warn
  | 3 => .upTo .info
  | 4 => .upTo .debug
  | _ => .upTo .trace

def admits (t : Threshold) (level : Level) : Bool := level.depth ≤ t.depth

def name : Threshold → String
  | .off => "off"
  | .upTo level => level.name

/-- The threshold of a name in letters of either size, or of a number of levels. -/
def ofName? (s : String) : Option Threshold :=
  let small := s.map Char.toLower
  if small = "off" then some .off
  else match Level.ofName? small, Text.natural? s with
    | some level, _ => some (.upTo level)
    | none, some n => if n ≤ 5 then some (.ofDepth n) else none
    | none, none => none

end Threshold
end RecordReport.Log
