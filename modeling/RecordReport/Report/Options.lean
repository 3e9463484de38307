/-!
What a report is asked for besides its specification.
-/
namespace RecordReport

/-- A date and time of day. -/
structure Timestamp where
  year : Int
  month : Nat
  day : Nat
  hour : Nat
  minute : Nat
  second : Nat
  deriving DecidableEq, Repr

namespace Timestamp

/-- A number with zeros in front up to some number of places. -/
def padded (places n : Nat) : String :=
  let digits := toString n
  String.ofList (List.replicate (places - digits.length) '0') ++ digits

/-- A year has four places; outside them it has a sign as well. -/
def yearText (year : Int) : String :=
  if year < 0 then "-" ++ padded 4 year.natAbs
  else if 9999 < year then "+" ++ padded 4 year.natAbs
  else padded 4 year.natAbs

def toMinute (t : Timestamp) : String :=
  let date := yearText t.year ++ "-" ++ padded 2 t.month ++ "-" ++ padded 2 t.day
  date ++ " " ++ padded 2 t.hour ++ ":" ++ padded 2 t.minute

end Timestamp

namespace Report

/-- The choices of the caller. -/
structure Options where
  /-- The title if the specification has none. -/
  defaultTitle : String := ""
  /-- Shown at the foot of the report. -/
  timestamp : Option Timestamp := none
  /-- Leaves out the summaries of properties mentioned as others. -/
  excludeOther : Bool := false
  /-- Includes the summaries of properties mentioned as hidden. -/
  includeHidden : Bool := false
  deriving DecidableEq, Repr

end Report
end RecordReport
