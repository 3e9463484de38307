/-!
Sets of characters, given by ranges of code points.
-/
namespace RecordReport.Text

/-- A character lies in one of some code point ranges. -/
def inRanges (ranges : List (Nat × Nat)) (c : Char) : Bool :=
  ranges.any fun (low, high) => low ≤ c.toNat && c.toNat ≤ high

/-- Many ranges of code points, in order: those on the left of a range lie below it. -/
inductive RangeTree where
  | leaf
  | node (left : RangeTree) (low high : Nat) (right : RangeTree)
  deriving DecidableEq, Repr

namespace RangeTree

/-- A tree of the first `count` of some ranges that stand in order, and the others. -/
def build (count : Nat) (ranges : List (Nat × Nat)) : RangeTree × List (Nat × Nat) :=
  if _h : count = 0 then (leaf, ranges)
  else
    let (left, ranges) := build (count / 2) ranges
    match ranges with
    | [] => (left, [])
    | (low, high) :: ranges =>
      let (right, ranges) := build (count - count / 2 - 1) ranges
      (node left low high right, ranges)
termination_by count
decreasing_by all_goals omega

/-- The tree of ranges that stand in order. -/
def ofList (ranges : List (Nat × Nat)) : RangeTree := (build ranges.length ranges).1

/-- A code point lies in one of the ranges. -/
def contains : RangeTree → Nat → Bool
  | leaf, _ => false
  | node left low high right, n =>
    if n < low then left.contains n else if high < n then right.contains n else true

/-- A character lies in one of the ranges. -/
def has (t : RangeTree) (c : Char) : Bool := t.contains c.toNat

end RangeTree
end RecordReport.Text
