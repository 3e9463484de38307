import RecordReport.Text.Ranges

/-!
Blank characters and trimming. A cell of a file is its text without blank characters and byte order
marks at either end.
-/
namespace RecordReport.Text

/-- The code point ranges of the White_Space property. -/
def blankRanges : List (Nat × Nat) :=
  [(0x09, 0x0D), (0x20, 0x20), (0x85, 0x85), (0xA0, 0xA0), (0x1680, 0x1680), (0x2000, 0x200A),
   (0x2028, 0x2029), (0x202F, 0x202F), (0x205F, 0x205F), (0x3000, 0x3000)]

/-- Whether a character has the White_Space property. -/
def isBlank (c : Char) : Bool := inRanges blankRanges c

/-- The byte order mark, which is no blank character. -/
def byteOrderMark : Char := '\ufeff'

/-- A list without the members at either end that satisfy `p`. -/
def trimBy {α : Type} (p : α → Bool) (xs : List α) : List α :=
  ((xs.dropWhile p).reverse.dropWhile p).reverse

/-- A text without blank characters at either end. -/
def trim (s : String) : String :=
  String.ofList (trimBy isBlank s.toList)

/-- A text without byte order marks at either end. -/
def trimMarks (s : String) : String :=
  String.ofList (trimBy (· == byteOrderMark) s.toList)

/-- The content of a cell: one layer of marks between two layers of blanks is dropped. -/
def cell (s : String) : String :=
  trim (trimMarks (trim s))

end RecordReport.Text
