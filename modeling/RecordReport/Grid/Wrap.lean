import RecordReport.Text.Clusters
import RecordReport.Text.Controls
import RecordReport.Text.Split

/-!
Wrapping: a line of a cell is cut at spaces, or inside a word that is too long, so that each piece fits
into some columns. Style codes take no room, and a style in force at a cut is set again after it.
-/
namespace RecordReport.Grid

/-- The clusters that fit into some room, and the others. -/
def fitting (room : Nat) : List (List Char) → List (List Char) × List (List Char)
  | [] => ([], [])
  | cluster :: rest =>
    if Text.columns cluster ≤ room then
      let (head, tail) := fitting (room - Text.columns cluster) rest
      (cluster :: head, tail)
    else ([], cluster :: rest)

/-- A word that is being cut. -/
structure Cut where
  /-- What is before the cut so far, up to the last plain character. -/
  head : List Char := []
  /-- The style codes after it. -/
  pending : List Char := []
  room : Nat
  /-- The style codes in force. -/
  codes : List (List Char) := []
  /-- A style is in force at the end of `head`. -/
  styled : Bool := false

def Cut.take (c : Cut) (cs : List Char) (columns : Nat) : Cut :=
  { head := c.head ++ c.pending ++ cs
    room := c.room - columns
    codes := c.codes
    styled := !c.codes.isEmpty }

/-- The part of a word before the cut and the part after it. -/
def Cut.parts (c : Cut) : List Text.Run → List Char × List Char
  | [] => (c.head ++ c.pending, [])
  | .code opening code :: rest =>
    parts
      { c with
        pending := c.pending ++ opening :: code
        codes := Text.codesAfter c.codes (opening :: code) }
      rest
  | .plain cs :: rest =>
    let columns := Text.columns cs
    if columns ≤ c.room then (c.take cs columns).parts rest
    else
      let (fit, left) := fitting c.room (Text.clusters cs)
      let head := if fit.isEmpty then c else c.take fit.flatten 0
      (head.head ++ if head.styled then Text.resetCode else [],
        c.codes.flatten ++ left.flatten ++ rest.flatMap Text.Run.chars)

/-- A word cut so that its first part fits into some room. The first part is empty if not even one
cluster fits; then one character goes first if there has to be one. -/
def cutWord (room : Nat) (mustTake : Bool) (word : List Char) : List Char × List Char :=
  match Cut.parts { room } (Text.runs word) with
  | ([], tail) => if mustTake then (tail.take 1, tail.drop 1) else ([], tail)
  | parts => parts

/-- A line with no more room than this is complete. -/
def leastRoom : Nat := 2

def joined (line word : List Char) : List Char :=
  if line.isEmpty then word else line ++ ' ' :: word

/-- The columns of a line followed by a word. -/
def joinedColumns (line word : List Char) : Nat :=
  Text.shownColumns word + Text.shownColumns line + if line.isEmpty then 0 else 1

def roomAfter (width : Nat) (line : List Char) : Nat :=
  if line.isEmpty then width - Text.shownColumns line else width - Text.shownColumns line - 1

/-- The lines that a line in progress and the words after it take. -/
def wrapFrom (width : Nat) : Nat → List Char → List (List Char) → List (List Char)
  | 0, _, _ => []
  | _ + 1, line, [] => if line.isEmpty then [] else [line]
  | fuel + 1, line, word :: rest =>
    let place (line : List Char) : List (List Char) :=
      if width - leastRoom < Text.shownColumns line then line :: wrapFrom width fuel [] rest
      else wrapFrom width fuel line rest
    if joinedColumns line word ≤ width then place (joined line word)
    else if !line.isEmpty && roomAfter width line ≤ leastRoom then
      line :: wrapFrom width fuel [] (word :: rest)
    else if width < Text.shownColumns word then
      let (head, tail) := cutWord (roomAfter width line) line.isEmpty word
      joined line head :: wrapFrom width fuel [] (tail :: rest)
    else line :: place word

/-- Pieces of which the last goes on with the first of others. -/
def glue : List (List Char) → List (List Char) → List (List Char)
  | [], others => others
  | [last], other :: others => (last ++ other) :: others
  | [last], [] => [last]
  | piece :: pieces, others => piece :: glue pieces others

/-- The pieces of a text between the spaces outside its style codes. -/
def spacedPieces : List Text.Run → List (List Char)
  | [] => [[]]
  | .code opening code :: rest => glue [opening :: code] (spacedPieces rest)
  | .plain cs :: rest => glue (Text.pieces ' ' cs) (spacedPieces rest)

/-- The words of a line, each with its own styles. -/
def words (line : List Char) : List (List Char) :=
  Text.restyled [] (spacedPieces (Text.runs line))

/-- The lines that a line of text takes within some columns. -/
def wrap (width : Nat) (line : List Char) : List (List Char) :=
  if Text.shownColumns line ≤ width then [line]
  else
    let words := words line
    wrapFrom width (2 * (words.flatten.length + words.length) + 2) [] words

def cellLines (cell : String) : List (List Char) :=
  Text.restyled [] (Text.pieces '\n' cell.toList)

/-- The lines that a cell takes within some columns. -/
def wrapCell (width : Nat) (cell : String) : List (List Char) :=
  (cellLines cell).flatMap (wrap width)

end RecordReport.Grid
