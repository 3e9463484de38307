import RecordReport.Grid.Wrap

/-!
Tables drawn with lines. Columns share a fixed width: those whose content fits their share take what
they need, and the content of the others is wrapped at spaces, or inside a word that is too long.
-/
namespace RecordReport

/-- A table to be drawn. -/
structure Grid where
  header : List String
  rows : List (List String)
  /-- The columns whose cells stand at the right. -/
  alignedRight : List Nat
  /-- The columns of text that the whole table may take. -/
  width : Nat

namespace Grid

def longest (size : List Char → Nat) (lines : List (List Char)) : Nat :=
  lines.foldl (fun most line => max most (size line)) 0

def byteSize (line : List Char) : Nat := line.foldl (fun n c => n + c.utf8Size) 0

/-! ## Sharing the width -/

/-- The widths decided so far, and what is left for the columns that are not. -/
structure Shares where
  room : Nat
  undecided : Nat
  widths : List (Option Nat)

/-- The share of each column that is not decided. -/
def Shares.share (s : Shares) : Nat := s.room / s.undecided

def Shares.decide (s : Shares) (index width : Nat) : Shares :=
  ⟨s.room - width, s.undecided - 1, s.widths.set index (some width)⟩

/-- One look at each undecided column, from left to right: `choose` may give it a width in view of
the share. -/
def Shares.pass (choose : Nat → Nat → Option Nat) (s : Shares) : Shares :=
  (List.range s.widths.length).foldl
    (fun s index =>
      match s.widths[index]? with
      | some none =>
        match choose index s.share with
        | some width => s.decide index width
        | none => s
      | _ => s)
    s

/-- Looks at the columns, at most `fuel` times, until nothing changes. -/
def Shares.settle (choose : Nat → Nat → Option Nat) (s : Shares) : Nat → Shares
  | 0 => s
  | fuel + 1 =>
    let next := s.pass choose
    if next.undecided = s.undecided then next else next.settle choose fuel

/-- The decided widths, and a share for each column that is not decided; the first `excess` of them
take one column more. -/
def fillIn (share excess : Nat) : List (Option Nat) → List Nat
  | [] => []
  | some width :: rest => width :: fillIn share excess rest
  | none :: rest =>
    (if 0 < excess then share + 1 else share) :: fillIn share (excess - 1) rest

/-- The undecided columns share the room; what does not divide goes to the first of them. -/
def Shares.distribute (s : Shares) : List Nat :=
  let room := max s.room s.undecided
  fillIn (room / s.undecided) (room % s.undecided) s.widths

variable (g : Grid)

def columnCount : Nat := g.header.length

def columnCells (index : Nat) : List String := g.rows.map fun row => row[index]?.getD ""

/-- The columns that the longest line of a column takes, at least one. -/
def contentWidth (index : Nat) : Nat :=
  max 1 (longest Text.shownColumns ((g.header[index]?.getD "" :: g.columnCells index).flatMap cellLines))

/-- A column that fits its share takes what it needs. -/
def chooseFitting (index share : Nat) : Option Nat :=
  if g.contentWidth index ≤ share then some (g.contentWidth index) else none

/-- A column that would leave three columns of its share empty after wrapping takes what it needs. Its
need is counted in bytes, so a column with characters of several bytes may get more than its lines take. -/
def chooseWrapped (index share : Nat) : Option Nat :=
  let needed := longest byteSize ((g.columnCells index).flatMap (wrapCell share))
  if 3 ≤ share - needed then some needed else none

/-- The widths of the columns, without the blanks around their content. -/
def widths : List Nat :=
  let n := g.columnCount
  let start : Shares := ⟨g.width - (n + 1) - 2 * n, n, List.replicate n none⟩
  ((start.settle g.chooseFitting (n + 1)).settle g.chooseWrapped (n + 1)).distribute

/-! ## Drawing -/

def rule (left fill cross right : String) (widths : List Nat) : String :=
  left ++ cross.intercalate (widths.map fun w => String.join (List.replicate (w + 2) fill)) ++ right

/-- A line of a cell with blanks up to the width of its column. -/
def aligned (right : Bool) (width : Nat) (line : List Char) : String :=
  let blanks := List.replicate (width - Text.shownColumns line) ' '
  String.ofList (if right then blanks ++ line else line ++ blanks)

def rowLines (widths : List Nat) (row : List String) : List String :=
  let cells := widths.mapIdx fun i w => (i, w, wrapCell w (row[i]?.getD ""))
  let height := cells.foldl (fun most (_, _, lines) => max most lines.length) 0
  (List.range height).map fun k =>
    let parts := cells.map fun (i, w, lines) =>
      aligned (g.alignedRight.contains i) w (lines[k]?.getD [])
    "│ " ++ " │ ".intercalate parts ++ " │"

def lines : List String :=
  let widths := g.widths
  let between := rule "├" "─" "┼" "┤" widths
  [rule "╭" "─" "┬" "╮" widths] ++ g.rowLines widths g.header ++ [rule "╞" "═" "╪" "╡" widths] ++
    ((g.rows.map (g.rowLines widths)).intersperse [between]).flatten ++
    [rule "╰" "─" "┴" "╯" widths]

end Grid
end RecordReport
