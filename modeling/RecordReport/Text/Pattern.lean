import RecordReport.Text.Blank
import RecordReport.Text.Property.Marks
import RecordReport.Text.Property.Words

/-!
Patterns: regular expressions that are matched against a whole text. Where a pattern can go on in
several ways, the earlier one is preferred: once a beginning of the text matches in a preferred way,
the ways after it are given up.
-/
namespace RecordReport.Text

/-- A set of characters. -/
inductive CharSet where
  | ranges (rs : List (Nat × Nat))
  | tree (t : RangeTree)
  | complement (s : CharSet)
  | union (s t : CharSet)
  /-- The characters of a set in capital and small letters. -/
  | anyCase (s : CharSet)
  deriving DecidableEq, Repr

namespace CharSet

/-- Whether a character is in a set. -/
def has : CharSet → Char → Bool
  | ranges rs, c => inRanges rs c
  | tree t, c => t.has c
  | complement s, c => !s.has c
  | union s t, c => s.has c || t.has c
  | anyCase s, c => s.has c || s.has c.toLower || s.has c.toUpper

/-- The characters that are in both sets. -/
def inter (s t : CharSet) : CharSet := complement (union (complement s) (complement t))

/-- The characters that are in the first set and not in the second. -/
def minus (s t : CharSet) : CharSet := s.inter (complement t)

/-- The characters that are in one of the sets and not in both. -/
def differing (s t : CharSet) : CharSet := union (s.minus t) (t.minus s)

/-- The set of one character. -/
def only (c : Char) : CharSet := ranges [(c.toNat, c.toNat)]

/-- The set of no character. -/
def none : CharSet := ranges []

/-- The set of all characters. -/
def all : CharSet := complement none

/-- The characters of a line. -/
def inLine : CharSet := complement (only '\n')

/-- The digits of decimal numbers. -/
def digits : CharSet := tree Property.digit

/-- Marks that belong to a word; those in the names of regions do not. -/
def marks : CharSet := (tree Property.extend).minus (ranges [(0xE0020, 0xE007F)])

/-- Signs that join words, and marks that are neither letters nor of the common kind. -/
def connectors : CharSet :=
  ranges [(0x5F, 0x5F), (0xF3E, 0xF3F), (0x1CE1, 0x1CE1), (0x1CF7, 0x1CF7), (0x200D, 0x200D),
    (0x203F, 0x2040), (0x2054, 0x2054), (0xABEC, 0xABEC), (0xFE33, 0xFE34), (0xFE4D, 0xFE4F),
    (0xFF3F, 0xFF3F)]

/-- Letters, digits, marks and connectors. -/
def words : CharSet :=
  ((tree Property.word).minus (tree Property.otherNumber)).union (marks.union connectors)

/-- The blank characters. -/
def blanks : CharSet := ranges blankRanges

end CharSet

/-- A pattern for texts. -/
inductive Pattern where
  /-- The empty text. -/
  | empty
  | one (s : CharSet)
  | seq (p q : Pattern)
  /-- One of two, the first by preference. -/
  | either (p q : Pattern)
  /-- Any number of times, as often as can be or, if not `greedy`, as seldom. -/
  | many (p : Pattern) (greedy : Bool)
  /-- The empty text at the beginning. -/
  | atStart
  /-- The empty text at the end. -/
  | atEnd
  deriving DecidableEq, Repr

namespace Pattern

/-- A way to go on with a pattern. -/
inductive Way where
  /-- The pattern has matched. -/
  | done
  /-- A character of a set comes, and then a pattern. -/
  | after (s : CharSet) (rest : Pattern)

/-- The ways of a pattern after another one, with `next` for its end. -/
def Way.followed (next : List Way) (q : Pattern) : Way → List Way
  | done => next
  | after s rest => [after s (.seq rest q)]

/-- The ways to go on with a pattern, by preference, at the beginning or the end of a text or within. -/
def ways (start stop : Bool) : Pattern → List Way
  | empty => [.done]
  | one s => [.after s empty]
  | seq p q => (p.ways start stop).flatMap (Way.followed (q.ways start stop) q)
  | either p q => p.ways start stop ++ q.ways start stop
  | many p greedy =>
    let again := (p.ways start stop).flatMap (Way.followed [.done] (many p greedy))
    if greedy then again ++ [.done] else .done :: again
  | atStart => if start then [.done] else []
  | atEnd => if stop then [.done] else []

/-- The ways up to the first that has matched. -/
def open? : List Way → List (CharSet × Pattern) × Bool
  | [] => ([], false)
  | .done :: _ => ([], true)
  | .after s rest :: ways =>
    let (others, done) := open? ways
    ((s, rest) :: others, done)

/-- The patterns that are left after a character, each of them once. -/
def afterChar (c : Char) (ways : List (CharSet × Pattern)) : List Pattern :=
  ((ways.filter (·.1.has c)).map (·.2)).eraseDups

/-- One of several patterns, by preference, matches a whole text. -/
def anyMatches (start : Bool) (ps : List Pattern) : List Char → Bool
  | [] => (open? (ps.flatMap (ways start true))).2
  | c :: rest => anyMatches false (afterChar c (open? (ps.flatMap (ways start false))).1) rest

/-- A pattern matches a whole text. -/
def isMatch (p : Pattern) (text : String) : Bool := anyMatches true [p] text.toList

end Pattern
end RecordReport.Text
