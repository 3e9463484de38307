import RecordReport.Text.Columns

/-!
Clusters: the pieces of a text that a reader takes for one character each. A text is the concatenation
of its clusters.
-/
namespace RecordReport.Text

/-- The part that a character plays in a cluster. -/
inductive Part where
  | carriageReturn
  | lineFeed
  | control
  | mark
  | joiner
  | spacingMark
  | leadingMark
  /-- The first consonant of a Hangul syllable. -/
  | leadingJamo
  | vowelJamo
  | finalJamo
  /-- A Hangul syllable without a final consonant. -/
  | openSyllable
  | closedSyllable
  | flagHalf
  | pictograph
  | other
  deriving DecidableEq, Repr

/-- The first consonants of Hangul syllables. -/
def isLeadingJamo (c : Char) : Bool := inRanges [(0x1100, 0x115F), (0xA960, 0xA97C)] c

/-- The vowels of Hangul syllables, and signs that behave like them. -/
def isVowelJamo (c : Char) : Bool :=
  inRanges [(0x1160, 0x11A7), (0xD7B0, 0xD7C6), (0x16D63, 0x16D63), (0x16D67, 0x16D6A)] c

/-- The last consonants of Hangul syllables. -/
def isFinalJamo (c : Char) : Bool := inRanges [(0x11A8, 0x11FF), (0xD7CB, 0xD7FB)] c

/-- A Hangul syllable; with every vowel the one without a final consonant comes first, then 27 with. -/
def isSyllable (c : Char) : Bool := 0xAC00 ≤ c.toNat && c.toNat ≤ 0xD7A3

/-- The part that a character plays in a cluster. -/
def partOf (c : Char) : Part :=
  if c = '\r' then .carriageReturn
  else if c = '\n' then .lineFeed
  else if Property.control.has c then .control
  else if c.toNat < 0xA9 then .other
  else if c = joiner then .joiner
  else if Property.extend.has c || isSkinTone c then .mark
  else if Property.spacingMark.has c then .spacingMark
  else if Property.leadingMark.has c then .leadingMark
  else if isLeadingJamo c then .leadingJamo
  else if isVowelJamo c then .vowelJamo
  else if isFinalJamo c then .finalJamo
  else if isSyllable c then (if (c.toNat - 0xAC00) % 28 = 0 then .openSyllable else .closedSyllable)
  else if isFlagHalf c then .flagHalf
  else if Property.pictograph.has c then .pictograph
  else .other

/-- How far a text has come in a conjunct: a consonant, then marks with a link among them. -/
inductive Conjunct where
  | none
  | consonant
  | linked
  deriving DecidableEq, Repr

/-- The end of a text, as far as a cluster can go on after it. -/
structure Behind where
  part : Part
  /-- The number of halves of flags at the end is odd. -/
  oddFlags : Bool
  /-- A pictograph with marks is at the end. -/
  picture : Bool
  /-- A pictograph with marks and a joiner is at the end. -/
  joinedPicture : Bool
  conjunct : Conjunct

namespace Behind

/-- Before any text. -/
def start : Behind := ⟨.control, false, false, false, .none⟩

/-- The progress in a conjunct after a character. A mark other than the one that keeps letters apart
leaves it as it is. -/
def nextConjunct (b : Behind) (c : Char) (part : Part) : Conjunct :=
  if Property.conjunct.has c then .consonant
  else if Property.link.has c then (if b.conjunct = .none then .none else .linked)
  else if (part = .mark && c ≠ '\u200c') || part = .joiner then b.conjunct
  else .none

/-- The end of a text with one more character. -/
def next (b : Behind) (c : Char) : Behind :=
  let part := partOf c
  { part
    oddFlags := part = .flagHalf && !b.oddFlags
    picture := part = .pictograph || (part = .mark && b.picture)
    joinedPicture := part = .joiner && b.picture
    conjunct := b.nextConjunct c part }

/-- A character goes on with the cluster at the end of a text. -/
def continues (b : Behind) (c : Char) : Bool :=
  match b.part, partOf c with
  | .carriageReturn, .lineFeed => true
  | .control, _ | .carriageReturn, _ | .lineFeed, _ => false
  | _, .control | _, .carriageReturn | _, .lineFeed => false
  | _, .mark | _, .joiner | _, .spacingMark => true
  | .leadingMark, _ => true
  | .leadingJamo, .leadingJamo | .leadingJamo, .vowelJamo | .leadingJamo, .openSyllable
  | .leadingJamo, .closedSyllable => true
  | .openSyllable, .vowelJamo | .vowelJamo, .vowelJamo => true
  | .openSyllable, .finalJamo | .vowelJamo, .finalJamo => true
  | .closedSyllable, .finalJamo | .finalJamo, .finalJamo => true
  | _, .pictograph => b.joinedPicture
  | _, .flagHalf => b.oddFlags
  | _, _ => b.conjunct = .linked && Property.conjunct.has c

end Behind

/-- The clusters of a text that follows another; the first may belong to the cluster before it. -/
def clustersAfter (b : Behind) : List Char → List (List Char)
  | [] => []
  | [c] => [[c]]
  | c :: d :: rest =>
    let here := b.next c
    match clustersAfter here (d :: rest) with
    | [] => [[c]]
    | cluster :: others =>
      if here.continues d then (c :: cluster) :: others else [c] :: cluster :: others

/-- The clusters of a text. -/
def clusters (cs : List Char) : List (List Char) := clustersAfter .start cs

end RecordReport.Text
