import RecordReport.Text.Ranges
import RecordReport.Text.Property.Pictures
import RecordReport.Text.Property.Marks
import RecordReport.Text.Property.Width

/-!
The number of columns that a text takes on a terminal: none for a mark on the character before it, two
for a wide character, one for most others. Characters that are drawn as one sign with those after them
are counted together, so a text is read from its end, with what lies ahead of each character in view.
-/
namespace RecordReport.Text

/-! ## Characters -/

/-- The character that joins its neighbours. -/
def joiner : Char := '\u200d'

/-- Asks for the picture before it in ink. -/
def inkSelector : Char := '\ufe0e'

/-- Asks for the picture before it in colour. -/
def colourSelector : Char := '\ufe0f'

/-- Asks for the quotation mark before it in two columns. -/
def fullQuoteSelector : Char := '\ufe01'

/-- Quotation marks that can take two columns. -/
def isQuotationMark (c : Char) : Bool := c = '\u2018' || c = '\u2019' || c = '\u201c' || c = '\u201d'

/-- A picture that is drawn in colour unless asked otherwise. -/
def isColourPicture (c : Char) : Bool := Property.colour.has c

/-- A character that can be asked for in colour and in ink. -/
def isSelectable (c : Char) : Bool := Property.selectable.has c

/-- A picture in colour that takes one column in ink; pictures of ideographs keep two. -/
def isNarrowInInk (c : Char) : Bool :=
  isSelectable c && isColourPicture c && !(0x1F200 ≤ c.toNat && c.toNat ≤ 0x1F2FF)

/-- A picture that can have a skin tone. -/
def isPerson (c : Char) : Bool := Property.person.has c

/-- A skin tone, for the person before it. -/
def isSkinTone (c : Char) : Bool := 0x1F3FB ≤ c.toNat && c.toNat ≤ 0x1F3FF

/-- Half of a flag. -/
def isFlagHalf (c : Char) : Bool := 0x1F1E6 ≤ c.toNat && c.toNat ≤ 0x1F1FF

/-- A letter in the name of a region. -/
def isTagLetter (c : Char) : Bool := 0xE0061 ≤ c.toNat && c.toNat ≤ 0xE007A

/-- A digit in the name of a region. -/
def isTagDigit (c : Char) : Bool := 0xE0030 ≤ c.toNat && c.toNat ≤ 0xE0039

/-- The Arabic letters with the shape of an alef. -/
def isAlef (c : Char) : Bool :=
  inRanges [(0x622, 0x623), (0x625, 0x625), (0x627, 0x627), (0x671, 0x673), (0x675, 0x675),
    (0x773, 0x774), (0x870, 0x882)] c

/-- The Arabic letters with the shape of a lam. -/
def isLam (c : Char) : Bool :=
  inRanges [(0x644, 0x644), (0x6B5, 0x6B8), (0x76A, 0x76A), (0x8A6, 0x8A6), (0x8C7, 0x8C7)] c

/-- The Khmer letters that can stand below another. -/
def isSubscriptLetter (c : Char) : Bool :=
  inRanges [(0x1780, 0x1782), (0x1784, 0x1787), (0x1789, 0x178C), (0x178E, 0x1793),
    (0x1795, 0x1798), (0x179B, 0x179D), (0x17A0, 0x17A0), (0x17A2, 0x17A2), (0x17A7, 0x17A7),
    (0x17AB, 0x17AC), (0x17AF, 0x17AF)] c

/-- The Tifinagh consonants. -/
def isTifinagh (c : Char) : Bool := inRanges [(0x2D31, 0x2D65), (0x2D6F, 0x2D6F)] c

/-- Marks that do not part the letters of a ligature. -/
def isTransparent (c : Char) : Bool :=
  inRanges [(0x34F, 0x34F), (0x17B4, 0x17B5), (0x180B, 0x180D), (0x180F, 0x180F),
    (0x200D, 0x200D), (0xFE00, 0xFE0F), (0xE0100, 0xE01EF)] c

/-- The columns of a character that stands alone. -/
def columnsOf (c : Char) : Nat :=
  let n := c.toNat
  if n < 0xA0 then 1
  else if n = 0x17D8 then 3
  else if n = 0x17A4 then 2
  else if n = 0x115F then 2
  else if n = 0x2D7F then 1
  else if Property.extend.has c || Property.ignorable.has c ||
      Property.joined.has c then 0
  else if Property.wide.has c then 2
  else 1

/-- A mark without a column that does not part a lam from its alef. -/
def isArabicTransparent (c : Char) : Bool :=
  columnsOf c = 0 && !Property.parting.has c

/-! ## What lies ahead -/

/-- The beginning of a text, as far as the columns of a character before it depend on it. -/
inductive Start where
  | plain
  | lineFeed
  | skinTone
  | flagHalf
  /-- Two halves of flags or more. -/
  | flagHalves
  /-- A picture in colour. -/
  | picture
  /-- A joiner and a picture in colour. -/
  | joinedPicture
  /-- An enclosing keycap that is joined to a picture. -/
  | joinedKeycap
  /-- Half a flag that is joined to a picture, the only one. -/
  | joinedFlagHalf
  /-- Halves of flags that are joined to a picture, even in number. -/
  | joinedFlags
  /-- Halves of flags that are joined to a picture, odd in number. -/
  | joinedFlagsAndHalf
  /-- The end of the name of a region, joined to a picture. -/
  | joinedTagEnd
  /-- The last letters of the name of a region, joined to a picture. -/
  | joinedTagLetters (count : Nat)
  /-- The last digits of the name of a region, and letters after them, joined to a picture. -/
  | joinedTagDigits (count : Nat)
  | alef
  | lamed
  | bugineseYa
  /-- The vowel i with a ya joined to it. -/
  | bugineseVowelYa
  | tifinagh
  | tifinaghJoiner
  | lisuTone
  | turkicI
  | subscriptLetter
  | kiratVowelE
  | kiratVowelAi
  deriving DecidableEq, Repr

namespace Start

/-- The start of a ligature's last letter; marks before it do not part it from the letters before. -/
def isLigature : Start → Bool
  | alef | lamed | bugineseYa | bugineseVowelYa | tifinagh | tifinaghJoiner | lisuTone | turkicI
  | subscriptLetter => true
  | _ => false

/-- Something that is joined to a picture and can be in colour itself. -/
def isJoinedSign (s : Start) : Bool := s = joinedPicture || s = joinedKeycap

end Start

/-- What lies ahead of a character. -/
structure Ahead where
  start : Start := .plain
  /-- A joiner stands before a letter. -/
  joined : Bool := false
  /-- A colour selector comes first. -/
  colour : Bool := false
  /-- An ink selector comes first. -/
  ink : Bool := false
  /-- A selector for wide quotation marks comes first. -/
  fullQuote : Bool := false
  deriving DecidableEq, Repr

namespace Ahead

/-- The state ahead of a colour selector. -/
def withColour (a : Ahead) : Ahead :=
  if a.start.isLigature || (a.start.isJoinedSign && !a.colour) then { a with colour := true }
  else { colour := true }

/-- The state without the colour selector that nothing took. -/
def withoutColour (a : Ahead) : Ahead :=
  if a.start.isLigature then { a with colour := false } else {}

/-- The state ahead of an ink selector. -/
def withInk (a : Ahead) : Ahead :=
  if a.start.isLigature then { a with ink := true } else { ink := true }

/-- The state ahead of a selector for wide quotation marks. -/
def withFullQuote (a : Ahead) : Ahead :=
  if a.start.isLigature then { a with fullQuote := true } else { fullQuote := true }

end Ahead

/-- What a character that stands alone is for the character before it. -/
def startOf (c : Char) : Ahead :=
  if c.toNat ≤ 0xA0 then (if c = '\n' then { start := .lineFeed } else {})
  else if c = '\u05dc' then { start := .lamed }
  else if isAlef c then { start := .alef }
  else if isSubscriptLetter c then { start := .subscriptLetter }
  else if c = '\u1a10' then { start := .bugineseYa }
  else if isTifinagh c then { start := .tifinagh }
  else if c = '\ua4fc' || c = '\ua4fd' then { start := .lisuTone }
  else if c = fullQuoteSelector then { fullQuote := true }
  else if c = inkSelector then { ink := true }
  else if c = colourSelector then { colour := true }
  else if c.toNat = 0x10C03 then { start := .turkicI }
  else if c.toNat = 0x16D67 then { start := .kiratVowelE }
  else if c.toNat = 0x16D68 then { start := .kiratVowelAi }
  else if isFlagHalf c then { start := .flagHalf }
  else if isSkinTone c then { start := .skinTone }
  else if isColourPicture c then { start := .picture }
  else {}

/-- The columns that a character adds to a text, and what lies ahead of the character before it, if it
is drawn as one sign with the start of the text. -/
def drawnWith? (c : Char) (a : Ahead) : Option (Int × Ahead) :=
  let drawn (added : Int) (start : Start) : Option (Int × Ahead) := some (added, { start := start })
  match a.start with
  | .plain | .lineFeed | .joinedKeycap => none
  | .alef =>
    if isLam c then drawn 0 .plain else if isArabicTransparent c then drawn 0 .alef else none
  | .lamed => if a.joined && c = '\u05d0' then drawn 0 .plain else none
  | .subscriptLetter => if c = '\u17d2' then drawn (-1) .plain else none
  | .bugineseYa => if a.joined && c = '\u1a17' then drawn 0 .bugineseVowelYa else none
  | .bugineseVowelYa => if c = '\u1a15' then drawn 0 .plain else none
  | .tifinagh =>
    if c = '\u2d7f' then drawn 1 .tifinaghJoiner
    else if a.joined && isTifinagh c then drawn 0 .plain
    else none
  | .tifinaghJoiner => if isTifinagh c then drawn (-1) .plain else none
  | .lisuTone => if 0xA4F8 ≤ c.toNat && c.toNat ≤ 0xA4FB then drawn 0 .plain else none
  | .turkicI => if a.joined && c.toNat = 0x10C32 then drawn 0 .plain else none
  | .kiratVowelE =>
    if c.toNat = 0x16D63 || c.toNat = 0x16D69 then drawn 0 .plain
    else if c.toNat = 0x16D67 then drawn 0 .kiratVowelAi
    else if c.toNat = 0x16D68 then drawn 1 .kiratVowelE
    else none
  | .kiratVowelAi => if c.toNat = 0x16D63 then drawn 0 .plain else none
  | .skinTone =>
    if isPerson c then drawn 0 .picture else if c = joiner then drawn 0 .joinedPicture else none
  | .flagHalf => if isFlagHalf c then drawn 1 .flagHalves else none
  | .flagHalves =>
    if isFlagHalf c then drawn 1 .flagHalves
    else if c = joiner then drawn 0 .joinedPicture
    else none
  | .picture => if c = joiner then drawn 0 .joinedPicture else none
  | .joinedPicture =>
    if c = '\u20e3' then drawn 0 .joinedKeycap
    else if isFlagHalf c then drawn 1 .joinedFlagHalf
    else if isSkinTone c then drawn 0 .skinTone
    else if c.toNat = 0xE007F then drawn 0 .joinedTagEnd
    else if isColourPicture c then drawn 0 .picture
    else none
  | .joinedFlagHalf => if isFlagHalf c then drawn (-1) .joinedFlags else none
  | .joinedFlags =>
    if isFlagHalf c then drawn 3 .joinedFlagsAndHalf
    else if c = joiner then drawn 0 .joinedPicture
    else none
  | .joinedFlagsAndHalf =>
    if isFlagHalf c then drawn (-1) .joinedFlags
    else if c = joiner then drawn 0 .joinedPicture
    else none
  | .joinedTagEnd =>
    if isTagLetter c then drawn 0 (.joinedTagLetters 1)
    else if isTagDigit c then drawn 0 (.joinedTagDigits 1)
    else none
  | .joinedTagLetters n =>
    if isTagLetter c && n < 6 then drawn 0 (.joinedTagLetters (n + 1))
    else if isTagDigit c && n < 5 then drawn 0 (.joinedTagDigits 1)
    else if c.toNat = 0x1F3F4 && 3 ≤ n then drawn 0 .picture
    else none
  | .joinedTagDigits n =>
    if isTagDigit c && n < 3 then drawn 0 (.joinedTagDigits (n + 1))
    else if c.toNat = 0x1F3F4 && n = 3 then drawn 0 .picture
    else none

/-- The columns that a character adds when no selector is in question for it. -/
def addedBeside (c : Char) (a : Ahead) : Int × Ahead :=
  match if a.fullQuote then none else drawnWith? c a with
  | some drawn => drawn
  | none => (columnsOf c, startOf c)

/-- The columns that a character above the Latin ones adds, and what lies ahead of the one before. -/
def addedAfter (c : Char) (a : Ahead) : Int × Ahead :=
  if a = {} then (columnsOf c, startOf c)
  else if c = colourSelector then (0, a.withColour)
  else if c = fullQuoteSelector then (0, a.withFullQuote)
  else if c = inkSelector then (0, a.withInk)
  else if a.ink && isNarrowInInk c then (1, {})
  else if !a.ink && a.fullQuote && isQuotationMark c then (2, {})
  else
    let a : Ahead := if a.ink then { a with ink := false } else { a with fullQuote := false }
    if a.start.isLigature && a.start ≠ .alef && c = joiner then (0, { a with joined := true })
    else if a.start.isLigature && a.start ≠ .alef && isTransparent c then (0, a)
    else addedBeside c a

/-- The columns that a character adds to the text after it, and what lies ahead of the one before. -/
def added (c : Char) (a : Ahead) : Int × Ahead :=
  if a.colour && isSelectable c then
    (if a.start.isJoinedSign then 0 else 2, { start := .picture })
  else
    let a := if a.colour then a.withoutColour else a
    if 0xA0 < c.toNat then addedAfter c a
    else if c = '\r' && a.start = .lineFeed then (0, {})
    else (1, startOf c)

/-- The columns of a text, and what it is for a character before it. -/
def measure : List Char → Int × Ahead
  | [] => (0, {})
  | c :: rest =>
    let (columns, ahead) := measure rest
    let (more, ahead) := added c ahead
    (columns + more, ahead)

/-- The columns of a text. -/
def columns (cs : List Char) : Nat := (measure cs).1.toNat

end RecordReport.Text
