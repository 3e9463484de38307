import RecordReport.Text.Pattern

/-!
The written form of patterns. Most characters stand for themselves; `.` stands for any character of a
line, `[…]` for one of a set, `*`, `+` and `?` for repetition, `|` for a choice, `(…)` for a group, `^`
and `$` for the ends of a text, and a backslash takes the meaning from the character after it or gives
one to it.
-/
namespace RecordReport.Text.Pattern

/-- How characters are read. -/
structure Mode where
  /-- Letters stand for both their sizes. -/
  anyCase : Bool := false
  /-- The dot stands for line breaks as well. -/
  dotAll : Bool := false
  /-- Repetitions are as short as can be, unless a question mark follows them. -/
  short : Bool := false
  /-- Blanks and what follows a hash sign stand for nothing. -/
  spaced : Bool := false

/-- A set as it is meant in a mode. -/
def Mode.apply (m : Mode) (s : CharSet) : CharSet := if m.anyCase then .anyCase s else s

/-! ## Characters -/

/-- What an escape stands for. -/
inductive Meaning where
  | char (c : Char)
  | set (s : CharSet)
  | pattern (p : Pattern)

/-- The value of digits in base sixteen. -/
def hexValue? (digits : List Char) : Option Nat :=
  digits.foldlM
    (fun n c =>
      if c.isDigit then some (16 * n + (c.toNat - '0'.toNat))
      else if 'a' ≤ c && c ≤ 'f' then some (16 * n + (c.toNat - 'a'.toNat + 10))
      else if 'A' ≤ c && c ≤ 'F' then some (16 * n + (c.toNat - 'A'.toNat + 10))
      else none)
    0

/-- The character whose code point is written with a number of digits, and what follows. -/
def coded? (count : Nat) (cs : List Char) : Option (Meaning × List Char) :=
  if cs.length < count then none
  else
    match hexValue? (cs.take count) with
    | none => none
    | some n =>
      if n.isValidChar then some (.char (Char.ofNat n), cs.drop count) else none

/-- The meaning of what follows a backslash, and the rest. -/
def escape? : List Char → Option (Meaning × List Char)
  | [] => none
  | 'd' :: rest => some (.set .digits, rest)
  | 'D' :: rest => some (.set (.complement .digits), rest)
  | 's' :: rest => some (.set .blanks, rest)
  | 'S' :: rest => some (.set (.complement .blanks), rest)
  | 'w' :: rest => some (.set .words, rest)
  | 'W' :: rest => some (.set (.complement .words), rest)
  | 'n' :: rest => some (.char '\n', rest)
  | 't' :: rest => some (.char '\t', rest)
  | 'r' :: rest => some (.char '\r', rest)
  | 'a' :: rest => some (.char '\x07', rest)
  | 'f' :: rest => some (.char '\x0c', rest)
  | 'v' :: rest => some (.char '\x0b', rest)
  | 'A' :: rest => some (.pattern .atStart, rest)
  | 'z' :: rest => some (.pattern .atEnd, rest)
  | 'x' :: rest => coded? 2 rest
  | 'u' :: rest => coded? 4 rest
  | 'U' :: rest => coded? 8 rest
  | c :: rest =>
    if c.isAlphanum || c = '<' || c = '>' || 127 < c.toNat then none
    else some (.char c, rest)

/-! ## Sets -/

/-- The classes of ASCII characters by their names. -/
def namedRanges? : String → Option (List (Nat × Nat))
  | "alnum" => some [(48, 57), (65, 90), (97, 122)]
  | "alpha" => some [(65, 90), (97, 122)]
  | "ascii" => some [(0, 127)]
  | "blank" => some [(9, 9), (32, 32)]
  | "cntrl" => some [(0, 31), (127, 127)]
  | "digit" => some [(48, 57)]
  | "graph" => some [(33, 126)]
  | "lower" => some [(97, 122)]
  | "print" => some [(32, 126)]
  | "punct" => some [(33, 47), (58, 64), (91, 96), (123, 126)]
  | "space" => some [(9, 13), (32, 32)]
  | "upper" => some [(65, 90)]
  | "word" => some [(48, 57), (65, 90), (95, 95), (97, 122)]
  | "xdigit" => some [(48, 57), (65, 70), (97, 102)]
  | _ => none

/-- A set with a class of a name in it, such as `alpha`, and what follows. -/
def named? (cs : List Char) : Option (CharSet × List Char) :=
  let (negated, cs) := match cs with
    | '^' :: rest => (true, rest)
    | _ => (false, cs)
  let name := cs.takeWhile Char.isAlpha
  match cs.drop name.length with
  | ':' :: ']' :: rest =>
    (namedRanges? (String.ofList name)).map fun rs =>
      (if negated then .complement (.ranges rs) else .ranges rs, rest)
  | _ => none

/-- One member of a set or the end of a range, and what follows. -/
def member? : List Char → Option (Meaning × List Char)
  | [] => none
  | '\\' :: rest => escape? rest
  | c :: rest => some (.char c, rest)

/-- The meeting of two sets that two equal signs between them stand for. -/
def meeting? : Char → Option (CharSet → CharSet → CharSet)
  | '&' => some CharSet.inter
  | '-' => some CharSet.minus
  | '~' => some CharSet.differing
  | _ => none

/-- The set that is being read: what came before the last two equal signs, to be met with the rest. -/
structure Members where
  before : CharSet → CharSet := id
  now : CharSet := .none

namespace Members

/-- One more part of the set. -/
def add (s : Members) (t : CharSet) : Members := { s with now := s.now.union t }

/-- The whole set. -/
def whole (s : Members) : CharSet := s.before s.now

/-- The set so far, to be met with what follows. -/
def meet (s : Members) (f : CharSet → CharSet → CharSet) : Members := { before := f s.whole }

end Members

/-- A hyphen does not begin a range when a bracket or another hyphen follows it. -/
def beginsRange : List Char → Bool
  | '-' :: ']' :: _ | '-' :: '-' :: _ => false
  | '-' :: _ => true
  | _ => false

/-- The hyphens with which a set begins are members of it, and so is a bracket that comes first. -/
def leading (s : Members) : List Char → Members × List Char
  | '-' :: rest => leading (s.add (.only '-')) rest
  | ']' :: rest => if s.now = .none then (s.add (.only ']'), rest) else (s, ']' :: rest)
  | cs => (s, cs)

/-- A set is of the characters that are not written if a caret comes first. -/
def negation (cs : List Char) : (CharSet → CharSet) × List Char :=
  match cs with
  | '^' :: rest => (.complement, rest)
  | _ => (id, cs)

mutual

/-- The members of a set up to its closing bracket, and what follows. -/
def members? (m : Mode) : Nat → Members → List Char → Option (CharSet × List Char)
  | 0, _, _ => none
  | _ + 1, _, [] => none
  | _ + 1, s, ']' :: rest => some (s.whole, rest)
  | fuel + 1, s, '[' :: ':' :: rest =>
    match named? rest with
    | some (t, rest) => members? m fuel (s.add (m.apply t)) rest
    | none => none
  | fuel + 1, s, '[' :: rest =>
    let (negate, rest) := negation rest
    let (first, rest) := leading {} rest
    match members? m fuel first rest with
    | some (t, rest) => members? m fuel (s.add (negate t)) rest
    | none => none
  | fuel + 1, s, cs =>
    match cs, (cs.head?.bind meeting?) with
    | c :: d :: rest, some f =>
      if c = d then members? m fuel (s.meet f) rest else range? m fuel s cs
    | _, _ => range? m fuel s cs

/-- A member or a range at the head of the rest of a set. -/
def range? (m : Mode) (fuel : Nat) (s : Members) (cs : List Char) : Option (CharSet × List Char) :=
  match member? cs with
  | some (.char low, rest) =>
    if beginsRange rest then
      match member? rest.tail with
      | some (.char high, rest) =>
        if low ≤ high then
          members? m fuel (s.add (m.apply (.ranges [(low.toNat, high.toNat)]))) rest
        else none
      | _ => none
    else members? m fuel (s.add (m.apply (.only low))) rest
  | some (.set t, rest) => if beginsRange rest then none else members? m fuel (s.add t) rest
  | _ => none

end

/-- A set after its opening bracket, and what follows. -/
def set? (m : Mode) (cs : List Char) : Option (CharSet × List Char) :=
  let (negate, cs) := negation cs
  let (first, cs) := leading {} cs
  (members? m (cs.length + 1) first cs).map fun (s, rest) => (negate s, rest)

/-! ## Groups -/

/-- A group that is being read. -/
structure Group where
  /-- The choices before the current one, the last first. -/
  choices : List Pattern := []
  /-- What has been read of the current choice, the last first; an item can be repeated if it is a
  pattern. -/
  items : List (Option Pattern) := []
  /-- The mode to go back to after the group. -/
  outer : Mode := {}

namespace Group

/-- The current choice. -/
def choice (g : Group) : Pattern :=
  match g.items.filterMap id with
  | [] => .empty
  | last :: before => before.foldl (fun q p => .seq p q) last

/-- The group with another choice begun. -/
def nextChoice (g : Group) : Group := { g with choices := g.choice :: g.choices, items := [] }

/-- The pattern of the whole group. -/
def pattern (g : Group) : Pattern := g.choices.foldl (fun q p => .either p q) g.choice

/-- The group with one more item. -/
def push (g : Group) (p : Pattern) : Group := { g with items := some p :: g.items }

/-- The group with a change of mode in it, which cannot be repeated. -/
def pushMode (g : Group) : Group := { g with items := none :: g.items }

/-- The group with its last item changed, if it can be repeated. -/
def repeatLast? (g : Group) (f : Pattern → Pattern) : Option Group :=
  match g.items with
  | some p :: rest => some { g with items := some (f p) :: rest }
  | _ => none

end Group

/-- A mode with letters switched on, and off after a hyphen. -/
def switched? (on : Bool) (m : Mode) : List Char → Option Mode
  | [] => some m
  | '-' :: rest => if on && !rest.isEmpty then switched? false m rest else none
  | 'i' :: rest => switched? on { m with anyCase := on } rest
  | 's' :: rest => switched? on { m with dotAll := on } rest
  | 'U' :: rest => switched? on { m with short := on } rest
  | 'x' :: rest => switched? on { m with spaced := on } rest
  | 'u' :: rest | 'm' :: rest | 'R' :: rest => switched? on m rest
  | _ => none

/-- The name of a group may begin with this character. -/
def isNameStart (c : Char) : Bool := c = '_' || c.isAlpha

/-- What stands after the question mark of a group: a new mode, whether it is for the group or for the
rest of the one around it, and what follows. -/
def groupHead? (m : Mode) (cs : List Char) : Option (Mode × Bool × List Char) :=
  let named (rest : List Char) : Option (Mode × Bool × List Char) :=
    match rest.span (· ≠ '>') with
    | (first :: name, _ :: after) =>
      if isNameStart first && name.all (fun c => isNameStart c || c.isDigit) then
        some (m, true, after)
      else none
    | _ => none
  match cs with
  | 'P' :: '<' :: rest => named rest
  | '<' :: rest => named rest
  | _ =>
    let letters := cs.takeWhile fun c => c.isAlpha || c = '-'
    match switched? true m letters, cs.drop letters.length with
    | some m, ':' :: rest => some (m, true, rest)
    | some m, ')' :: rest => if letters.isEmpty then none else some (m, false, rest)
    | _, _ => none

/-- One or more times. -/
def atLeastOnce (greedy : Bool) (p : Pattern) : Pattern := .seq p (.many p greedy)

/-- Once or not at all. -/
def perhaps (greedy : Bool) (p : Pattern) : Pattern :=
  if greedy then .either p .empty else .either .empty p

/-- The repetition of a sign. -/
def repetition (sign : Char) (greedy : Bool) (p : Pattern) : Pattern :=
  if sign = '*' then .many p greedy
  else if sign = '+' then atLeastOnce greedy p
  else perhaps greedy p

/-- The pattern that is left to read within some groups, the innermost first. -/
def readFrom (m : Mode) (g : Group) (around : List Group) : Nat → List Char → Option Pattern
  | 0, _ => none
  | _ + 1, [] => if around.isEmpty then some g.pattern else none
  | fuel + 1, '(' :: '?' :: rest =>
    match groupHead? m rest with
    | some (inner, true, rest) => readFrom inner { outer := m } (g :: around) fuel rest
    | some (inner, false, rest) => readFrom inner g.pushMode around fuel rest
    | none => none
  | fuel + 1, '(' :: rest => readFrom m { outer := m } (g :: around) fuel rest
  | fuel + 1, ')' :: rest =>
    match around with
    | outer :: around => readFrom g.outer (outer.push g.pattern) around fuel rest
    | [] => none
  | fuel + 1, '|' :: rest => readFrom m g.nextChoice around fuel rest
  | fuel + 1, '[' :: rest =>
    match set? m rest with
    | some (s, rest) => readFrom m (g.push (.one s)) around fuel rest
    | none => none
  | fuel + 1, '\\' :: rest =>
    match escape? rest with
    | some (.char c, rest) => readFrom m (g.push (.one (m.apply (.only c)))) around fuel rest
    | some (.set s, rest) => readFrom m (g.push (.one s)) around fuel rest
    | some (.pattern p, rest) => readFrom m (g.push p) around fuel rest
    | none => none
  | fuel + 1, '.' :: rest =>
    readFrom m (g.push (.one (if m.dotAll then .all else .inLine))) around fuel rest
  | fuel + 1, '^' :: rest => readFrom m (g.push .atStart) around fuel rest
  | fuel + 1, '$' :: rest => readFrom m (g.push .atEnd) around fuel rest
  | fuel + 1, c :: rest =>
    if m.spaced && isBlank c then readFrom m g around fuel rest
    else if m.spaced && c = '#' then
      readFrom m g around fuel (rest.dropWhile (· ≠ '\n'))
    else if c = '*' || c = '+' || c = '?' then
      let (greedy, rest) := match rest with
        | '?' :: rest => (m.short, rest)
        | _ => (!m.short, rest)
      match g.repeatLast? (repetition c greedy) with
      | some g => readFrom m g around fuel rest
      | none => none
    else if c = '\x7b' then none
    else readFrom m (g.push (.one (m.apply (.only c)))) around fuel rest

/-- The pattern of a text. Counted repetitions are not read. -/
def read? (text : String) : Option Pattern := readFrom {} {} [] (text.length + 1) text.toList

end RecordReport.Text.Pattern
