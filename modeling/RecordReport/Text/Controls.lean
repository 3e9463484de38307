import RecordReport.Text.Columns

/-!
Control sequences: what a text tells a terminal to do. A sequence takes no column, and a style that a
sequence sets holds until another sequence resets it.
-/
namespace RecordReport.Text

/-- The character that begins a control sequence. -/
def escape : Char := '\x1b'

/-! ## What is shown -/

/-- How far a terminal has come in a control sequence. -/
inductive Reading where
  | shown
  /-- After the first character. -/
  | opened
  /-- Before the last of several characters. -/
  | intermediate
  /-- Within parameters. -/
  | parameters
  /-- Within a command that a bell ends. -/
  | command
  /-- Within data that only another sequence ends. -/
  | data
  deriving DecidableEq, Repr

/-- The characters that end a sequence at once. -/
def isCancel (c : Char) : Bool := c = '\x18' || c = '\x1a'

/-- A terminal reads one more character of a sequence. -/
def Reading.next (r : Reading) (c : Char) : Reading :=
  let within (low high : Nat) : Bool := low ≤ c.toNat && c.toNat ≤ high
  if c = escape then .opened
  else if isCancel c then .shown
  else match r with
    | .shown => .shown
    | .opened =>
      if within 0x20 0x2F then .intermediate
      else if c = '[' then .parameters
      else if c = ']' then .command
      else if c = 'P' || c = 'X' || c = '^' || c = '_' then .data
      else if within 0x30 0x7E then .shown
      else .opened
    | .intermediate => if within 0x30 0x7E then .shown else .intermediate
    | .parameters => if within 0x40 0x7E then .shown else .parameters
    | .command => if c = '\x07' then .shown else .command
    | .data => .data

/-- What a terminal shows from some point on, of which `pending` has been read as a sequence. A sequence
without an end is shown but for its first character. -/
def shownFrom (r : Reading) (pending : List Char) : List Char → List Char
  | [] => pending.reverse.tail
  | c :: rest =>
    if r = .shown && c ≠ escape then c :: shownFrom .shown [] rest
    else
      let after := r.next c
      if after = .shown then shownFrom .shown [] rest
      else shownFrom after (c :: if c = escape then [] else pending) rest

/-- The text without its control sequences. -/
def shown (cs : List Char) : List Char := shownFrom .shown [] cs

/-- The columns that a text with control sequences takes. -/
def shownColumns (cs : List Char) : Nat := columns (shown cs)

/-! ## Styles -/

/-- How much of a style code has been read. -/
inductive CodeRead where
  | opened
  /-- A round bracket has come first. -/
  | bracket
  /-- Brackets and other signs have come. -/
  | signs
  /-- A number has come, of at most five digits. -/
  | number (digits : Nat)
  /-- Numbers and semicolons have come. -/
  | separated
  /-- Within a command that a bell or another escape ends. -/
  | command
  /-- After the escape that ends a command. -/
  | commandEnd
  /-- Nothing can follow. -/
  | ended
  deriving DecidableEq, Repr

/-- The letters and signs that end a style code. -/
def isCodeEnd (c : Char) : Bool :=
  inRanges [(65, 80), (82, 82), (90, 90), (99, 99), (102, 110), (113, 114), (121, 121), (60, 62)] c

namespace CodeRead

/-- What has been read is a style code. -/
def isWhole : CodeRead → Bool
  | .number _ | .ended => true
  | _ => false

/-- A style code goes on with a character. -/
def next? (r : CodeRead) (c : Char) : Option CodeRead :=
  match r with
  | .ended => none
  | .command => some (if c = '\x07' then .ended else if c = escape then .commandEnd else .command)
  | .commandEnd => if c = '\\' then some .ended else none
  | .opened | .bracket | .signs =>
    if c = '(' || c = ')' then some (if r = .opened then .bracket else .signs)
    else if c = ';' || c = '[' || c = '#' || c = '?' then some .signs
    else if c = ']' && r = .opened then some .command
    else if c.isDigit then
      some (if r = .bracket && c.toNat ≤ '2'.toNat then .ended else .number 1)
    else if isCodeEnd c then some .ended
    else none
  | .number n =>
    if 5 ≤ n then none
    else if c = ';' then some .separated
    else if c.isDigit then some (.number (n + 1))
    else if isCodeEnd c then some .ended
    else none
  | .separated =>
    if c = ';' then some .separated
    else if c.isDigit then some (.number 1)
    else if isCodeEnd c then some .ended
    else none

end CodeRead

/-- The number of characters up to the end of the longest style code, of which `count` have been
read. -/
def codeLength? (r : CodeRead) (count : Nat) : List Char → Option Nat
  | [] => if r.isWhole then some count else none
  | c :: rest =>
    let longer := (r.next? c).bind fun r => codeLength? r (count + 1) rest
    longer.or (if r.isWhole then some count else none)

/-- A piece of a text with style codes. -/
inductive Run where
  /-- A style code, without the character that opens it. -/
  | code (opening : Char) (rest : List Char)
  | plain (cs : List Char)
  deriving DecidableEq, Repr

/-- The characters of a run. -/
def Run.chars : Run → List Char
  | .code opening rest => opening :: rest
  | .plain cs => cs

/-- A character before runs; plain characters stay together. -/
def plainBefore (c : Char) : List Run → List Run
  | .plain cs :: runs => .plain (c :: cs) :: runs
  | runs => .plain [c] :: runs

/-- The style codes of a text and the plain pieces between them. -/
def runs : List Char → List Run
  | [] => []
  | c :: rest =>
    if c = escape || c = '\x9b' then
      match codeLength? .opened 0 rest with
      | some n => .code c (rest.take n) :: runs (rest.drop n)
      | none => plainBefore c (runs rest)
    else plainBefore c (runs rest)
termination_by cs => cs.length
decreasing_by all_goals (simp; try omega)

/-- The style code that resets every style. -/
def resetCode : List Char := [escape, '[', '0', 'm']

/-- The style codes in force after another one. -/
def codesAfter (codes : List (List Char)) (code : List Char) : List (List Char) :=
  if code = resetCode then [] else codes ++ [code]

/-- The style codes in force after some runs. -/
def codesAfterRuns (codes : List (List Char)) (rs : List Run) : List (List Char) :=
  rs.foldl
    (fun codes run =>
      match run with
      | .code opening rest => codesAfter codes (opening :: rest)
      | .plain _ => codes)
    codes

/-- Lines that can stand apart: a style that goes on past the end of a line is reset there and set again
at the beginning of the next. -/
def restyled (codes : List (List Char)) : List (List Char) → List (List Char)
  | [] => []
  | line :: rest =>
    let after := codesAfterRuns codes (runs line)
    (codes.flatten ++ line ++ if after.isEmpty then [] else resetCode) :: restyled after rest

end RecordReport.Text
