/-!
Numbers in texts.
-/
namespace RecordReport.Text

/-- The number of a list of digits, of which there is at least one. -/
def digitsValue? (cs : List Char) : Option Nat :=
  if cs.isEmpty || !cs.all Char.isDigit then none
  else some (cs.foldl (fun n c => 10 * n + (c.toNat - '0'.toNat)) 0)

/-- The natural number of a text; a plus sign may stand before it. -/
def natural? (s : String) : Option Nat :=
  match s.toList with
  | '+' :: rest => digitsValue? rest
  | cs => digitsValue? cs

/-- A list of characters without a sign at its beginning. -/
def unsigned : List Char → List Char
  | '+' :: rest => rest
  | '-' :: rest => rest
  | cs => cs

/-- A whole number of ten, which may have a sign. -/
def isExponent (cs : List Char) : Bool := (digitsValue? (unsigned cs)).isSome

/-- Digits with at most one point among them, and with or without an exponent. -/
def isDecimal (cs : List Char) : Bool :=
  let (mantissa, exponent) := cs.span fun c => c ≠ 'e' && c ≠ 'E'
  let digits := mantissa.erase '.'
  !digits.isEmpty && digits.all Char.isDigit &&
    (match exponent with
    | [] => true
    | _ :: exponent => isExponent exponent)

/-- The text is a number: with a sign or a point, or one beyond all bounds or none at all. -/
def isNumeral (s : String) : Bool :=
  let cs := unsigned s.toList
  isDecimal cs || ["inf", "infinity", "nan"].contains (String.ofList (cs.map Char.toLower))

end RecordReport.Text
