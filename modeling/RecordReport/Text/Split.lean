/-!
Splitting a text at a separator. Joining the pieces again with the separator gives the text back.
-/
namespace RecordReport.Text

/-- The pieces of a list between the members equal to `separator`; there is always one. -/
def pieces {α : Type} [BEq α] (separator : α) : List α → List (List α)
  | [] => [[]]
  | x :: xs =>
    if x == separator then [] :: pieces separator xs
    else match pieces separator xs with
      | [] => [[x]]
      | piece :: rest => (x :: piece) :: rest

/-- The pieces of a text between its separators. -/
def split (separator : Char) (s : String) : List String :=
  (pieces separator s.toList).map String.ofList

/-- The text before and after the first separator. -/
def splitOnce? (separator : Char) (s : String) : Option (String × String) :=
  let cs := s.toList
  match cs.dropWhile (· != separator) with
  | [] => none
  | _ :: rest => some (String.ofList (cs.takeWhile (· != separator)), String.ofList rest)

/-- The text before and after the last separator. -/
def splitLast? (separator : Char) (s : String) : Option (String × String) :=
  let cs := s.toList.reverse
  match cs.dropWhile (· != separator) with
  | [] => none
  | _ :: rest =>
    some (String.ofList rest.reverse, String.ofList (cs.takeWhile (· != separator)).reverse)

/-- Whether a text begins with a character. -/
def startsWith (s : String) (c : Char) : Bool :=
  s.toList.head? == some c

end RecordReport.Text
