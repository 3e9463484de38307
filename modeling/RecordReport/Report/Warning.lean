import RecordReport.JsonText

/-!
Findings that do not keep a report from being written, and results that come with such findings. What is
met again after it has been given once is left out.
-/
namespace RecordReport

/-- The members whose key no earlier member has. -/
def firstsBy {α β : Type} [DecidableEq β] (key : α → β) : List α → List α
  | [] => []
  | x :: xs => x :: (firstsBy key xs).filter fun y => key y ≠ key x

/-- The first occurrence of each member. -/
def firsts {α : Type} [DecidableEq α] (xs : List α) : List α := firstsBy id xs

namespace Report

/-- A finding. -/
inductive Warning where
  /-- The data has a property that the specification does not refer to. -/
  | unreferenced (property : String)
  /-- A value that the enumeration of its property does not list. -/
  | missingEntry (property value : String)
  deriving DecidableEq, Repr

namespace Warning

def property : Warning → String
  | .unreferenced p | .missingEntry p _ => p

def message : Warning → String
  | .unreferenced p => s!"property '{p}' is not referenced by the template"
  | .missingEntry p value => s!"no enumeration entry for value '{value}' of property '{p}'"

/-- Unreferenced properties come first; then the property decides, then the value. -/
def order : Warning → Warning → Ordering
  | .unreferenced p, .unreferenced q => compare p q
  | .unreferenced _, .missingEntry _ _ => .lt
  | .missingEntry _ _, .unreferenced _ => .gt
  | .missingEntry p v, .missingEntry q w => (compare p q).then (compare v w)

def toJson : Warning → JsonValue
  | .unreferenced p => .object [("kind", .string "unreferenced_property"), ("property", .string p)]
  | .missingEntry p value =>
    .object [("kind", .string "missing_enumeration_entry"), ("property", .string p),
      ("value", .string value)]

/-- How findings are printed. -/
inductive Format where
  /-- A line for each. -/
  | text
  /-- An array. -/
  | json
  deriving DecidableEq, Repr

def format (warnings : List Warning) : Format → String
  | .text => String.join (warnings.map fun w => "warning: " ++ w.message ++ "\n")
  | .json => (JsonValue.array (warnings.map toJson)).pretty 0 ++ "\n"

end Warning

/-- A value and what was found while making it, in order. -/
structure Noted (α : Type) where
  value : α
  warnings : List Warning
  deriving Repr

namespace Noted

/-- A value without findings. -/
def silent {α : Type} (value : α) : Noted α := ⟨value, []⟩

def map {α β : Type} (f : α → β) (x : Noted α) : Noted β := ⟨f x.value, x.warnings⟩

/-- The values one after the other, with the findings of each in turn. -/
def join {α : Type} (xs : List (Noted (List α))) : Noted (List α) :=
  ⟨xs.flatMap (·.value), xs.flatMap (·.warnings)⟩

end Noted

end Report
end RecordReport
