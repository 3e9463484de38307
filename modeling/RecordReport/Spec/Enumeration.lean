import RecordReport.Text.Blank
import RecordReport.Text.Split

/-!
Enumerations: labels for raw values, written `key=label;key=label`. Reading a written enumeration
gives it back whenever its keys are distinct and no part holds a separator or a blank end.
-/
namespace RecordReport

/-- Labels by key, in order; a lookup takes the first entry of a key. -/
structure Enumeration where
  entries : List (String × String)
  nonempty : entries ≠ []
  deriving DecidableEq, Repr

namespace Enumeration

def entrySeparator : Char := ';'

def assign : Char := '='

/-- The enumeration with these entries, if there are any. -/
def ofEntries? (entries : List (String × String)) : Option Enumeration :=
  if h : entries = [] then none else some ⟨entries, h⟩

def get? (e : Enumeration) (raw : String) : Option String := e.entries.lookup raw

/-- Why a text is no enumeration. -/
inductive Fault where
  /-- An entry without the sign between key and label. -/
  | malformed (entry : String)
  | repeatedKey (key : String)
  deriving DecidableEq, Repr

def Fault.message : Fault → String
  | .malformed entry => s!"enumeration entry '{entry}' is not of the form key=value"
  | .repeatedKey key => s!"enumeration key '{key}' appears more than once"

/-- The entries of written segments. Blank segments are none, and a label may hold further signs. -/
def parseEntries (seen : List String) : List String → Except Fault (List (String × String))
  | [] => .ok []
  | segment :: rest =>
    let entry := Text.trim segment
    if entry = "" then parseEntries seen rest
    else match Text.splitOnce? assign entry with
      | none => .error (.malformed entry)
      | some (before, after) =>
        let key := Text.trim before
        if key ∈ seen then .error (.repeatedKey key)
        else (parseEntries (key :: seen) rest).map ((key, Text.trim after) :: ·)

/-- The enumeration of a text; a text without entries stands for none. -/
def parse (text : String) : Except Fault (Option Enumeration) :=
  (parseEntries [] (Text.split entrySeparator text)).map ofEntries?

def formatEntry (entry : String × String) : String :=
  entry.1 ++ assign.toString ++ entry.2

def format (e : Enumeration) : String :=
  entrySeparator.toString.intercalate (e.entries.map formatEntry)

end Enumeration
end RecordReport
