/-!
Which sections a report has. A section name turns on one flag, or all of them.
-/
namespace RecordReport

/-- The parts of a report that can be left out. -/
structure Visibility where
  records : Bool
  /-- The list of records at the head of the records section. -/
  contents : Bool
  properties : Bool
  /-- The list of properties at the head of the properties section. -/
  index : Bool
  deriving DecidableEq, Repr

namespace Visibility

def all : Visibility := ⟨true, true, true, true⟩

def none : Visibility := ⟨false, false, false, false⟩

instance : Inhabited Visibility := ⟨all⟩

end Visibility

/-- What a name in a list of sections stands for. -/
inductive Section where
  | records
  | contents
  | properties
  | index
  | all
  deriving DecidableEq, Repr

namespace Section

def name : Section → String
  | .records => "records"
  | .contents => "contents"
  | .properties => "properties"
  | .index => "index"
  | .all => "all"

/-- The section of a name, which is written in small letters. -/
def ofName? : String → Option Section
  | "records" => some .records
  | "contents" => some .contents
  | "properties" => some .properties
  | "index" => some .index
  | "all" => some .all
  | _ => none

end Section

/-- The flags with those of a section turned on. -/
def Visibility.enable (v : Visibility) : Section → Visibility
  | .records => { v with records := true }
  | .contents => { v with contents := true }
  | .properties => { v with properties := true }
  | .index => { v with index := true }
  | .all => all

/-- The sections that are turned on, one by one. -/
def Visibility.sections (v : Visibility) : List Section :=
  (if v.records then [.records] else []) ++ (if v.contents then [.contents] else []) ++
    (if v.properties then [.properties] else []) ++ (if v.index then [.index] else [])

end RecordReport
