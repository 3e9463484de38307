import RecordReport.Text.Split
import RecordReport.Text.Utf8

/-!
Files by path. A disk is the directory that relative paths start from; reading and writing fail for
the reasons a file system gives.
-/
namespace RecordReport

/-- What a disk holds at a place. -/
inductive Disk.Entry where
  | file (content : Bytes)
  | directory
  /-- Something that cannot be used, and why. -/
  | closed (reason : String)
  deriving DecidableEq, Repr

/-- The names from the starting directory to a place. Places above the starting directory begin with
`..`, and those of absolute paths with `/`. -/
abbrev Disk.Place := List String

/-- The places that exist, other than the starting directory, those above it, and the root. -/
structure Disk where
  entries : List (Disk.Place × Disk.Entry) := []
  deriving DecidableEq, Repr

namespace Disk

/-- Why a path cannot be read or written. -/
inductive Failure where
  | notFound
  | notDirectory
  | isDirectory
  /-- A name has more than 255 bytes, or a path more than 4095. -/
  | nameTooLong
  /-- A name has a zero character in it. -/
  | zeroInName
  /-- Another reason, in words. -/
  | other (reason : String)
  deriving DecidableEq, Repr

def Failure.message : Failure → String
  | .notFound => "No such file or directory (os error 2)"
  | .notDirectory => "Not a directory (os error 20)"
  | .isDirectory => "Is a directory (os error 21)"
  | .nameTooLong => "File name too long (os error 36)"
  | .zeroInName => "file name contained an unexpected NUL byte"
  | .other reason => reason

def root : Place := ["/"]

def isAbove (place : Place) : Bool := place.all (· = "..")

def entry? (disk : Disk) (place : Place) : Option Entry :=
  if isAbove place || place = root then some .directory else disk.entries.lookup place

/-- A disk with an entry put at a place. -/
def put (disk : Disk) (place : Place) (entry : Entry) : Disk :=
  ⟨(place, entry) :: disk.entries.filter (·.1 ≠ place)⟩

/-- The names in a path; `.` is the directory itself and `..` the one above it. -/
def names (path : String) : List String := (Text.split '/' path).filter (· ≠ "")

/-- The path can only name a directory. -/
def namesDirectory (path : String) : Bool := path.toList.getLast? = some '/'

/-- The place of a name in the directory at a place. -/
def child (place : Place) (name : String) : Place :=
  if name = "." then place
  else if name ≠ ".." then place ++ [name]
  else if isAbove place then place ++ [".."]
  else if place = root then root
  else place.dropLast

/-- The places that names lead to from `place`, one name after the other. -/
def placesFrom (place : Place) : List String → List Place
  | [] => []
  | name :: rest => child place name :: placesFrom (child place name) rest

/-- The place reached from `place` by names that go through existing directories. -/
def walk (disk : Disk) (place : Place) : List String → Except Failure Place
  | [] => .ok place
  | name :: rest =>
    match disk.entry? place with
    | none => .error .notFound
    | some (.file _) => .error .notDirectory
    | some (.closed reason) => .error (.other reason)
    | some .directory =>
      if 255 < name.utf8ByteSize then .error .nameTooLong else disk.walk (child place name) rest

/-- The place that the names of a path start from. -/
def origin (path : String) : Place := if Text.startsWith path '/' then root else []

/-- The places on the way to the end of a path. -/
def placesOn (path : String) : List Place := placesFrom (origin path) (names path)

def pathOf : Place → String
  | "/" :: rest => "/" ++ "/".intercalate rest
  | names => "/".intercalate names

/-- The place that a path names, which need not exist. -/
def locate (disk : Disk) (path : String) : Except Failure Place :=
  if path = "" then .error .notFound
  else if path.contains '\x00' then .error .zeroInName
  else if 4095 < path.utf8ByteSize then .error .nameTooLong
  else disk.walk (origin path) (names path)

def read (disk : Disk) (path : String) : Except Failure Bytes := do
  let place ← disk.locate path
  match disk.entry? place with
  | none => .error .notFound
  | some .directory => .error .isDirectory
  | some (.closed reason) => .error (.other reason)
  | some (.file content) =>
    if namesDirectory path then .error .notDirectory else .ok content

/-- The place of a file that can be written, and its content if it exists. -/
def target (disk : Disk) (path : String) : Except Failure (Place × Option Bytes) := do
  let place ← disk.locate path
  match disk.entry? place with
  | some .directory => .error .isDirectory
  | some (.closed reason) => .error (.other reason)
  | some (.file content) =>
    if namesDirectory path then .error .notDirectory else .ok (place, some content)
  | none => if namesDirectory path then .error .isDirectory else .ok (place, none)

def write (disk : Disk) (path : String) (content : Bytes) : Except Failure Disk := do
  let (place, _) ← disk.target path
  return disk.put place (.file content)

def append (disk : Disk) (path : String) (content : Bytes) : Except Failure Disk := do
  let (place, old) ← disk.target path
  return disk.put place (.file (old.getD [] ++ content))

/-- The files of a disk whose content is not that of another disk. -/
def changesSince (disk before : Disk) : List (Place × Bytes) :=
  disk.entries.filterMap fun (place, entry) =>
    match entry with
    | .file content =>
      if before.entry? place = some (.file content) then none else some (place, content)
    | _ => none

end Disk
end RecordReport
