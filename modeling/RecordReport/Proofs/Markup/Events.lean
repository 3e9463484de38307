import RecordReport.Markup

/-!
# The events of an element

An element is opened and closed by balanced events. The writer of events keeps a depth and a line break
that is due, and still the pieces of an element depend on the element and its depth only.
-/

namespace RecordReport

namespace Tag

def opening (t : Tag) : String := "<" ++ t.content ++ ">"

def closing (t : Tag) : String := "</" ++ t.name ++ ">"

/-- The tag of an element without content. -/
def single (t : Tag) : String := "<" ++ t.content ++ "/>"

end Tag

namespace Markup

/-! ## Tags that are passed on -/

/-- What stands between two angle brackets. -/
inductive Mark where
  | declaration (content : String)
  | opening (tag : Tag)
  | single (tag : Tag)
  | closing (name : String)
  deriving DecidableEq, Repr

/-- The tag that an event puts into the text. -/
def Event.mark? : Event → Option Mark
  | .declaration content => some (.declaration ("DOCTYPE " ++ content))
  | .opening t => some (.opening t)
  | .closing name => some (.closing name)
  | .single t => some (.single t)
  | .text _ | .verbatim _ => none

/-- A tag that is passed on, and the text that is passed on just before it. -/
structure Step where
  before : Option String
  mark : Mark
  deriving DecidableEq, Repr

/-- The tags of events, the first of which comes after some text or none. -/
def stepsFrom (before : Option String) : List Event → List Step
  | [] => []
  | .text content :: rest | .verbatim content :: rest =>
    stepsFrom (some (before.getD "" ++ content)) rest
  | .declaration content :: rest =>
    ⟨before, .declaration ("DOCTYPE " ++ content)⟩ :: stepsFrom none rest
  | .opening t :: rest => ⟨before, .opening t⟩ :: stepsFrom none rest
  | .closing name :: rest => ⟨before, .closing name⟩ :: stepsFrom none rest
  | .single t :: rest => ⟨before, .single t⟩ :: stepsFrom none rest

theorem map_mark_stepsFrom (before : Option String) (events : List Event) :
    (stepsFrom before events).map Step.mark = events.filterMap Event.mark? := by
  induction events generalizing before with
  | nil => rfl
  | cons event rest ih => cases event <;> simp [stepsFrom, List.filterMap_cons, Event.mark?, ih]

def declaration : Mark := .declaration "DOCTYPE html"

end Markup

open Markup

namespace Node

mutual
/-- The tags of an element and those inside it, opened and closed in turn, with the texts between. -/
def steps : Node → List Step
  | .text t content | .verbatim t content =>
    [⟨none, .opening t⟩, ⟨some content, .closing t.name⟩]
  | .void t => [⟨none, .single t⟩]
  | .block t children => ⟨none, .opening t⟩ :: stepsAll children ++ [⟨none, .closing t.name⟩]

def stepsAll : List Node → List Step
  | [] => []
  | node :: rest => steps node ++ stepsAll rest
end

mutual
theorem stepsFrom_events (rest : List Event) : (node : Node) →
    stepsFrom none (node.events ++ rest) = node.steps ++ stepsFrom none rest
  | .text _ _ | .verbatim _ _ => by simp [events, steps, stepsFrom]
  | .void _ => by simp [events, steps, stepsFrom]
  | .block t children => by
      have hchildren := stepsFrom_eventsAll (.closing t.name :: rest) children
      simp [events, steps, stepsFrom, hchildren]

theorem stepsFrom_eventsAll (rest : List Event) : (nodes : List Node) →
    stepsFrom none (eventsAll nodes ++ rest) = stepsAll nodes ++ stepsFrom none rest
  | [] => rfl
  | node :: nodes => by
      rw [eventsAll, stepsAll, List.append_assoc, stepsFrom_events, stepsFrom_eventsAll rest nodes,
        List.append_assoc]
end

end Node

theorem Markup.stepsFrom_documentEvents (root : Node) :
    stepsFrom none (documentEvents root) = ⟨none, declaration⟩ :: root.steps := by
  have hroot := root.stepsFrom_events []
  rw [List.append_nil, stepsFrom, List.append_nil] at hroot
  rw [documentEvents, stepsFrom, hroot]
  rfl

namespace Markup

/-! ## Balance -/

/-- The elements that are open after a tag, the innermost first, unless the tag closes another one. -/
def Mark.track (opened : List String) : Mark → Option (List String)
  | .opening t => some (t.name :: opened)
  | .single _ | .declaration _ => some opened
  | .closing name => if opened.head? = some name then some opened.tail else none

/-- Every element is closed, and closed before those around it. -/
def Closed (marks : List Mark) : Prop := marks.foldlM Mark.track [] = some []

/-- The events close what they open and nothing else. -/
def Balanced (events : List Event) : Prop :=
  ∀ opened, (events.filterMap Event.mark?).foldlM Mark.track opened = some opened

theorem balanced_of_no_marks {events : List Event} (h : events.filterMap Event.mark? = []) :
    Balanced events := by
  intro opened
  rw [h]
  rfl

theorem balanced_single (t : Tag) : Balanced [.single t] := fun _ => rfl

namespace Balanced

variable {events others : List Event}

theorem append (h : Balanced events) (h' : Balanced others) : Balanced (events ++ others) := by
  intro opened
  rw [List.filterMap_append, List.foldlM_append, h opened]
  exact h' opened

/-- Between an opening tag and its closing the element is the innermost. -/
theorem enclosed (t : Tag) (h : Balanced events) :
    Balanced (.opening t :: events ++ [.closing t.name]) := by
  intro opened
  have hinside := h (t.name :: opened)
  simp [Event.mark?, Mark.track, hinside]

theorem closed (h : Balanced events) : Closed (events.filterMap Event.mark?) := h []

end Balanced

mutual
/-- An element is passed on by balanced events. -/
theorem balanced_events : (node : Node) → Balanced node.events
  | .text t content => (balanced_of_no_marks rfl : Balanced [.text content]).enclosed t
  | .verbatim t content => (balanced_of_no_marks rfl : Balanced [.verbatim content]).enclosed t
  | .void t => balanced_single t
  | .block t children => (balanced_eventsAll children).enclosed t

theorem balanced_eventsAll : (nodes : List Node) → Balanced (Node.eventsAll nodes)
  | [] => balanced_of_no_marks rfl
  | node :: nodes => (balanced_events node).append (balanced_eventsAll nodes)
end

theorem balanced_documentEvents (root : Node) : Balanced (documentEvents root) := balanced_events root

end Markup

namespace Node

/-! ## The pieces of an element -/

/-- The break and indentation before an element at some depth. -/
def lineStart (depth : Nat) : String := String.ofList ('\n' :: List.replicate (2 * depth) ' ')

def lineWrites (depth : Nat) : List String := ["\n", indentation depth]

mutual
/-- The pieces of an element at some depth, after the break before it. -/
def writes (depth : Nat) : Node → List String
  | .text t content => ["<", t.content, ">", escape content, "</", t.name, ">"]
  | .verbatim t content => ["<", t.content, ">", content, "</", t.name, ">"]
  | .void t => ["<", t.content, "/>"]
  | .block t children =>
    ["<", t.content, ">"] ++ writesAll (depth + 1) children ++ lineWrites depth ++ ["</", t.name, ">"]

def writesAll (depth : Nat) : List Node → List String
  | [] => []
  | node :: rest => lineWrites depth ++ writes depth node ++ writesAll depth rest
end

mutual
/-- Where a line break is due, the events of an element are written as its pieces, and then a line break is
due at the same depth. -/
theorem writesAll_events (depth : Nat) (rest : List Event) : (node : Node) →
    Layout.writesAll ⟨depth, true⟩ (node.events ++ rest) =
      lineWrites depth ++ node.writes depth ++ Layout.writesAll ⟨depth, true⟩ rest
  | .text _ _ | .verbatim _ _ => by
      simp [events, writes, lineWrites, Layout.writesAll, Layout.writes, Layout.tagWrites, Layout.next,
        Layout.closed]
  | .void _ => by
      simp [events, writes, lineWrites, Layout.writesAll, Layout.writes, Layout.tagWrites, Layout.next]
  | .block t children => by
      have hchildren := writesAll_eventsAll (depth + 1) (.closing t.name :: rest) children
      simp [events, writes, lineWrites, Layout.writesAll, Layout.writes, Layout.tagWrites, Layout.next,
        Layout.closed, hchildren]

theorem writesAll_eventsAll (depth : Nat) (rest : List Event) : (nodes : List Node) →
    Layout.writesAll ⟨depth, true⟩ (eventsAll nodes ++ rest) =
      writesAll depth nodes ++ Layout.writesAll ⟨depth, true⟩ rest
  | [] => rfl
  | node :: nodes => by
      rw [eventsAll, writesAll, List.append_assoc, writesAll_events,
        writesAll_eventsAll depth rest nodes]
      simp only [List.append_assoc]
end

/-! ## The text of an element -/

/-- What is written for an element after the break before it. -/
def textAt (depth : Nat) (node : Node) : String := String.join (node.writes depth)

def linesAt (depth : Nat) (nodes : List Node) : String := String.join (writesAll depth nodes)

variable (depth : Nat)

theorem join_lineWrites : String.join (lineWrites depth) = lineStart depth := by
  refine String.toList_inj.mp ?_
  simp [lineWrites, indentation, lineStart]

@[simp] theorem linesAt_nil : linesAt depth [] = "" := rfl

@[simp] theorem linesAt_cons (node : Node) (nodes : List Node) :
    linesAt depth (node :: nodes) = lineStart depth ++ node.textAt depth ++ linesAt depth nodes := by
  rw [linesAt, writesAll, String.join_append, String.join_append, join_lineWrites, textAt, linesAt]

@[simp] theorem linesAt_append (nodes others : List Node) :
    linesAt depth (nodes ++ others) = linesAt depth nodes ++ linesAt depth others := by
  induction nodes with
  | nil => simp
  | cons node nodes ih => simp [ih, String.append_assoc]

theorem textAt_text (t : Tag) (content : String) :
    (text t content).textAt depth = t.opening ++ escape content ++ t.closing := by
  simp [textAt, writes, Tag.opening, Tag.closing, String.append_assoc]

theorem textAt_verbatim (t : Tag) (content : String) :
    (verbatim t content).textAt depth = t.opening ++ content ++ t.closing := by
  simp [textAt, writes, Tag.opening, Tag.closing, String.append_assoc]

theorem textAt_void (t : Tag) : (void t).textAt depth = t.single := by
  simp [textAt, writes, Tag.single, String.append_assoc]

theorem textAt_block (t : Tag) (children : List Node) : (block t children).textAt depth =
    t.opening ++ linesAt (depth + 1) children ++ lineStart depth ++ t.closing := by
  rw [textAt, writes, String.join_append, String.join_append, String.join_append, join_lineWrites]
  simp [linesAt, Tag.opening, Tag.closing, String.append_assoc]

end Node

namespace Markup

/-! ## Documents -/

theorem documentWrites_eq (root : Node) :
    documentWrites root = ["<!DOCTYPE ", "html", ">"] ++ Node.lineWrites 0 ++ root.writes 0 := by
  have hroot := Node.writesAll_events 0 [] root
  rw [List.append_nil, Layout.writesAll, List.append_nil] at hroot
  rw [documentWrites, documentEvents, Layout.writesAll, List.append_assoc, ← hroot]
  rfl

theorem documentText_eq (root : Node) :
    documentText root = "<!DOCTYPE html>" ++ (Node.lineStart 0 ++ root.textAt 0) := by
  rw [documentText, documentWrites_eq, String.join_append, String.join_append, Node.join_lineWrites,
    String.append_assoc]
  rfl

end Markup
end RecordReport
