/-!
Documents as trees of elements, and the events that write them. An element holds either one text, written
on the line of its tags, or other elements, written on lines of their own. Text is escaped when it is
written, so it cannot be taken for a tag, and line breaks stand around tags only.
-/
namespace RecordReport

/-- The name and attributes of an element. -/
structure Tag where
  name : String
  attributes : List (String × String) := []
  deriving DecidableEq, Repr

/-- An element. -/
inductive Node where
  /-- A text between tags. -/
  | text (tag : Tag) (content : String)
  /-- A text between tags that is written as it is. -/
  | verbatim (tag : Tag) (content : String)
  /-- A tag without content. -/
  | void (tag : Tag)
  | block (tag : Tag) (children : List Node)
  deriving Repr

namespace Markup

def escapeChar : Char → String
  | '<' => "&lt;"
  | '>' => "&gt;"
  | '&' => "&amp;"
  | '\'' => "&apos;"
  | '"' => "&quot;"
  | c => c.toString

def escape (s : String) : String := String.join (s.toList.map escapeChar)

def attributeText (a : String × String) : String := " " ++ a.1 ++ "=\"" ++ escape a.2 ++ "\""

end Markup

/-- What stands between the angle brackets of an opening tag. -/
def Tag.content (t : Tag) : String :=
  t.name ++ String.join (t.attributes.map Markup.attributeText)

namespace Markup

/-! ## Events -/

/-- What is passed on to be written, one after the other. -/
inductive Event where
  /-- The type of the document. -/
  | declaration (content : String)
  | opening (tag : Tag)
  | closing (name : String)
  /-- The tag of an element without content. -/
  | single (tag : Tag)
  | text (content : String)
  /-- A text that is written as it is. -/
  | verbatim (content : String)
  deriving DecidableEq, Repr

/-- What the writer of events keeps. -/
structure Layout where
  /-- How far the next tag is indented. -/
  depth : Nat
  /-- Whether the next tag starts a line. -/
  breakDue : Bool
  deriving DecidableEq, Repr

def indentation (depth : Nat) : String := String.ofList (List.replicate (2 * depth) ' ')

namespace Layout

def start : Layout := ⟨0, false⟩

/-- The pieces of a tag, after the line break that is due. -/
def tagWrites (l : Layout) (before content after : String) : List String :=
  (if l.breakDue then ["\n", indentation l.depth] else []) ++ [before, content, after]

/-- A closing tag is indented as its opening tag was. -/
def closed (l : Layout) : Layout := { l with depth := l.depth - 1 }

/-- The pieces that an event is written in. -/
def writes (l : Layout) : Event → List String
  | .declaration content => l.tagWrites "<!DOCTYPE " content ">"
  | .opening t => l.tagWrites "<" t.content ">"
  | .closing name => l.closed.tagWrites "</" name ">"
  | .single t => l.tagWrites "<" t.content "/>"
  | .text content => [escape content]
  | .verbatim content => [content]

/-- No line is broken after a text. -/
def next (l : Layout) : Event → Layout
  | .declaration _ | .single _ => ⟨l.depth, true⟩
  | .opening _ => ⟨l.depth + 1, true⟩
  | .closing _ => ⟨l.closed.depth, true⟩
  | .text _ | .verbatim _ => ⟨l.depth, false⟩

def writesAll (l : Layout) : List Event → List String
  | [] => []
  | event :: rest => l.writes event ++ (l.next event).writesAll rest

end Layout
end Markup

namespace Node

open Markup (Event)

mutual
/-- What is passed on for an element: it is opened, filled and closed. -/
def events : Node → List Event
  | .text t content => [.opening t, .text content, .closing t.name]
  | .verbatim t content => [.opening t, .verbatim content, .closing t.name]
  | .void t => [.single t]
  | .block t children => .opening t :: eventsAll children ++ [.closing t.name]

def eventsAll : List Node → List Event
  | [] => []
  | node :: rest => events node ++ eventsAll rest
end

def tag : Node → Tag
  | .text t _ | .verbatim t _ | .void t | .block t _ => t

mutual
/-- The tags of an element and those inside it, in the order of their openings. -/
def tags : Node → List Tag
  | .text t _ | .verbatim t _ | .void t => [t]
  | .block t children => t :: tagsAll children

def tagsAll : List Node → List Tag
  | [] => []
  | node :: rest => tags node ++ tagsAll rest
end

/-- The identities of an element and those inside it. -/
def ids (node : Node) : List String := node.tags.filterMap (·.attributes.lookup "id")

def links (node : Node) : List String := node.tags.filterMap (·.attributes.lookup "href")

def plain (name content : String) : Node := .text ⟨name, []⟩ content

def classed (name className content : String) : Node := .text ⟨name, [("class", className)]⟩ content

def link (id content : String) : Node := .text ⟨"a", [("href", "#" ++ id)]⟩ content

end Node

namespace Markup

/-- A document is declared first, and then its outermost element is written. -/
def documentEvents (root : Node) : List Event := .declaration "html" :: root.events

/-- The pieces that a document is written in. -/
def documentWrites (root : Node) : List String := Layout.start.writesAll (documentEvents root)

def documentText (root : Node) : String := String.join (documentWrites root)

end Markup
end RecordReport
