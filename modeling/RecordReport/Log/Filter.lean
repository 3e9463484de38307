import RecordReport.Log.Directive

/-!
Filters: which events are logged. A filter is a list of directives. For an event by itself, the most
particular directive about it decides; a directive for a span admits what happens inside it.
-/
namespace RecordReport.Log

/-- The directives of a filter; of two about the same the later one counts. -/
abbrev Filter := List Directive

namespace Filter

/-- The filter of a text, if every directive of it can be read. A text without directives logs errors
only. -/
def parse? (text : String) : Option Filter :=
  match ((Text.split ',' text).filter (· ≠ "")).mapM Directive.read? with
  | none => none
  | some [] => some [{ threshold := .upTo .error }]
  | some directives => some directives

def depth (directives : List Directive) : Nat :=
  directives.foldl (fun most d => max most d.threshold.depth) 0

def deciding? (directives : List Directive) : Option Directive :=
  directives.foldl
    (fun best d =>
      match best with
      | none => some d
      | some e => if e.decidesBefore d then some e else some d)
    none

/-- The directives of which no later one is about the same. -/
def latest : List Directive → List Directive
  | [] => []
  | d :: rest => if rest.any d.isAboutSame then latest rest else d :: latest rest

variable (f : Filter)

def admitsAlone (isAbout : Directive → Bool) (level : Level) : Bool :=
  match deciding? (f.filter fun d => d.isStatic && isAbout d) with
  | some d => d.threshold.admits level
  | none => false

def spanDirectives : List Directive := (latest f).filter Directive.isDynamic

/-- The greatest depth of what the directives about spans admit. -/
def spanDepth : Nat := depth (f.filter Directive.isDynamic)

/-- The directives about a span, whatever its values. -/
def directivesAbout (span : Span) : List Directive :=
  (spanDirectives f).filter fun d =>
    d.covers span.origin && (d.span.isNone || d.span = some span.name) &&
      d.findsFields (span.fields.map (·.1))

/-- The depth of what the directives about a span admit inside it. -/
def depthInside (span : Span) : Nat :=
  depth ((directivesAbout f span).filter (·.admitsValues span))

/-- One of some spans admits what happens at a level inside it. -/
def admitsInside (spans : List Span) (level : Level) : Bool :=
  level.depth ≤ spanDepth f && spans.any fun span => level.depth ≤ depthInside f span

/-- The depth down to which anything can be logged. Where values matter, spans have to be looked at
whatever their level. -/
def possibleDepth : Nat :=
  if (spanDirectives f).any Directive.wantsValues then Level.trace.depth else depth f

/-- The names of an event's fields; its message is one of them. -/
def eventFieldNames (event : Event) : List String := "message" :: event.fields.map (·.1)

def admits (spans : List Span) (event : Event) : Bool :=
  admitsAlone f
      (fun d => d.covers event.origin && d.findsFields (eventFieldNames event)) event.level ||
    admitsInside f spans event.level

/-- A span is logged with the events inside it. -/
def admitsSpan (outer : List Span) (span : Span) : Bool :=
  Level.info.depth ≤ possibleDepth f &&
    (!(directivesAbout f span).isEmpty || admitsAlone f (·.covers span.origin) .info ||
      admitsInside f outer .info)

end Filter
end RecordReport.Log
