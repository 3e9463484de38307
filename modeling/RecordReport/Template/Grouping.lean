import RecordReport.Template.Line

/-!
Groups of items. The head of a group opens it; a blank row, a command, another head or the end of the
template closes it.
-/
namespace RecordReport.Template

/-- Something that a row completes. -/
inductive Effect where
  | item (item : Item)
  | command (command : Command)
  deriving DecidableEq, Repr

/-- Whether a group is open. -/
inductive Grouping where
  | idle
  | inGroup (group : Group)
  deriving DecidableEq, Repr

namespace Grouping

instance : Inhabited Grouping := ⟨idle⟩

def close : Grouping → Option Item
  | .idle => none
  | .inGroup group => some (.group group)

def closing (g : Grouping) : List Effect := (g.close.map Effect.item).toList

/-- A scalar outside groups shows its property's name if it has no label. -/
def labelled (scalar : Scalar) : Scalar :=
  if scalar.label = "" then { scalar with label := scalar.property } else scalar

/-- The state after a row and what the row completes. -/
def advance (g : Grouping) : Line → Grouping × List Effect
  | .comment | .ignored => (g, [])
  | .command command => (.idle, g.closing ++ [.command command])
  | .blank => (.idle, g.closing)
  | .groupStart label => (.inGroup ⟨label, []⟩, g.closing)
  | .item scalar =>
    match g with
    | .idle => (.idle, [.item (.scalar (labelled scalar))])
    | .inGroup group => (.inGroup { group with members := group.members ++ [scalar] }, [])

end Grouping
end RecordReport.Template
