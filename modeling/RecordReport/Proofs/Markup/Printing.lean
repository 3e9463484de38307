import RecordReport.Proofs.Markup.Events

/-!
# The text around an element

What is written before and after an element depends on the elements around it and not on the element
itself.
-/

namespace RecordReport

namespace Node

variable (depth : Nat)

/-- Another child is a text inserted at one place. -/
theorem exists_textAt_insert (t : Tag) (before after : List Node) : ∃ upper lower,
    (block t (before ++ after)).textAt depth = upper ++ lower ∧
      ∀ node, (block t (before ++ node :: after)).textAt depth =
        upper ++ (lineStart (depth + 1) ++ node.textAt (depth + 1)) ++ lower := by
  refine ⟨t.opening ++ linesAt (depth + 1) before,
    linesAt (depth + 1) after ++ lineStart depth ++ t.closing, ?_, fun node => ?_⟩
  · simp [textAt_block, String.append_assoc]
  · simp [textAt_block, String.append_assoc]

/-! ## Elements around an element -/

/-- An element with a place left for a child. -/
structure Frame where
  tag : Tag
  before : List Node
  after : List Node

/-- An element inside others, of which the first is the outermost. -/
def enclose : List Frame → Node → Node
  | [], node => node
  | frame :: frames, node => .block frame.tag (frame.before ++ enclose frames node :: frame.after)

def textBefore (depth : Nat) : List Frame → String
  | [] => ""
  | frame :: frames =>
    frame.tag.opening ++ linesAt (depth + 1) frame.before ++ lineStart (depth + 1) ++
      textBefore (depth + 1) frames

def textAfter (depth : Nat) : List Frame → String
  | [] => ""
  | frame :: frames =>
    textAfter (depth + 1) frames ++ linesAt (depth + 1) frame.after ++ lineStart depth ++
      frame.tag.closing

theorem textAt_enclose (frames : List Frame) (node : Node) : (enclose frames node).textAt depth =
    textBefore depth frames ++ node.textAt (depth + frames.length) ++ textAfter depth frames := by
  -- Each frame takes the element inside it one level down.
  induction frames generalizing depth with
  | nil => simp [enclose, textBefore, textAfter]
  | cons frame frames ih =>
      have hdepth : depth + 1 + frames.length = depth + (frame :: frames).length := by
        rw [List.length_cons]
        omega
      simp [enclose, textAt_block, ih, hdepth, textBefore, textAfter, String.append_assoc]

end Node

namespace Markup

open Node

def documentBefore (frames : List Frame) : String :=
  "<!DOCTYPE html>" ++ lineStart 0 ++ textBefore 0 frames

theorem documentText_enclose (frames : List Frame) (node : Node) :
    documentText (enclose frames node) =
      documentBefore frames ++ node.textAt frames.length ++ textAfter 0 frames := by
  rw [documentText_eq, textAt_enclose, Nat.zero_add]
  unfold documentBefore
  simp only [String.append_assoc]

end Markup
end RecordReport
