import RecordReport.Markup

/-!
# Attributes in a document

What is read off the tags of an element is read off its own tag and then off the elements inside it.
-/

namespace RecordReport.Node

theorem tagsAll_eq_flatMap (nodes : List Node) : tagsAll nodes = nodes.flatMap tags := by
  induction nodes with
  | nil => rfl
  | cons node nodes ih => rw [tagsAll, List.flatMap_cons, ih]

/-- The values of an attribute in an element and those inside it. -/
def values (name : String) (node : Node) : List String :=
  node.tags.filterMap (·.attributes.lookup name)

theorem ids_eq_values (node : Node) : node.ids = node.values "id" := rfl

theorem links_eq_values (node : Node) : node.links = node.values "href" := rfl

variable (name : String) (t : Tag) (content : String)

@[simp] theorem values_text :
    (text t content).values name = (t.attributes.lookup name).toList := by
  cases h : t.attributes.lookup name <;> simp [values, tags, h]

@[simp] theorem values_verbatim :
    (verbatim t content).values name = (t.attributes.lookup name).toList := by
  cases h : t.attributes.lookup name <;> simp [values, tags, h]

@[simp] theorem values_void :
    (void t).values name = (t.attributes.lookup name).toList := by
  cases h : t.attributes.lookup name <;> simp [values, tags, h]

@[simp] theorem values_block (children : List Node) :
    (block t children).values name =
      (t.attributes.lookup name).toList ++ children.flatMap (values name) := by
  have hchildren : (tagsAll children).filterMap (·.attributes.lookup name) =
      children.flatMap (values name) := by
    rw [tagsAll_eq_flatMap, List.filterMap_flatMap]
    rfl
  cases h : t.attributes.lookup name <;> simp [values, tags, h, hchildren]

@[simp] theorem values_plain (tagName : String) : (plain tagName content).values name = [] := by
  simp [plain]

theorem values_classed (h : name ≠ "class") (tagName className : String) :
    (classed tagName className content).values name = [] := by
  simp [classed, List.lookup_cons, beq_eq_false_iff_ne.mpr h]

@[simp] theorem values_link (id : String) :
    (link id content).values name = if name = "href" then ["#" ++ id] else [] := by
  by_cases h : name = "href"
  · simp [link, h]
  · simp [link, List.lookup_cons, beq_eq_false_iff_ne.mpr h, h]

end RecordReport.Node
