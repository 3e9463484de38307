import Mathlib.Data.List.Basic
import RecordReport.Proofs.Markup

/-!
# Parts of a document

A part is reached by going down from an element, tag by tag. What is seen of it are its texts, from the
first to the last.
-/

namespace RecordReport.Node

def children : Node → List Node
  | .block _ children => children
  | .text _ _ | .verbatim _ _ | .void _ => []

/-- The elements with a tag of some kind. -/
def among (p : Tag → Bool) (nodes : List Node) : List Node := nodes.filter fun node => p node.tag

/-- The elements that are reached by going down through tags of one kind after the other. -/
def select : List (Tag → Bool) → Node → List Node
  | [], node => [node]
  | p :: ps, node => (among p node.children).flatMap (select ps)

/-- The element has this name. -/
def named (name : String) (t : Tag) : Bool := t.name = name

/-- The element has this identity. -/
def identified (id : String) (t : Tag) : Bool := t.attributes.lookup "id" = some id

mutual
/-- The texts of an element and those inside it. -/
def texts : Node → List String
  | .text _ content | .verbatim _ content => [content]
  | .void _ => []
  | .block _ children => textsAll children

def textsAll : List Node → List String
  | [] => []
  | node :: rest => texts node ++ textsAll rest
end

theorem textsAll_eq_flatMap (nodes : List Node) : textsAll nodes = nodes.flatMap texts := by
  induction nodes with
  | nil => rfl
  | cons node nodes ih => rw [textsAll, List.flatMap_cons, ih]

@[simp] theorem texts_block (t : Tag) (nodes : List Node) :
    (block t nodes).texts = nodes.flatMap texts := textsAll_eq_flatMap nodes

@[simp] theorem texts_plain (name content : String) : (plain name content).texts = [content] := rfl

@[simp] theorem texts_classed (name className content : String) :
    (classed name className content).texts = [content] := rfl

@[simp] theorem texts_link (id content : String) : (link id content).texts = [content] := rfl

/-! ## Going down -/

@[simp] theorem tag_plain (name content : String) : (plain name content).tag = ⟨name, []⟩ := rfl

@[simp] theorem tag_classed (name className content : String) :
    (classed name className content).tag = ⟨name, [("class", className)]⟩ := rfl

@[simp] theorem tag_block (t : Tag) (nodes : List Node) : (block t nodes).tag = t := rfl

section Among

variable {p : Tag → Bool} {nodes : List Node}

@[simp] theorem among_nil : among p [] = [] := rfl

@[simp] theorem among_cons (node : Node) :
    among p (node :: nodes) = if p node.tag then node :: among p nodes else among p nodes :=
  List.filter_cons

@[simp] theorem among_append (others : List Node) :
    among p (nodes ++ others) = among p nodes ++ among p others := List.filter_append ..

theorem among_eq_self (h : ∀ node ∈ nodes, p node.tag = true) : among p nodes = nodes :=
  List.filter_eq_self.mpr h

theorem among_eq_nil (h : ∀ node ∈ nodes, p node.tag = false) : among p nodes = [] := by
  refine List.filter_eq_nil_iff.mpr fun node hnode => ?_
  rw [h node hnode]
  exact Bool.false_ne_true

end Among

@[simp] theorem select_nil (node : Node) : node.select [] = [node] := rfl

@[simp] theorem select_cons (p : Tag → Bool) (ps : List (Tag → Bool)) (t : Tag) (nodes : List Node) :
    (block t nodes).select (p :: ps) = (among p nodes).flatMap (select ps) := rfl

theorem select_append (ps qs : List (Tag → Bool)) (node : Node) :
    node.select (ps ++ qs) = (node.select ps).flatMap (select qs) := by
  induction ps generalizing node with
  | nil => simp
  | cons p ps ih =>
      simp only [List.cons_append, select, List.flatMap_assoc]
      exact List.flatMap_congr fun child _ => ih child

theorem select_only {p : Tag → Bool} {child : Node} (h : p child.tag = true)
    (ps : List (Tag → Bool)) (t : Tag) : (block t [child]).select (p :: ps) = child.select ps := by
  simp [h]

/-- All parts of a block are of the kind that is looked for. -/
theorem select_map {α : Type} {p : Tag → Bool} {f : α → Node} (h : ∀ x, p (f x).tag = true) (t : Tag)
    (xs : List α) : (block t (xs.map f)).select [p] = xs.map f := by
  have hall : among p (xs.map f) = xs.map f := among_eq_self (List.forall_mem_map.mpr fun x _ => h x)
  rw [select_cons, hall]
  exact List.flatMap_singleton' _

end RecordReport.Node
