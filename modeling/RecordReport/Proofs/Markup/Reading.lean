import Mathlib.Data.List.Forall2
import Mathlib.Tactic.MkIffOfInductiveProp
import RecordReport.Proofs.Markup.Events
import RecordReport.Proofs.Spec.Enumeration

/-!
# Reading a document back

A document that is cut at its angle brackets gives the tags and texts that were passed on to be written,
whatever characters the texts hold.
-/

namespace RecordReport

namespace Markup

/-! ## Undoing escapes -/

def unescapeChars : List Char → List Char
  | '&' :: 'l' :: 't' :: ';' :: cs => '<' :: unescapeChars cs
  | '&' :: 'g' :: 't' :: ';' :: cs => '>' :: unescapeChars cs
  | '&' :: 'a' :: 'm' :: 'p' :: ';' :: cs => '&' :: unescapeChars cs
  | '&' :: 'a' :: 'p' :: 'o' :: 's' :: ';' :: cs => '\'' :: unescapeChars cs
  | '&' :: 'q' :: 'u' :: 'o' :: 't' :: ';' :: cs => '"' :: unescapeChars cs
  | c :: cs => c :: unescapeChars cs
  | [] => []

def unescape (s : String) : String := String.ofList (unescapeChars s.toList)

theorem unescapeChars_cons {c : Char} (h : c ≠ '&') (cs : List Char) :
    unescapeChars (c :: cs) = c :: unescapeChars cs := by
  rw [unescapeChars] <;> exact fun _ hc => absurd hc h

theorem unescapeChars_eq_self {cs : List Char} (h : '&' ∉ cs) : unescapeChars cs = cs := by
  induction cs with
  | nil => rfl
  | cons c cs ih =>
      obtain ⟨hc, hcs⟩ := not_or.mp (mt List.mem_cons.mpr h)
      rw [unescapeChars_cons (Ne.symm hc), ih hcs]

theorem toList_escape (s : String) :
    (escape s).toList = s.toList.flatMap fun c => (escapeChar c).toList := by
  rw [escape, String.toList_join, List.flatMap_map]

/-- The characters that an escaped text does not hold. -/
def isSpecial (c : Char) : Bool := c = '<' || c = '>' || c = '\'' || c = '"'

theorem escapeChar_cases (c : Char) :
    (∀ cs, unescapeChars ((escapeChar c).toList ++ cs) = c :: unescapeChars cs) ∧
      (escapeChar c).toList.any isSpecial = false := by
  by_cases h : c = '<' ∨ c = '>' ∨ c = '&' ∨ c = '\'' ∨ c = '"'
  · rcases h with rfl | rfl | rfl | rfl | rfl <;> exact ⟨fun _ => rfl, rfl⟩
  · simp only [not_or] at h
    obtain ⟨hl, hg, ha, hs, hq⟩ := h
    have hc : (escapeChar c).toList = [c] := by simp [escapeChar]
    rw [hc]
    exact ⟨fun cs => unescapeChars_cons ha cs, by simp [isSpecial, hl, hg, hs, hq]⟩

theorem unescape_escape (s : String) : unescape (escape s) = s := by
  have h (cs : List Char) :
      unescapeChars (cs.flatMap fun c => (escapeChar c).toList) = cs := by
    induction cs with
    | nil => rfl
    | cons c cs ih => rw [List.flatMap_cons, (escapeChar_cases c).1, ih]
  rw [unescape, toList_escape, h, String.ofList_toList]

theorem not_mem_escape {c : Char} (h : isSpecial c = true) (s : String) : c ∉ (escape s).toList := by
  rw [toList_escape, List.mem_flatMap]
  rintro ⟨d, -, hc⟩
  exact List.any_eq_false.mp (escapeChar_cases d).2 c hc h

/-! ## Names -/

/-- Letters and digits. -/
@[mk_iff] structure PlainName (name : String) : Prop where
  ne_empty : name ≠ ""
  alphanumeric : ∀ c ∈ name.toList, c.isAlphanum = true

instance (name : String) : Decidable (PlainName name) :=
  decidable_of_iff (name ≠ "" ∧ name.toList.all Char.isAlphanum = true) (by simp [plainName_iff])

theorem PlainName.not_mem {name : String} (h : PlainName name) {c : Char}
    (hc : c.isAlphanum = false) : c ∉ name.toList := by
  intro hmem
  rw [h.alphanumeric c hmem] at hc
  cases hc

end Markup

/-- Only the values of attributes may be any text. -/
structure Tag.Plain (t : Tag) : Prop where
  name : Markup.PlainName t.name
  attributes : ∀ a ∈ t.attributes, Markup.PlainName a.1

namespace Markup

/-! ## Reading a tag -/

/-- The name in what stands before the value of an attribute. -/
def attributeName? : List Char → Option String
  | ' ' :: cs => if cs.getLast? = some '=' then some (String.ofList cs.dropLast) else none
  | _ => none

/-- The attributes in a text that has been cut at its quotes. -/
def attributes? : List (List Char) → Option (List (String × String))
  | [[]] => some []
  | key :: value :: rest => do
    let name ← attributeName? key
    return (name, unescape (String.ofList value)) :: (← attributes? rest)
  | _ => none

def tag? (content : List Char) : Option Tag :=
  let name := String.ofList (content.takeWhile (· != ' '))
  (attributes? (Text.pieces '"' (content.dropWhile (· != ' ')))).map (⟨name, ·⟩)

def mark? (inside : String) : Option Mark :=
  match inside.toList with
  | '!' :: cs => some (.declaration (String.ofList cs))
  | '/' :: cs => some (.closing (String.ofList cs))
  | cs => if cs.getLast? = some '/' then (tag? cs.dropLast).map .single else (tag? cs).map .opening

theorem pieces_append {separator : Char} {cs : List Char} (h : separator ∉ cs) (ds : List Char) :
    Text.pieces separator (cs ++ separator :: ds) = cs :: Text.pieces separator ds := by
  induction cs with
  | nil => simp [Text.pieces]
  | cons c cs ih =>
      obtain ⟨hc, hcs⟩ := not_or.mp (mt List.mem_cons.mpr h)
      have hne : (c == separator) = false := beq_eq_false_iff_ne.mpr (Ne.symm hc)
      rw [List.cons_append, Text.pieces, hne, ih hcs]
      rfl

theorem attributeName?_append (name : String) :
    attributeName? (' ' :: name.toList ++ ['=']) = some name := by
  simp [attributeName?]

theorem attributes?_attributeText {attributes : List (String × String)}
    (h : ∀ a ∈ attributes, PlainName a.1) :
    attributes? (Text.pieces '"' (attributes.flatMap fun a => (attributeText a).toList)) =
      some attributes := by
  induction attributes with
  | nil => rfl
  | cons a attributes ih =>
      obtain ⟨key, value⟩ := a
      simp only [List.forall_mem_cons] at h
      have htext (rest : List Char) : (attributeText (key, value)).toList ++ rest =
          (' ' :: key.toList ++ ['=']) ++ '"' :: ((escape value).toList ++ '"' :: rest) := by
        simp [attributeText]
      have hkey : '"' ∉ ' ' :: key.toList ++ ['='] := by
        simpa using h.1.not_mem (by decide)
      rw [List.flatMap_cons, htext, pieces_append hkey,
        pieces_append (not_mem_escape (by decide) value), attributes?, attributeName?_append, ih h.2,
        String.ofList_toList, unescape_escape]
      rfl

theorem toList_content (t : Tag) : t.content.toList =
    t.name.toList ++ t.attributes.flatMap fun a => (attributeText a).toList := by
  rw [Tag.content, String.toList_append, String.toList_join, List.flatMap_map]

theorem tag?_content {t : Tag} (h : t.Plain) : tag? t.content.toList = some t := by
  have hname : ∀ c ∈ t.name.toList, (c != ' ') = true := fun c hc =>
    bne_iff_ne.mpr fun hspace => h.name.not_mem (c := ' ') (by decide) (hspace ▸ hc)
  -- The attributes begin with a space, if there are any.
  obtain ⟨hnone, hall⟩ :
      (t.attributes.flatMap fun a => (attributeText a).toList).takeWhile (· != ' ') = [] ∧
        (t.attributes.flatMap fun a => (attributeText a).toList).dropWhile (· != ' ') =
          t.attributes.flatMap fun a => (attributeText a).toList := by
    cases t.attributes with
    | nil => exact ⟨rfl, rfl⟩
    | cons a attributes => simp [attributeText]
  rw [tag?, toList_content, List.takeWhile_append_of_pos hname, List.dropWhile_append_of_pos hname,
    hnone, hall, attributes?_attributeText h.attributes, List.append_nil, String.ofList_toList]
  rfl

/-- A tag without content is told from an opening tag by its last character. -/
theorem getLast?_content {t : Tag} (h : t.Plain) : t.content.toList.getLast? ≠ some '/' := by
  rw [toList_content]
  rcases List.eq_nil_or_concat t.attributes with hnil | ⟨attributes, a, hconcat⟩
  · rw [hnil, List.flatMap_nil, List.append_nil]
    exact fun hlast => h.name.not_mem (by decide) (List.mem_of_getLast? hlast)
  · rw [hconcat, List.concat_eq_append, List.flatMap_append]
    simp [attributeText, List.getLast?_append, List.getLast?_cons]

theorem mark?_of_alphanumeric {inside : String} {c : Char} (hc : c.isAlphanum = true)
    (h : inside.toList.head? = some c) :
    mark? inside =
      if inside.toList.getLast? = some '/' then (tag? inside.toList.dropLast).map .single
      else (tag? inside.toList).map .opening := by
  rw [mark?]
  split
  · rename_i heq
    rw [heq] at h
    cases h
    cases hc
  · rename_i heq
    rw [heq] at h
    cases h
    cases hc
  · rfl

/-- The name of a tag comes first, so an opening tag is no closing one. -/
theorem head?_content {t : Tag} (h : t.Plain) :
    ∃ c, c.isAlphanum = true ∧ ∀ rest : String, (t.content ++ rest).toList.head? = some c := by
  cases hname : t.name.toList with
  | nil => exact absurd (String.toList_eq_nil_iff.mp hname) h.name.ne_empty
  | cons c cs =>
      refine ⟨c, h.name.alphanumeric c (by simp [hname]), fun rest => ?_⟩
      rw [String.toList_append, toList_content, hname]
      rfl

theorem mark?_opening {t : Tag} (h : t.Plain) : mark? t.content = some (.opening t) := by
  obtain ⟨c, hc, hhead⟩ := head?_content h
  have hhead := hhead ""
  rw [String.append_empty] at hhead
  rw [mark?_of_alphanumeric hc hhead, if_neg (getLast?_content h), tag?_content h]
  rfl

theorem mark?_single {t : Tag} (h : t.Plain) : mark? (t.content ++ "/") = some (.single t) := by
  obtain ⟨c, hc, hhead⟩ := head?_content h
  have hlist : (t.content ++ "/").toList = t.content.toList ++ ['/'] := by simp
  rw [mark?_of_alphanumeric hc (hhead "/"), hlist, List.getLast?_concat, if_pos rfl,
    List.dropLast_concat, tag?_content h]
  rfl

theorem mark?_closing (name : String) : mark? ("/" ++ name) = some (.closing name) := by
  simp [mark?]

/-! ## Cutting a text at its brackets -/

/-- A text without angle brackets. -/
structure Bracketless (s : String) : Prop where
  opening : '<' ∉ s.toList
  closing : '>' ∉ s.toList

/-- A tag in a text, with the text before it. -/
structure Cut where
  before : String
  inside : String
  deriving DecidableEq, Repr

namespace Cut

def text (c : Cut) : String := c.before ++ "<" ++ c.inside ++ ">"

/-- The tag that a piece of text ends with. -/
def of? (piece : String) : Option Cut :=
  match Text.split '<' piece with
  | [before, inside] => some ⟨before, inside⟩
  | _ => none

/-- No bracket is found but those of the tag. -/
structure Bracketless (c : Cut) : Prop where
  before : Markup.Bracketless c.before
  inside : Markup.Bracketless c.inside

end Cut

/-- The tags of a text that ends with one. Each bracket belongs to one of them. -/
def cut? (text : String) : Option (List Cut) :=
  let pieces := Text.split '>' text
  if pieces.getLast? = some "" then pieces.dropLast.mapM Cut.of? else none

theorem Cut.of?_eq {c : Cut} (h : c.Bracketless) : Cut.of? (c.before ++ "<" ++ c.inside) = some c := by
  have hsplit : Text.split '<' (c.before ++ "<" ++ c.inside) = [c.before, c.inside] := by
    refine Eq.trans ?_ (@Text.split_intercalate '<' [c.before, c.inside] (by simp) ?_)
    · simp [String.append_assoc]
    · simpa using ⟨h.before.opening, h.inside.opening⟩
  rw [Cut.of?, hsplit]

theorem mapM_eq_some {α β : Type} {f : α → Option β} {xs : List α} {ys : List β}
    (h : List.Forall₂ (fun x y => f x = some y) xs ys) : xs.mapM f = some ys := by
  induction h with
  | nil => rfl
  | cons hx _ ih => rw [List.mapM_cons, hx, ih]; rfl

theorem split_join {cuts : List Cut} (h : ∀ c ∈ cuts, c.Bracketless) :
    Text.split '>' (String.join (cuts.map Cut.text)) =
      cuts.map (fun c => c.before ++ "<" ++ c.inside) ++ [""] := by
  have htexts : cuts.map Cut.text =
      (cuts.map fun c => c.before ++ "<" ++ c.inside).map (· ++ '>'.toString) := by
    rw [List.map_map]
    rfl
  rw [htexts, Text.split_join_ended]
  exact List.forall_mem_map.mpr fun c hc => by
    simpa using ⟨(h c hc).before.closing, (h c hc).inside.closing⟩

theorem cut?_join {cuts : List Cut} (h : ∀ c ∈ cuts, c.Bracketless) :
    cut? (String.join (cuts.map Cut.text)) = some cuts := by
  have hcuts : List.Forall₂ (fun piece c => Cut.of? piece = some c)
      (cuts.map fun c => c.before ++ "<" ++ c.inside) cuts := by
    rw [List.forall₂_map_left_iff, List.forall₂_same]
    exact fun c hc => Cut.of?_eq (h c hc)
  rw [cut?, split_join h, List.getLast?_concat, if_pos rfl, List.dropLast_concat, mapM_eq_some hcuts]

/-! ## Texts that show what was passed on -/

end Markup

/-- Tags have plain names, and a text that is written as it is holds nothing that would be escaped. -/
inductive Node.Plain : Node → Prop where
  | text {t : Tag} (content : String) (ht : t.Plain) : Plain (.text t content)
  | verbatim {t : Tag} {content : String} (ht : t.Plain)
    (hcontent : ∀ c ∈ content.toList, c ≠ '<' ∧ c ≠ '>' ∧ c ≠ '&') : Plain (.verbatim t content)
  | void {t : Tag} (ht : t.Plain) : Plain (.void t)
  | block {t : Tag} {children : List Node} (ht : t.Plain) (h : ∀ node ∈ children, Plain node) :
    Plain (.block t children)

namespace Markup

/-- Nothing, or a line break and an indentation. -/
def IsLayout (s : String) : Prop := s = "" ∨ ∃ n, s.toList = '\n' :: List.replicate n ' '

/-- The tag is the one passed on. The text before it is, after its escapes have been undone, the one
passed on or, if none was, layout. -/
structure Cut.Shows (c : Cut) (s : Step) : Prop where
  mark : mark? c.inside = some s.mark
  text : ∀ content ∈ s.before, unescape c.before = content
  layout : s.before = none → IsLayout c.before

/-- A text that is made of tags and texts which show some steps. -/
def Laid (text : String) (steps : List Step) : Prop :=
  ∃ cuts : List Cut, (∀ c ∈ cuts, c.Bracketless) ∧ text = String.join (cuts.map Cut.text) ∧
    List.Forall₂ Cut.Shows cuts steps

namespace Laid

theorem nil : Laid "" [] := ⟨[], by simp, rfl, .nil⟩

theorem single {before inside : String} {s : Step} (hbefore : Bracketless before)
    (hinside : Bracketless inside) (h : Cut.Shows ⟨before, inside⟩ s) :
    Laid (before ++ ("<" ++ inside ++ ">")) [s] :=
  ⟨[⟨before, inside⟩], by simpa using ⟨hbefore, hinside⟩,
    by simp [Cut.text, String.append_assoc], .cons h .nil⟩

theorem append {t u : String} {xs ys : List Step} (ht : Laid t xs) (hu : Laid u ys) :
    Laid (t ++ u) (xs ++ ys) := by
  obtain ⟨cs, hcs, rfl, hxs⟩ := ht
  obtain ⟨ds, hds, rfl, hys⟩ := hu
  refine ⟨cs ++ ds, ?_, by simp, List.rel_append hxs hys⟩
  rintro c hc
  exact (List.mem_append.mp hc).elim (hcs c) (hds c)

end Laid

/-! ## Whole documents -/

theorem PlainName.bracketless {name : String} (h : PlainName name) : Bracketless name :=
  ⟨h.not_mem (by decide), h.not_mem (by decide)⟩

theorem bracketless_escape (s : String) : Bracketless (escape s) :=
  ⟨not_mem_escape (by decide) s, not_mem_escape (by decide) s⟩

theorem Bracketless.append {s t : String} (hs : Bracketless s) (ht : Bracketless t) :
    Bracketless (s ++ t) := by
  constructor
  · simpa using ⟨hs.opening, ht.opening⟩
  · simpa using ⟨hs.closing, ht.closing⟩

theorem bracketless_attributeText {a : String × String} (h : PlainName a.1) :
    Bracketless (attributeText a) :=
  ((((⟨by decide, by decide⟩ : Bracketless " ").append h.bracketless).append
    ⟨by decide, by decide⟩).append (bracketless_escape a.2)).append ⟨by decide, by decide⟩

theorem bracketless_content {t : Tag} (h : t.Plain) : Bracketless t.content := by
  have hattributes : ∀ c ∈ t.attributes.flatMap fun a => (attributeText a).toList,
      c ≠ '<' ∧ c ≠ '>' := by
    intro c hc
    obtain ⟨a, ha, hc⟩ := List.mem_flatMap.mp hc
    have hfree := bracketless_attributeText (h.attributes a ha)
    exact ⟨fun heq => hfree.opening (heq ▸ hc), fun heq => hfree.closing (heq ▸ hc)⟩
  constructor <;> rw [toList_content, List.mem_append]
  · rintro (hmem | hmem)
    · exact h.name.bracketless.opening hmem
    · exact (hattributes _ hmem).1 rfl
  · rintro (hmem | hmem)
    · exact h.name.bracketless.closing hmem
    · exact (hattributes _ hmem).2 rfl

theorem laid_tag {inside : String} {mark : Mark} (depth : Nat) (hmark : mark? inside = some mark)
    (hinside : Bracketless inside) :
    Laid (Node.lineStart depth ++ ("<" ++ inside ++ ">")) [⟨none, mark⟩] := by
  have hfree : Bracketless (Node.lineStart depth) := by constructor <;> simp [Node.lineStart]
  have hlayout : IsLayout (Node.lineStart depth) := Or.inr ⟨2 * depth, by simp [Node.lineStart]⟩
  exact .single hfree hinside ⟨hmark, by simp, fun _ => hlayout⟩

theorem bracketless_closing {name : String} (h : PlainName name) : Bracketless ("/" ++ name) :=
  (⟨by decide, by decide⟩ : Bracketless "/").append h.bracketless

theorem closing_eq (t : Tag) : t.closing = "<" ++ ("/" ++ t.name) ++ ">" := by
  rw [Tag.closing, ← String.append_assoc]
  rfl

/-- An element with a text: the text stands alone between its tags. -/
theorem laid_content {t : Tag} (ht : t.Plain) (depth : Nat) {written content : String}
    (hwritten : Bracketless written) (hcontent : unescape written = content) :
    Laid (Node.lineStart depth ++ (t.opening ++ written ++ t.closing))
      [⟨none, .opening t⟩, ⟨some content, .closing t.name⟩] := by
  have hopening := laid_tag depth (mark?_opening ht) (bracketless_content ht)
  have hclosing : Laid (written ++ t.closing) [⟨some content, .closing t.name⟩] := by
    rw [closing_eq]
    exact .single hwritten (bracketless_closing ht.name)
      ⟨mark?_closing t.name, by simpa using hcontent, by simp⟩
  simpa [Tag.opening, String.append_assoc] using hopening.append hclosing

theorem Laid.children {nodes : List Node} {depth : Nat}
    (h : ∀ node ∈ nodes, Laid (Node.lineStart depth ++ node.textAt depth) node.steps) :
    Laid (Node.linesAt depth nodes) (Node.stepsAll nodes) := by
  induction nodes with
  | nil => exact .nil
  | cons node nodes ih =>
      simp only [List.forall_mem_cons] at h
      rw [Node.linesAt_cons, Node.stepsAll]
      exact h.1.append (ih h.2)

/-- An element is written as its tags and texts. -/
theorem laid_textAt {node : Node} (h : node.Plain) (depth : Nat) :
    Laid (Node.lineStart depth ++ node.textAt depth) node.steps := by
  induction h generalizing depth with
  | text content ht =>
      rw [Node.textAt_text]
      exact laid_content ht depth (bracketless_escape content) (unescape_escape content)
  | @verbatim t content ht hcontent =>
      have hfree : Bracketless content :=
        ⟨fun hmem => (hcontent _ hmem).1 rfl, fun hmem => (hcontent _ hmem).2.1 rfl⟩
      have hsame : unescape content = content := by
        rw [unescape, unescapeChars_eq_self fun hmem => (hcontent _ hmem).2.2 rfl,
          String.ofList_toList]
      rw [Node.textAt_verbatim]
      exact laid_content ht depth hfree hsame
  | @void t ht =>
      have hinside : Bracketless (t.content ++ "/") :=
        (bracketless_content ht).append ⟨by decide, by decide⟩
      simpa [Node.textAt_void, Node.steps, Tag.single, String.append_assoc] using
        laid_tag depth (mark?_single ht) hinside
  | @block t children ht h ih =>
      have hopening := laid_tag depth (mark?_opening ht) (bracketless_content ht)
      have hchildren := Laid.children fun node hnode => ih node hnode (depth + 1)
      have hclosing := laid_tag depth (mark?_closing t.name) (bracketless_closing ht.name)
      rw [← closing_eq] at hclosing
      simpa [Node.textAt_block, Node.steps, Tag.opening, String.append_assoc] using
        (hopening.append hchildren).append hclosing

/-- A document that is cut at its brackets shows what was passed on. -/
theorem exists_cut?_documentText {root : Node} (h : root.Plain) :
    ∃ cuts, cut? (documentText root) = some cuts ∧
      List.Forall₂ Cut.Shows cuts (stepsFrom none (documentEvents root)) := by
  have hdeclaration : Laid ("" ++ ("<" ++ "!DOCTYPE html" ++ ">")) [⟨none, declaration⟩] :=
    .single ⟨by decide, by decide⟩ ⟨by decide, by decide⟩
      ⟨by decide, by simp, fun _ => Or.inl rfl⟩
  obtain ⟨cuts, hcuts, htext, hshows⟩ := hdeclaration.append (laid_textAt h 0)
  refine ⟨cuts, ?_, ?_⟩
  · rw [← cut?_join hcuts, ← htext, documentText_eq]
    rfl
  · rw [stepsFrom_documentEvents]
    exact hshows

end Markup
end RecordReport
