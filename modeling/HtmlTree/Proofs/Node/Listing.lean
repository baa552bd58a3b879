import HtmlTree.Proofs.Node.Layout

/-! Formatted markup as a list of lines, each at its depth. The lines come from one walk through the
tree, first to last; only named elements that are not preformatted make their children deeper. -/

namespace HtmlTree

variable {Kind : Type} {Value : Kind → Type} {context : Context Value}

/-- A line of formatted markup without its margin. -/
structure Line where
  depth : Nat
  text : String

/-- Each line behind the margin of its depth, and a line break behind each. -/
def Line.layOut (margin : Nat → String) (lines : List Line) : String :=
  String.join (lines.map fun line => margin line.depth ++ line.text ++ "\n")

namespace Node

mutual

/-- The lines of a tree that stands at a depth. -/
def listing (context : Context Value) (depth : Nat) : Node Value → List Line
  | .text plain => [⟨depth, render context (.text plain)⟩]
  | .markup source => [⟨depth, render context (.markup source)⟩]
  | .void tag => [⟨depth, render context (.void tag)⟩]
  | .element tag children =>
    if tag.isNamed then
      if context.isPreformatted tag then [⟨depth, render context (.element tag children)⟩]
      else
        ⟨depth, tag.opening context false⟩ :: listingAll context (depth + 1) children ++
          [⟨depth, tag.closing⟩]
    else listingAll context depth children
  | .fragment children => listingAll context depth children
  | .computed renderer => [⟨depth, render context (.computed renderer)⟩]

def listingAll (context : Context Value) (depth : Nat) : List (Node Value) → List Line
  | [] => []
  | node :: rest => listing context depth node ++ listingAll context depth rest

end

end Node

namespace Line

variable {margin : Nat → String}

@[simp] theorem layOut_nil : layOut margin [] = "" := rfl

@[simp] theorem layOut_cons (line : Line) (rest : List Line) :
    layOut margin (line :: rest) =
      margin line.depth ++ line.text ++ "\n" ++ layOut margin rest := by
  rw [layOut, List.map_cons, String.join_cons, layOut]

@[simp] theorem layOut_append (first second : List Line) :
    layOut margin (first ++ second) = layOut margin first ++ layOut margin second := by
  rw [layOut, List.map_append, String.join_append, layOut, layOut]

end Line

namespace Node

variable {margin : Nat → String}

mutual

/-- The formatter builds the block of an element before it indents it. The margin put in front of the
block is that of the opening tag, and the margin in front of the closing tag is the same. -/
theorem lines_eq_layOut (indents : context.IndentsBy margin) (flush : margin 0 = "") (level : Nat) :
    (node : Node Value) → node.OnlyAppends →
      node.lines context level = Line.layOut margin (node.listing context level)
  | .text _, _ | .markup _, _ | .void _, _ | .computed _, _ => by
    simp [lines, listing, indents level]
  | .element tag children, appends => by
    by_cases named : tag.isNamed = true
    · by_cases preformatted : context.isPreformatted tag = true
      · have inside := verbatim_of_isFlush (indents.isFlush flush) children appends
        have whole := render_element context tag appends
        simp [lines, listing, named, preformatted, Tag.block, indents level, inside, whole,
          String.append_assoc]
      · have inside := linesAll_eq_layOut indents flush (level + 1) children appends
        simp [lines, listing, named, preformatted, Tag.block, indents level, inside,
          String.append_assoc]
    · simpa [lines, listing, named] using linesAll_eq_layOut indents flush level children appends
  | .fragment children, appends => by
    simpa only [lines, listing] using linesAll_eq_layOut indents flush level children appends

theorem linesAll_eq_layOut (indents : context.IndentsBy margin) (flush : margin 0 = "")
    (level : Nat) :
    (nodes : List (Node Value)) → OnlyAppendsAll nodes →
      linesAll context level nodes = Line.layOut margin (listingAll context level nodes)
  | [], _ => rfl
  | node :: rest, ⟨head, tail⟩ => by
    rw [linesAll, lines_eq_layOut indents flush level node head,
      linesAll_eq_layOut indents flush level rest tail, listingAll, Line.layOut_append]

end

end Node

/-- If the indenter does nothing but put margins in front, and none at level zero, and if custom
content keeps its contract, then the formatted markup of a tree, an element or siblings is its listing
from depth zero on. -/
theorem formatted_eq_listing {margin : Nat → String} (indents : context.IndentsBy margin)
    (flush : margin 0 = "") :
    (∀ node : Node Value, node.OnlyAppends →
      node.formatted context = Line.layOut margin (node.listing context 0)) ∧
    (∀ element : Element Value, element.toNode.OnlyAppends →
      element.formatted context = Line.layOut margin (element.toNode.listing context 0)) ∧
    ∀ fragment : Fragment Value, fragment.toNode.OnlyAppends →
      fragment.formatted context =
        Line.layOut margin (Node.listingAll context 0 fragment.children) := by
  have whole (node : Node Value) (appends : node.OnlyAppends) :
      node.formatted context = Line.layOut margin (node.listing context 0) := by
    rw [Node.formatted_eq_lines (indents.isFlush flush), Node.lines_eq_layOut indents flush 0 node
      appends]
  exact ⟨whole, fun element => whole element.toNode, fun fragment =>
    Node.linesAll_eq_layOut indents flush 0 fragment.children⟩

/-- Custom content that writes a number escaped, with a sign before it if there is a model. -/
private def signed : Renderer (fun _ : Unit => Unit) := fun context written =>
  written ++ (if context.model.isSome then "±" else "") ++ context.settings.escape "<1>"

/-- A list with an item that is laid out, a group, and an item that is preformatted, with custom
content in both items. -/
private def listedItems : Node (fun _ : Unit => Unit) :=
  .element (.ofName "ul") [
    .element (.ofName "li") [.text "a & b", .void (.ofName "br"), .computed signed],
    .fragment [.element (.ofName "PRE") [.text "x\n", .computed signed, .markup "<i>y</i>"]]]

theorem formatted_eq_listing_items :
    let context : Context (fun _ : Unit => Unit) := ⟨.standard, some ⟨(), ()⟩⟩
    let margin : Nat → String := fun level => String.ofList (List.replicate (4 * level) ' ')
    context.IndentsBy margin ∧ margin 0 = "" ∧ listedItems.OnlyAppends ∧
      listedItems.formatted context = Line.layOut margin
        [⟨0, "<ul>"⟩, ⟨1, "<li>"⟩, ⟨2, "a &amp; b"⟩, ⟨2, "<br>"⟩, ⟨2, "±&lt;1&gt;"⟩, ⟨1, "</li>"⟩,
          ⟨1, "<PRE>x\n±&lt;1&gt;<i>y</i></PRE>"⟩, ⟨0, "</ul>"⟩] := by
  intro context margin
  have indents : context.IndentsBy margin := Context.indentsBy_standard _
  have contract : signed.OnlyAppends := fun _ _ => by simp [signed, String.append_assoc]
  have appends : listedItems.OnlyAppends :=
    ⟨⟨trivial, trivial, contract, trivial⟩, ⟨⟨trivial, contract, trivial, trivial⟩, trivial⟩, trivial⟩
  exact ⟨indents, rfl, appends, (formatted_eq_listing indents rfl).1 listedItems appends⟩

end HtmlTree
