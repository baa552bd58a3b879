import HtmlTree.Node.Grouping

/-! Formatted markup: every element and every piece of text on a line of its own, indented by its
depth. Groups without a tag take up no level, and the content of preformatted elements is not laid
out. -/

namespace HtmlTree

variable {Kind : Type} {Value : Kind → Type}

namespace Context

def indent (context : Context Value) (level : Nat) (text : String) : String :=
  context.settings.indent level text

/-- Whether the content of the element with this tag is not to be laid out. -/
def isPreformatted (context : Context Value) (tag : Tag Value) : Bool :=
  tag.isNamed && context.settings.preformatted.contains tag.name

end Context

/-- The children of a preformatted element: each in compact form, handed to the indenter at
level zero. -/
def Node.verbatim (context : Context Value) (children : List (Node Value)) : String :=
  children.foldl (fun written child => written ++ context.indent 0 (child.render context)) ""

/-- The lines of an element with a name. The opening tag is not indented; the children, which
`lines` lays out, stand one level deeper unless the element is preformatted. -/
def Tag.block (context : Context Value) (level : Nat) (tag : Tag Value)
    (children : List (Node Value)) (lines : Unit → String) : String :=
  if context.isPreformatted tag then
    tag.opening context false ++ Node.verbatim context children ++ tag.closing ++ "\n"
  else
    tag.opening context false ++ "\n" ++ lines () ++ context.indent level "" ++ tag.closing ++ "\n"

namespace Node

mutual

/-- The lines of a node that is a child at a level. -/
def lines (context : Context Value) (level : Nat) : Node Value → String
  | .text plain => context.indent level (render context (.text plain)) ++ "\n"
  | .markup source => context.indent level (render context (.markup source)) ++ "\n"
  | .void tag => context.indent level (render context (.void tag)) ++ "\n"
  | .element tag children =>
    if tag.isNamed then
      context.indent level
        (tag.block context level children fun _ => linesAll context (level + 1) children)
    else linesAll context level children
  | .fragment children => linesAll context level children
  | .computed renderer => context.indent level (render context (.computed renderer)) ++ "\n"

def linesAll (context : Context Value) (level : Nat) : List (Node Value) → String
  | [] => ""
  | node :: rest => lines context level node ++ linesAll context level rest

end

end Node

/-- Formatted markup of an element. Having no parent, it is not indented as a whole. -/
def Element.formatted (context : Context Value) (element : Element Value) : String :=
  if element.tag.isNamed then
    element.tag.block context 0 element.children fun _ =>
      Node.linesAll context 1 element.children
  else Node.linesAll context 0 element.children

/-- Formatted markup of siblings, each a child at level zero. -/
def Fragment.formatted (context : Context Value) (fragment : Fragment Value) : String :=
  Node.linesAll context 0 fragment.children

/-- Formatted markup of any node. -/
def Node.formatted (context : Context Value) : Node Value → String
  | .element tag children => Element.formatted context ⟨tag, children⟩
  | .fragment children => Fragment.formatted context ⟨children⟩
  | node => node.lines context 0

end HtmlTree
