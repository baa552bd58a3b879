import HtmlTree.Node.Basic

/-! What may be put among the children of an element: nodes and strings, alone, optional or grouped
to any depth. Content adds its nodes in order, and groups leave no trace. -/

namespace HtmlTree

variable {Kind : Type} {Value : Kind → Type}

inductive Content {Kind : Type} (Value : Kind → Type) where
  | node (node : Node Value)
  /-- A string, which becomes a text node. -/
  | text (text : String)
  | nothing
  | optional (content : Option (Content Value))
  /-- A list, an array or a tuple. -/
  | group (contents : List (Content Value))

namespace Content

instance : Inhabited (Content Value) := ⟨.nothing⟩

mutual

/-- Adds content after the children that are already there. -/
def appendTo (children : List (Node Value)) : Content Value → List (Node Value)
  | .node single => children ++ [single]
  | .text plain => children ++ [.text plain]
  | .nothing => children
  | .optional content => appendOptional children content
  | .group contents => appendAll children contents

def appendOptional (children : List (Node Value)) :
    Option (Content Value) → List (Node Value)
  | none => children
  | some content => appendTo children content

def appendAll (children : List (Node Value)) : List (Content Value) → List (Node Value)
  | [] => children
  | content :: rest => appendAll (appendTo children content) rest

end

/-- The children that content makes on its own. -/
def nodes (content : Content Value) : List (Node Value) :=
  content.appendTo []

/-- The content if the condition holds, and nothing otherwise. -/
def guarded (condition : Bool) (content : Content Value) : Content Value :=
  .optional (if condition then some content else none)

end Content

end HtmlTree
