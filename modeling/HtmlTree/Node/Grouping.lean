import HtmlTree.Node.Content

/-! Nodes that hold others, on their own: elements and fragments, and how content is added to
them. -/

namespace HtmlTree

variable {Kind : Type} {Value : Kind → Type}

/-- A tag and the children that it encloses. -/
structure Element {Kind : Type} (Value : Kind → Type) where
  tag : Tag Value
  children : List (Node Value)

namespace Element

def ofName (name : String) : Element Value := ⟨.ofName name, []⟩

def toNode (element : Element Value) : Node Value := .element element.tag element.children

def mapTag (element : Element Value) (change : Tag Value → Tag Value) : Element Value :=
  { element with tag := change element.tag }

def add (element : Element Value) (content : Content Value) : Element Value :=
  { element with children := content.appendTo element.children }

def addText (element : Element Value) (text : String) : Element Value :=
  element.add (.node (.text text))

/-- Adds content if the condition holds. -/
def addWhen (element : Element Value) (condition : Bool) (content : Content Value) :
    Element Value :=
  if condition then element.add content else element

def render (context : Context Value) (element : Element Value) : String :=
  element.toNode.render context

end Element

/-- Siblings without an element around them. -/
structure Fragment {Kind : Type} (Value : Kind → Type) where
  children : List (Node Value)

namespace Fragment

def empty : Fragment Value := ⟨[]⟩

def isEmpty (fragment : Fragment Value) : Bool := fragment.children.isEmpty

def toNode (fragment : Fragment Value) : Node Value := .fragment fragment.children

def add (fragment : Fragment Value) (content : Content Value) : Fragment Value :=
  ⟨content.appendTo fragment.children⟩

def ofContent (content : Content Value) : Fragment Value := empty.add content

/-- Collects contents one after the other. -/
def ofList (contents : List (Content Value)) : Fragment Value :=
  contents.foldl add empty

end Fragment

end HtmlTree
