import HtmlTree.Session

/-! Equality of nodes. Texts are compared as they are; tags and elements, by the markup that they
render to, however they were built. -/

namespace HtmlTree

variable {Kind : Type} {Value : Kind → Type}

namespace Session

def sameMarkup (first second : Node Value) : Session Bool :=
  return (← render first) == (← render second)

/-- Whether two texts, two pieces of markup, two void tags or two elements are equal. Nodes of two
kinds are not, and neither are fragments and computed nodes. -/
def same : Node Value → Node Value → Session Bool
  | .text first, .text second => return first == second
  | .markup first, .markup second => return first == second
  | .void first, .void second => sameMarkup (.void first) (.void second)
  | .element first children, .element second others =>
    sameMarkup (.element first children) (.element second others)
  | _, _ => return false

/-- What a hash of a node is taken of. -/
def hashText : Node Value → Session String
  | .text plain => return plain
  | .markup source => return source
  | node => render node

end Session

end HtmlTree
