import HtmlTree.Node.Lines

/-! Whole documents: the document type declaration, and an `html` element after it. -/

namespace HtmlTree.Document

variable {Kind : Type} {Value : Kind → Type}

def declaration : String := "<!DOCTYPE html>"

/-- Only an element named exactly `html` can be the root. -/
def checkRoot (root : Element Value) : Except Error Unit :=
  if root.tag.name = "html" then .ok () else .error (.rootNotHtml root.tag.name)

def compact (settings : Settings) (root : Element Value) : Except Error String := do
  checkRoot root
  return declaration ++ root.render (.ofSettings settings)

def formatted (settings : Settings) (root : Element Value) : Except Error String := do
  checkRoot root
  return declaration ++ "\n" ++ root.formatted (.ofSettings settings)

end HtmlTree.Document
