import HtmlTree.Node.Content

/-! The elements of HTML5: which of them are void, and how each is made. -/

namespace HtmlTree.Catalog

variable {Kind : Type} {Value : Kind → Type}

/-- The elements that never have content or a closing tag. -/
def voidNames : List String :=
  ["area", "base", "br", "col", "embed", "hr", "img", "input", "keygen", "link", "meta",
   "param", "source", "track", "wbr"]

def containerNames : List String :=
  ["a", "abbr", "address", "article", "aside", "audio", "b", "bdi", "bdo", "blockquote",
   "body", "button", "canvas", "caption", "cite", "code", "colgroup", "datalist", "dd", "del",
   "details", "dfn", "dialog", "div", "dl", "dt", "em", "fieldset", "figcaption", "figure",
   "footer", "form", "h1", "h2", "h3", "h4", "h5", "h6", "head", "header", "html", "i",
   "iframe", "ins", "kbd", "label", "legend", "li", "main", "map", "mark", "menu", "menuitem",
   "meter", "nav", "noscript", "object", "ol", "optgroup", "option", "output", "p", "pre",
   "progress", "q", "rp", "rt", "ruby", "s", "samp", "script", "section", "select", "small",
   "span", "strong", "style", "sub", "summary", "sup", "table", "tbody", "td", "textarea",
   "tfoot", "th", "thead", "time", "title", "tr", "u", "ul", "var", "video"]

def voidSet : NameSet := .ofList voidNames

/-- Whether a name, in any case, is that of a void element. -/
def isVoid (name : String) : Bool := voidSet.contains name

/-- An element of any name, in the shape that the name calls for. -/
def byName (name : String) : Node Value :=
  if isVoid name then .void (.ofName name) else .element (.ofName name) []

/-- A tag, with the id and the classes of a selector if one is given. -/
def tagOf (name : String) (selector : Option Selector) : Tag Value :=
  match selector with
  | none => .ofName name
  | some selector => (Tag.ofName name).select selector

/-- An element of the catalogue. A name that is not in it makes none, and neither does content for
a void element. -/
def construct? (name : String) (selector : Option Selector) (content : Option (Content Value)) :
    Option (Node Value) :=
  if name ∈ voidNames then
    match content with
    | none => some (.void (tagOf name selector))
    | some _ => none
  else if name ∈ containerNames then
    some (.element (tagOf name selector) ((content.getD .nothing).nodes))
  else none

end HtmlTree.Catalog
