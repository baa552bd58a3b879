import HtmlTree.Text.Escaped
import HtmlTree.NameSet

/-! What rendering can be told to do differently: how text is escaped, how sources are minified,
how lines are indented, and which elements keep their white space. -/

namespace HtmlTree

structure Settings where
  escape : String → String
  minifyCss : String → String
  minifyJs : String → String
  /-- Given a level and a text, the text as it stands at that level. -/
  indent : Nat → String → String
  /-- Whether the tag of a void element ends in a slash. -/
  slashVoidTags : Bool
  /-- The elements whose content formatted rendering does not lay out. -/
  preformatted : NameSet

namespace Settings

/-- Four spaces for each level. -/
def indentBySpaces (level : Nat) (text : String) : String :=
  String.ofList (List.replicate (4 * level) ' ') ++ text

/-- Text is escaped, sources stay as they are, and a level is four spaces wide. -/
def standard : Settings where
  escape := Text.escape
  minifyCss := id
  minifyJs := id
  indent := indentBySpaces
  slashVoidTags := false
  preformatted := .ofList ["pre", "textarea"]

instance : Inhabited Settings := ⟨standard⟩

end Settings

end HtmlTree
