import HtmlTree.Text.Quoted

/-! Everything that can go wrong while a tree is built. Rendering itself never fails. -/

namespace HtmlTree

/-- Why a file gave no bytes. It comes from whoever was to read the file, and is only passed on: its
message to people, its description to diagnostics. -/
structure ReadFailure where
  message : String
  description : String
  deriving DecidableEq, Inhabited

inductive Error where
  /-- A selector with neither a number sign nor a dot. -/
  | noIdOrClass (selector : String)
  /-- A selector with two or more number signs. -/
  | severalIds (selector : String)
  /-- A selector with a number sign inside a segment. -/
  | misplacedId (selector : String)
  /-- An element of this name where the root of a document was wanted. -/
  | rootNotHtml (name : String)
  /-- Settings for the whole process came after some were in use. -/
  | settingsFixed
  | unreadable (failure : ReadFailure)
  deriving DecidableEq, Inhabited

namespace Error

def message : Error → String
  | .noIdOrClass selector =>
    "selector " ++ Text.quoted selector ++ " must contain either id (#) or class (.)"
  | .severalIds selector => "selector " ++ Text.quoted selector ++ " has more than one id (#)"
  | .misplacedId selector =>
    "selector " ++ Text.quoted selector ++ ": # cannot be in the middle of string"
  | .rootNotHtml name =>
    "only the html tag can follow the document declaration, got " ++ Text.quoted name
  | .settingsFixed => "global configuration is already set"
  | .unreadable failure => "cannot read file: " ++ failure.message

/-- The message of the failure underneath, where there is one. -/
def cause? : Error → Option String
  | .unreadable failure => some failure.message
  | _ => none

end Error

end HtmlTree
