import HtmlTree.Edit
import HtmlTree.Proofs.Tag.Effects

/-! Runs of edits to tags and elements. Each edit has its effects on the attributes, and edits of the
attributes do not meet edits of the children. -/

namespace HtmlTree

variable {Kind : Type} {Value : Kind → Type}

/-- The effects of an edit. One whose condition fails has none, and a selector sets only what it
has. -/
def Edit.effects : Edit Value → List (Effect Value)
  | .put entry => [.set entry]
  | .putText name text => [.set (.ofText name text)]
  | .putFlag name => [.set (.ofName name)]
  | .setter which text => [.set (.ofText which.attributeName text)]
  | .flag which => [.set (.ofName which.attributeName)]
  | .putData key text => [.set (.ofText ("data-" ++ key) text)]
  | .putClasses names => [.set (.ofText "class" (Text.trim (" ".intercalate names)))]
  | .select selector =>
    (selector.id?.map fun id => .set (.ofText "id" id)).toList ++
      (selector.classes?.map fun classes => .set (.ofText "class" classes)).toList
  | .drop name => [.clear name]
  | .when condition edit => if condition then edit.effects else []

namespace ElementEdit

def effects : ElementEdit Value → List (Effect Value)
  | .tag edit => edit.effects
  | .add _ | .addText _ | .addWhen _ _ => []

end ElementEdit

namespace Element

end Element

example : ((Tag.ofName "a" : Tag (fun _ : Unit => Unit)).edit
    [.putText "href" "/x", .putFlag "hidden", .when false (.drop "hidden"), .putText "" "y",
      .setter .href "/z"]).attributes = [.ofName "hidden", .ofText "" "y", .ofText "href" "/z"] := rfl

end HtmlTree
