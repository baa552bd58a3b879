import HtmlTree.Node.Grouping

/-! Changes to tags and elements as data, so that a run of them can be recorded and replayed. -/

namespace HtmlTree

variable {Kind : Type} {Value : Kind → Type}

/-- A change to a tag. -/
inductive Edit {Kind : Type} (Value : Kind → Type) where
  | put (entry : Attribute Value)
  | putText (name text : String)
  | putFlag (name : String)
  | setter (setter : Attribute.Setter) (text : String)
  | flag (flag : Attribute.Flag)
  | putData (key text : String)
  | putClasses (names : List String)
  | select (selector : Selector)
  | drop (name : String)
  /-- Makes the change if the condition holds. -/
  | when (condition : Bool) (edit : Edit Value)

def Edit.apply : Edit Value → Tag Value → Tag Value
  | .put entry, tag => tag.put entry
  | .putText name text, tag => tag.putText name text
  | .putFlag name, tag => tag.putFlag name
  | .setter which text, tag => tag.putText which.attributeName text
  | .flag which, tag => tag.putFlag which.attributeName
  | .putData key text, tag => tag.putData key text
  | .putClasses names, tag => tag.putClasses names
  | .select selector, tag => tag.select selector
  | .drop name, tag => tag.drop name
  | .when condition edit, tag => tag.when condition edit.apply

/-- A change to an element: to its tag or to its children. -/
inductive ElementEdit {Kind : Type} (Value : Kind → Type) where
  | tag (edit : Edit Value)
  | add (content : Content Value)
  | addText (text : String)
  | addWhen (condition : Bool) (content : Content Value)

def ElementEdit.apply : ElementEdit Value → Element Value → Element Value
  | .tag change, element => element.mapTag change.apply
  | .add content, element => element.add content
  | .addText text, element => element.addText text
  | .addWhen condition content, element => element.addWhen condition content

/-- Makes changes first to last. -/
def Tag.edit (tag : Tag Value) (edits : List (Edit Value)) : Tag Value :=
  edits.foldl (fun tag edit => edit.apply tag) tag

def Element.edit (element : Element Value) (edits : List (ElementEdit Value)) : Element Value :=
  edits.foldl (fun element edit => edit.apply element) element

end HtmlTree
