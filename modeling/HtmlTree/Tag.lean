import HtmlTree.Attribute
import HtmlTree.Attribute.Standard
import HtmlTree.Selector

/-! Tags: a name and an ordered list of attributes. Putting an attribute drops the ones of the same
name and makes the new one last. -/

namespace HtmlTree

variable {Kind : Type} {Value : Kind → Type}

/-- What stands between the angle brackets. A tag without a name is not written at all. -/
structure Tag {Kind : Type} (Value : Kind → Type) where
  name : String
  attributes : List (Attribute Value)

namespace Tag

def ofName (name : String) : Tag Value := ⟨name, []⟩

def isNamed (tag : Tag Value) : Bool := tag.name != ""

/-- The first attribute of this name. -/
def find? (tag : Tag Value) (name : String) : Option (Attribute Value) :=
  tag.attributes.find? (·.name == name)

/-- Drops every attribute of this name. -/
def drop (tag : Tag Value) (name : String) : Tag Value :=
  { tag with attributes := tag.attributes.filter (·.name != name) }

/-- Makes an attribute the last one and leaves the others alone. -/
def append (tag : Tag Value) (entry : Attribute Value) : Tag Value :=
  { tag with attributes := tag.attributes ++ [entry] }

/-- Replaces the attributes of the same name. Attributes without a name replace nothing. -/
def put (tag : Tag Value) (entry : Attribute Value) : Tag Value :=
  if entry.isNamed then (tag.drop entry.name).append entry else tag.append entry

def putText (tag : Tag Value) (name text : String) : Tag Value :=
  tag.put (.ofText name text)

def putFlag (tag : Tag Value) (name : String) : Tag Value :=
  tag.put (.ofName name)

def putData (tag : Tag Value) (key text : String) : Tag Value :=
  tag.putText ("data-" ++ key) text

/-- Puts the names into the class attribute, one space between them, trimmed at both ends. -/
def putClasses (tag : Tag Value) (names : List String) : Tag Value :=
  tag.putText "class" (Text.trim (" ".intercalate names))

/-- Puts the id and then the class attribute, each only if the selector has it. -/
def select (tag : Tag Value) (selector : Selector) : Tag Value :=
  let identified :=
    match selector.id? with
    | some id => tag.putText "id" id
    | none => tag
  match selector.classes? with
  | some classes => identified.putText "class" classes
  | none => identified

/-- Makes a change if the condition holds. -/
def when (tag : Tag Value) (condition : Bool) (change : Tag Value → Tag Value) : Tag Value :=
  if condition then change tag else tag

/-- Appends the opening tag to what is already written, with a slash at its end if asked. -/
def writeOpening (context : Context Value) (slash : Bool) (written : String) (tag : Tag Value) :
    String :=
  if tag.isNamed then
    tag.attributes.foldl (Attribute.write context) (written ++ "<" ++ tag.name) ++
      (if slash then "/>" else ">")
  else written

def writeClosing (written : String) (tag : Tag Value) : String :=
  if tag.isNamed then written ++ "</" ++ tag.name ++ ">" else written

def opening (context : Context Value) (slash : Bool) (tag : Tag Value) : String :=
  tag.writeOpening context slash ""

def closing (tag : Tag Value) : String := tag.writeClosing ""

private theorem foldl_write_append (context : Context Value)
    (attributes : List (Attribute Value)) (written rest : String) :
    attributes.foldl (Attribute.write context) (written ++ rest) =
      written ++ attributes.foldl (Attribute.write context) rest := by
  induction attributes generalizing rest with
  | nil => rfl
  | cons entry others ih =>
    rw [List.foldl_cons, List.foldl_cons, Attribute.write_eq, Attribute.write_eq context rest,
      String.append_assoc, ih]

theorem writeOpening_eq (context : Context Value) (slash : Bool) (written : String)
    (tag : Tag Value) :
    tag.writeOpening context slash written = written ++ tag.opening context slash := by
  unfold opening writeOpening
  split
  · rw [String.empty_append, String.append_assoc, foldl_write_append, String.append_assoc]
  · simp

theorem writeClosing_eq (written : String) (tag : Tag Value) :
    tag.writeClosing written = written ++ tag.closing := by
  unfold closing writeClosing
  split <;> simp [String.append_assoc]

end Tag

end HtmlTree
