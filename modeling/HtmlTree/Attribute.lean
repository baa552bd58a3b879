import HtmlTree.Context

/-! Attributes of a tag: a name, and possibly a value that is text or is computed at rendering. -/

namespace HtmlTree

variable {Kind : Type} {Value : Kind → Type}

inductive AttributeValue {Kind : Type} (Value : Kind → Type) where
  | absent
  | text (text : String)
  /-- Computed from the context and written as it comes out. -/
  | computed (value : Context Value → String)

structure Attribute {Kind : Type} (Value : Kind → Type) where
  name : String
  value : AttributeValue Value

namespace Attribute

def ofText (name text : String) : Attribute Value := ⟨name, .text text⟩

def ofName (name : String) : Attribute Value := ⟨name, .absent⟩

def ofContext (name : String) (value : Context Value → String) : Attribute Value :=
  ⟨name, .computed value⟩

/-- Only an attribute with a name is written. -/
def isNamed (entry : Attribute Value) : Bool :=
  entry.name != ""

/-- The value as text, unescaped, unless there is none or it is computed. -/
def text? (entry : Attribute Value) : Option String :=
  match entry.value with
  | .text text => some text
  | .absent | .computed _ => none

/-- Appends the attribute, with the space that sets it off, to what is already written. -/
def write (context : Context Value) (written : String) (entry : Attribute Value) : String :=
  if entry.isNamed then
    match entry.value with
    | .absent => written ++ " " ++ entry.name
    | .text text =>
      written ++ " " ++ entry.name ++ "=\"" ++ context.settings.escape text ++ "\""
    | .computed value => written ++ " " ++ entry.name ++ "=\"" ++ value context ++ "\""
  else written

def render (context : Context Value) (entry : Attribute Value) : String :=
  entry.write context ""

theorem write_eq (context : Context Value) (written : String) (entry : Attribute Value) :
    entry.write context written = written ++ entry.render context := by
  unfold render write
  split
  · cases entry.value <;> simp [String.append_assoc]
  · simp

end Attribute

end HtmlTree
