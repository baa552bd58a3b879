import HtmlTree.Node.Basic

/-! Phrases put together from strings and nodes, with a separator between the parts and, if wanted,
no blank before a full stop or a comma. -/

namespace HtmlTree

open Text

variable {Kind : Type} {Value : Kind → Type}

/-- A part of a phrase. -/
inductive Part {Kind : Type} (Value : Kind → Type) where
  /-- Leaves no trace, not even a separator. -/
  | missing
  /-- A string that goes in as it is. -/
  | string (string : String)
  /-- A node that goes in rendered. -/
  | node (node : Node Value)
  deriving Inhabited

namespace Part

def ofOption : Option (Part Value) → Part Value
  | some part => part
  | none => .missing

/-- The trimmed text of a part that is not missing. -/
def piece? (settings : Settings) : Part Value → Option String
  | .missing => none
  | .string plain => some (trim plain)
  | .node single => some (trim (single.render (.ofSettings settings)))

end Part

structure Phrase {Kind : Type} (Value : Kind → Type) where
  separator : String
  /-- Whether blanks before full stops and commas are left out. -/
  tight : Bool
  parts : List (Part Value)
  deriving Inhabited

namespace Phrase

def ofSeparator (separator : String) : Phrase Value := ⟨separator, false, []⟩

/-- Parts with spaces between them, but not before full stops and commas. -/
def ofParts (parts : List (Part Value)) : Phrase Value := ⟨" ", true, parts⟩

def tighten (phrase : Phrase Value) (tight : Bool) : Phrase Value :=
  { phrase with tight }

def add (phrase : Phrase Value) (part : Part Value) : Phrase Value :=
  { phrase with parts := phrase.parts ++ [part] }

/-- The marks that no blank should precede. -/
def isMark (c : Char) : Bool := c == '.' || c == ','

def beginsWithMark : List Char → Bool
  | [] => false
  | c :: _ => isMark c

/-- Leaves out each blank that stands right before a mark. -/
def closeUp : List Char → List Char
  | [] => []
  | c :: rest => if isBlank c && beginsWithMark rest then closeUp rest else c :: closeUp rest

/-- The parts joined and trimmed as a whole, before any blank is left out. -/
def joined (settings : Settings) (phrase : Phrase Value) : String :=
  trim (phrase.separator.intercalate (phrase.parts.filterMap (Part.piece? settings)))

def render (settings : Settings) (phrase : Phrase Value) : String :=
  if phrase.tight then String.ofList (closeUp (phrase.joined settings).toList)
  else phrase.joined settings

end Phrase

end HtmlTree
