import HtmlTree.Phrase

/-! One-line descriptions of values for diagnostics: the name of the type, and the parts. What a
function computes is not shown. -/

namespace HtmlTree

open Text

variable {Kind : Type} {Value : Kind → Type}

namespace Describe

def items (parts : List String) : String := ", ".intercalate parts

def list (parts : List String) : String := "[" ++ items parts ++ "]"

def set (parts : List String) : String := "\x7b" ++ items parts ++ "\x7d"

/-- A name with unnamed parts. -/
def tuple (name : String) (parts : List String) : String := name ++ "(" ++ items parts ++ ")"

/-- A name with named parts. -/
def record (name : String) (fields : List (String × String)) : String :=
  name ++ " \x7b " ++ items (fields.map fun (field, value) => field ++ ": " ++ value) ++ " \x7d"

/-- A record with more fields than are shown. -/
def openRecord (name : String) (fields : List (String × String)) : String :=
  name ++ " \x7b " ++ items (fields.map (fun (field, value) => field ++ ": " ++ value) ++ [".."]) ++
    " \x7d"

end Describe

open Describe

def Selector.describe (selector : Selector) : String :=
  record "ShortForm" [("id", quoted selector.id), ("classes", quoted selector.classes)]

def Error.describe : Error → String
  | .noIdOrClass selector => tuple "MissingIdOrClass" [quoted selector]
  | .severalIds selector => tuple "MultipleIds" [quoted selector]
  | .misplacedId selector => tuple "IdNotAtStart" [quoted selector]
  | .rootNotHtml name => tuple "NotHtmlElement" [quoted name]
  | .settingsFixed => "AlreadyConfigured"
  | .unreadable failure => tuple "Io" [failure.description]

/-- The names in the order in which the set holds them. -/
def NameSet.describe (names : NameSet) : String :=
  record "HtmlNames" [("names", set (names.names.map quoted))]

def Settings.describe (settings : Settings) : String :=
  openRecord "Config" [("close_empty_tags", toString settings.slashVoidTags),
    ("preformatted", settings.preformatted.describe)]

def Context.describe (context : Context Value) : String :=
  record "RenderContext" [("config", context.settings.describe),
    ("has_model", toString context.model.isSome)]

def AttributeValue.describe : AttributeValue Value → String
  | .absent => "Valueless"
  | .text plain => tuple "Text" [quoted plain]
  | .computed _ => "Bound(..)"

def Attribute.describe (entry : Attribute Value) : String :=
  record "HtmlAttribute" [("name", quoted entry.name), ("value", entry.value.describe)]

/-- The fields that every tag has. -/
def Tag.describeFields (tag : Tag Value) : List (String × String) :=
  [("name", quoted tag.name), ("attributes", list (tag.attributes.map Attribute.describe))]

mutual

def Node.describe : Node Value → String
  | .text plain => tuple "Text" [record "Text" [("text", quoted plain)]]
  | .markup source => tuple "Raw" [record "RawText" [("text", quoted source)]]
  | .void tag => tuple "Empty" [record "EmptyTag" tag.describeFields]
  | .element tag children =>
    tuple "Container"
      [record "ContainerTag" (tag.describeFields ++ [("children", list (describeAll children))])]
  | .fragment children =>
    tuple "Fragment" [record "Fragment" [("children", list (describeAll children))]]
  | .computed _ => "Dynamic(Dynamic(..))"

def Node.describeAll : List (Node Value) → List String
  | [] => []
  | node :: rest => node.describe :: describeAll rest

end

def Part.describe : Part Value → String
  | .missing => "Skip"
  | .string plain => tuple "Str" [quoted plain]
  | .node single => tuple "Content" [single.describe]

def Phrase.describe (phrase : Phrase Value) : String :=
  record "Joiner" [("separator", quoted phrase.separator),
    ("fix_punctuation", toString phrase.tight),
    ("parts", list (phrase.parts.map Part.describe))]

end HtmlTree
