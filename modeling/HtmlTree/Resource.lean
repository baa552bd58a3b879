import HtmlTree.Charset.Detection
import HtmlTree.Node.Grouping

/-! Files put into a tree: as a style sheet, as a script, as text or as markup. -/

namespace HtmlTree

variable {Kind : Type} {Value : Kind → Type}

/-- What reading a file comes to: its bytes, or why there are none. -/
abbrev FileContents := Except ReadFailure (List UInt8)

namespace Resource

inductive Format where
  | minifiedCss
  | css
  | minifiedJs
  | js
  deriving DecidableEq

namespace Format

def name : Format → String
  | .minifiedCss => "CssMin"
  | .css => "Css"
  | .minifiedJs => "JsMin"
  | .js => "Js"

def ofName? (name : String) : Option Format :=
  [minifiedCss, css, minifiedJs, js].find? (·.name == name)

/-- The element that holds a source in this format. -/
def element (settings : Settings) (format : Format) (source : String) : Element Value :=
  match format with
  | .minifiedCss => (Element.ofName "style").add (.node (.markup (settings.minifyCss source)))
  | .css => (Element.ofName "style").add (.node (.markup source))
  | .minifiedJs => (Element.ofName "script").add (.node (.markup (settings.minifyJs source)))
  | .js => (Element.ofName "script").add (.node (.markup source))

end Format

variable (detector : Charset.Detector)

/-- The text of a file, decoded from the character set that it is found to be in. -/
def source (file : FileContents) : Except Error String :=
  match file with
  | .ok bytes => .ok (detector.decodeFile bytes)
  | .error failure => .error (.unreadable failure)

def embed (settings : Settings) (file : FileContents) (format : Format) :
    Except Error (Element Value) := do
  return format.element settings (← source detector file)

/-- A file as text, to be escaped when it is rendered. -/
def asText (file : FileContents) : Except Error (Node Value) :=
  return .text (← source detector file)

/-- A file as markup, to be written as it is. -/
def asMarkup (file : FileContents) : Except Error (Node Value) :=
  return .markup (← source detector file)

end Resource

end HtmlTree
