import HtmlTree.Document
import HtmlTree.Phrase
import HtmlTree.Resource

/-! The settings of the whole process. They are fixed once, by being installed or else by the first
operation that needs them, and stay the same from then on. -/

namespace HtmlTree

variable {Kind : Type} {Value : Kind → Type}

/-- Work that may need the settings of the process, of which there are none to begin with. -/
abbrev Session := StateM (Option Settings)

namespace Session

/-- The settings of the process. If there are none, the standard ones are in force from now on. -/
def settings : Session Settings := do
  match ← get with
  | some settings => return settings
  | none =>
    set (some Settings.standard)
    return .standard

/-- Puts settings in force for the process, unless some already are. -/
def install (settings : Settings) : ExceptT Error Session Unit := do
  match ← get with
  | some _ => throw .settingsFixed
  | none => set (some settings)

def renderAttribute (entry : Attribute Value) : Session String :=
  return entry.render (.ofSettings (← settings))

def render (node : Node Value) : Session String :=
  return node.render (.ofSettings (← settings))

def renderFor (model : Model Value) (node : Node Value) : Session String :=
  return node.render ((Context.ofSettings (← settings)).supply model)

def formatted (node : Node Value) : Session String :=
  return node.formatted (.ofSettings (← settings))

def formattedElement (element : Element Value) : Session String :=
  return element.formatted (.ofSettings (← settings))

def formattedFragment (fragment : Fragment Value) : Session String :=
  return fragment.formatted (.ofSettings (← settings))

def phrase (phrase : Phrase Value) : Session String :=
  return phrase.render (← settings)

/-- The root is checked before the settings are needed. -/
def document (root : Element Value) : ExceptT Error Session String := do
  Document.checkRoot root
  Document.compact (← settings) root

/-- The settings are taken before the root is checked. -/
def formattedDocument (root : Element Value) : ExceptT Error Session String := do
  Document.formatted (← settings) root

variable (detector : Charset.Detector)

/-- The settings are taken before the file is looked at. -/
def embed (file : FileContents) (format : Resource.Format) :
    ExceptT Error Session (Element Value) := do
  Resource.embed detector (← settings) file format

def embedCss (file : FileContents) : ExceptT Error Session (Element Value) :=
  embed detector file .css

def embedMinifiedCss (file : FileContents) : ExceptT Error Session (Element Value) :=
  embed detector file .minifiedCss

def embedJs (file : FileContents) : ExceptT Error Session (Element Value) :=
  embed detector file .js

def embedMinifiedJs (file : FileContents) : ExceptT Error Session (Element Value) :=
  embed detector file .minifiedJs

end Session

end HtmlTree
