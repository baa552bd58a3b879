import HtmlTree.Error
import HtmlTree.Text.Blank

/-! Selector shorthand: an id and class names in one text, as in `#main.wide.dark`. Segments are
divided by dots; one that begins with a number sign is the id, every other is a class name. -/

namespace HtmlTree

open Text

/-- An id, and class names with blanks between them. Either may be empty. -/
structure Selector where
  id : String
  classes : String
  deriving DecidableEq, Inhabited

namespace Selector

def empty : Selector := ⟨"", ""⟩

def id? (selector : Selector) : Option String :=
  if selector.id = "" then none else some selector.id

def classes? (selector : Selector) : Option String :=
  if selector.classes = "" then none else some selector.classes

/-- The stretches of a text between dots, of which there is always at least one. -/
def segments : List Char → List (List Char)
  | [] => [[]]
  | c :: rest =>
    if c = '.' then [] :: segments rest
    else
      match segments rest with
      | [] => [[c]]
      | segment :: others => (c :: segment) :: others

/-- The id and the class names met so far, each class name followed by a space. -/
structure Reading where
  id : List Char
  classes : List Char

/-- Takes in one segment. A number sign may only open it. -/
def Reading.segment? (reading : Reading) (segment : List Char) : Option Reading :=
  if '#' ∈ segment then
    match segment with
    | '#' :: rest => some { reading with id := rest }
    | _ => none
  else some { reading with classes := reading.classes ++ segment ++ [' '] }

def ofReading (reading : Reading) : Selector :=
  ⟨String.ofList (trimBlanks reading.id), String.ofList (trimBlanks reading.classes)⟩

def parse (text : String) : Except Error Selector :=
  let characters := text.toList
  if '.' ∉ characters ∧ '#' ∉ characters then .error (.noIdOrClass text)
  else if 1 < characters.count '#' then .error (.severalIds text)
  else
    match (segments characters).foldlM Reading.segment? ⟨[], []⟩ with
    | some reading => .ok (ofReading reading)
    | none => .error (.misplacedId text)

end Selector

end HtmlTree
