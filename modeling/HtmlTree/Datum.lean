import HtmlTree.Resource
import HtmlTree.Selector

/-! Selectors and resource formats as plain data, the way they are stored and sent. -/

namespace HtmlTree

/-- Data without a type of its own. Numbers and truth values occur only to be refused. -/
inductive Datum where
  | null
  | scalar
  | text (text : String)
  | list (items : List Datum)
  | record (fields : List (String × Datum))
  deriving Inhabited

/-- The text in a field of a record. -/
def Datum.text? (fields : List (String × Datum)) (name : String) : Option String :=
  match fields.lookup name with
  | some (.text found) => some found
  | _ => none

/-- A selector is a record with an id and classes, or the two in this order. Other fields of the
record do not count. -/
def Selector.ofDatum? : Datum → Option Selector
  | .record fields => do
    return ⟨← Datum.text? fields "id", ← Datum.text? fields "classes"⟩
  | .list [.text id, .text classes] => some ⟨id, classes⟩
  | _ => none

def Selector.toDatum (selector : Selector) : Datum :=
  .record [("id", .text selector.id), ("classes", .text selector.classes)]

/-- A format is its name, or a record in which the name has no value. -/
def Resource.Format.ofDatum? : Datum → Option Resource.Format
  | .text name => ofName? name
  | .record [(name, .null)] => ofName? name
  | _ => none

def Resource.Format.toDatum (format : Resource.Format) : Datum := .text format.name

end HtmlTree
