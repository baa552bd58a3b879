import HtmlTree.Node.Grouping

/-! Content made item by item. The function that makes it, and the one that chooses among the
items, may carry a state from one item to the next. -/

namespace HtmlTree

variable {Kind : Type} {Value : Kind → Type} {α Key Entry : Type} {m : Type → Type} [Monad m]

namespace Fragment

/-- Visits the items in order and collects what is made of each. -/
def ofItemsM (make : α → m (Content Value)) (items : List α) : m (Fragment Value) :=
  items.foldlM (fun fragment item => fragment.add <$> make item) empty

def ofItems (make : α → Content Value) (items : List α) : Fragment Value :=
  Id.run (ofItemsM (fun item => pure (make item)) items)

/-- Visits the entries of a map in the order in which they are listed. -/
def ofEntriesM (make : Key → Entry → m (Content Value)) (entries : List (Key × Entry)) :
    m (Fragment Value) :=
  ofItemsM (fun (key, entry) => make key entry) entries

def ofEntries (make : Key → Entry → Content Value) (entries : List (Key × Entry)) :
    Fragment Value :=
  ofItems (fun (key, entry) => make key entry) entries

end Fragment

/-- Keeps the items that are accepted, in order. Each is considered once. -/
def keepM (accepts : α → m Bool) : List α → m (List α)
  | [] => pure []
  | item :: rest => do
    let accepted ← accepts item
    let kept ← keepM accepts rest
    return if accepted then item :: kept else kept

def keep (accepts : α → Bool) (items : List α) : List α :=
  Id.run (keepM (fun item => pure (accepts item)) items)

end HtmlTree
