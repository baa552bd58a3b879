import HtmlTree.Node.Basic

/-! Trees with a place left open. A place shows nothing of the node in it but what that node writes
there, which is its own compact form if its custom content keeps the contract. -/

namespace HtmlTree

variable {Kind : Type} {Value : Kind → Type} {context : Context Value}

/-- A place in a tree, at any depth, among the siblings on the way to it. -/
inductive Place {Kind : Type} (Value : Kind → Type) where
  | here
  | element (tag : Tag Value) (before : List (Node Value)) (inside : Place Value)
      (after : List (Node Value))
  | fragment (before : List (Node Value)) (inside : Place Value) (after : List (Node Value))

/-- The tree with a node in its place. -/
def Place.fill (node : Node Value) : Place Value → Node Value
  | .here => node
  | .element tag before inside after => .element tag (before ++ inside.fill node :: after)
  | .fragment before inside after => .fragment (before ++ inside.fill node :: after)

namespace Node

theorem renderAll_eq_join {nodes : List (Node Value)} (appends : OnlyAppendsAll nodes) :
    renderAll context nodes = String.join (nodes.map (render context)) := by
  induction nodes with
  | nil => rfl
  | cons node rest ih =>
    rw [renderAll_cons context node appends.2, ih appends.2, List.map_cons, String.join_cons]

/-- Nodes with the same compact form write the same anywhere. -/
theorem write_eq_of_render_eq {first second : Node Value} (appends : first.OnlyAppends)
    (appends' : second.OnlyAppends) (same : first.render context = second.render context)
    (written : String) : first.write context written = second.write context written := by
  rw [write_eq context written first appends, write_eq context written second appends', same]

end Node

/-- What is written before the place is the same, and so is what all else makes of what stands in it. -/
theorem Place.write_fill {first second : Node Value}
    (same : ∀ written, first.write context written = second.write context written)
    (place : Place Value) (written : String) :
    (place.fill first).write context written = (place.fill second).write context written := by
  induction place generalizing written with
  | here => exact same written
  | element tag before inside after ih =>
    simp only [fill, Node.write, Node.writeAll_append, Node.writeAll, ih]
  | fragment before inside after ih =>
    simp only [fill, Node.write, Node.writeAll_append, Node.writeAll, ih]

end HtmlTree
