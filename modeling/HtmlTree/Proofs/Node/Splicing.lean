import HtmlTree.Proofs.Node.Replacement

/-! Groups leave no trace. A fragment, or an element without a name, may be put around siblings or
taken away from them anywhere in a tree, and a tree may be kept in a shared node or a template. -/

namespace HtmlTree.Node

variable {Kind : Type} {Value : Kind → Type} {context : Context Value}

/-- A group on its own, and the children that are spliced into its place. The attributes of a
nameless element do not matter. -/
inductive Splices : List (Node Value) → List (Node Value) → Prop where
  | fragment (children : List (Node Value)) : Splices [.fragment children] children
  | nameless {tag : Tag Value} (nameless : tag.name = "") (children : List (Node Value)) :
      Splices [.element tag children] children

/-- Siblings, and a node that makes them when it is rendered in this context. -/
inductive Defers (context : Context Value) : List (Node Value) → List (Node Value) → Prop where
  | shared (node : Node Value) : Defers context [node] [node.shared]
  | template {nodes : List (Node Value)} {make : Context Value → Content Value}
      (returns : (make context).nodes = nodes) : Defers context nodes [ofContext make]
  | modelTemplate [DecidableEq Kind] {kind : Kind} {value : Value kind} {nodes : List (Node Value)}
      {make : Value kind → Content Value} (found : context.ask kind = some value)
      (returns : (make value).nodes = nodes) : Defers context nodes [ofModel kind make]

theorem Splices.transparent : Transparent (@Splices Kind Value) where
  write first second splices context written := by
    cases splices with
    | fragment => rfl
    | nameless nameless =>
      exact write_element_of_nameless (by simp [Tag.isNamed, nameless]) written second
  contract first second splices := by
    cases splices with
    | fragment | nameless => simp [OnlyAppendsAll, OnlyAppends]
  layout first second splices context level := by
    cases splices with
    | fragment => rw [linesAll_singleton, lines]
    | nameless nameless => simp [linesAll_singleton, lines, Tag.isNamed, nameless]

theorem Defers.writeAll_eq {first second : List (Node Value)}
    (defers : Defers context first second) (written : String) :
    writeAll context written first = writeAll context written second := by
  cases defers with
  | shared node => rfl
  | template returns => rw [← returns]; rfl
  | modelTemplate found returns => simp only [writeAll, write, ofModel, found, returns]

end HtmlTree.Node
