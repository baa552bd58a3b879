import HtmlTree.Node.Content

/-! Custom content that comes with the library: a subtree that stands in several places, and templates,
which make their markup from the context or from the model. They write what they hold in their own
place, and keep the contract of custom content if that does. -/

namespace HtmlTree.Node

variable {Kind : Type} {Value : Kind → Type}

/-- A subtree to be put under several parents. -/
def shared (node : Node Value) : Node Value :=
  .computed fun context written => node.write context written

/-- Content made from the context and rendered in that same context. -/
def ofContext (make : Context Value → Content Value) : Node Value :=
  .computed fun context written => writeAll context written (make context).nodes

/-- Content made from a model of one type; nothing without a model or with one of another type. -/
def ofModel [DecidableEq Kind] (kind : Kind) (make : Value kind → Content Value) : Node Value :=
  .computed fun context written =>
    match context.ask kind with
    | some value => writeAll context written (make value).nodes
    | none => written

theorem onlyAppends_shared {node : Node Value} (appends : node.OnlyAppends) :
    node.shared.OnlyAppends :=
  fun context written => write_eq context written node appends

theorem onlyAppends_ofContext {make : Context Value → Content Value}
    (appends : ∀ context, OnlyAppendsAll (make context).nodes) : (ofContext make).OnlyAppends :=
  fun context written => writeAll_eq context written _ (appends context)

theorem onlyAppends_ofModel [DecidableEq Kind] {kind : Kind} {make : Value kind → Content Value}
    (appends : ∀ value, OnlyAppendsAll (make value).nodes) : (ofModel kind make).OnlyAppends := by
  intro context written
  dsimp only
  cases context.ask kind with
  | none => rw [String.append_empty]
  | some value => exact writeAll_eq context written _ (appends value)

end HtmlTree.Node
