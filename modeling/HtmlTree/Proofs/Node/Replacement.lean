import HtmlTree.Node.Computed
import HtmlTree.Proofs.Node.Layout

/-! Replacing siblings anywhere in a tree. What a rule of replacement keeps where it is applied, it
keeps for the whole tree, whatever the depth and the number of the places. -/

namespace HtmlTree.Node

variable {Kind : Type} {Value : Kind → Type} {context : Context Value}

/-- The least equivalence of siblings that contains a rule and holds in every place of a tree: among
other siblings, in elements and fragments, and in the trees that shared nodes and templates hold. -/
inductive Replaced (rule : List (Node Value) → List (Node Value) → Prop) :
    List (Node Value) → List (Node Value) → Prop where
  | here {first second : List (Node Value)} (applies : rule first second) :
      Replaced rule first second
  | refl (nodes : List (Node Value)) : Replaced rule nodes nodes
  | symm {first second : List (Node Value)} (back : Replaced rule first second) :
      Replaced rule second first
  | trans {first second third : List (Node Value)} (earlier : Replaced rule first second)
      (later : Replaced rule second third) : Replaced rule first third
  | append {first first' second second' : List (Node Value)} (left : Replaced rule first first')
      (right : Replaced rule second second') : Replaced rule (first ++ second) (first' ++ second')
  | element {first second : List (Node Value)} (tag : Tag Value)
      (inside : Replaced rule first second) :
      Replaced rule [.element tag first] [.element tag second]
  | fragment {first second : List (Node Value)} (inside : Replaced rule first second) :
      Replaced rule [.fragment first] [.fragment second]
  | shared {first second : Node Value} (inside : Replaced rule [first] [second]) :
      Replaced rule [first.shared] [second.shared]
  | ofContext {first second : Context Value → Content Value}
      (inside : ∀ context, Replaced rule (first context).nodes (second context).nodes) :
      Replaced rule [ofContext first] [ofContext second]
  | ofModel [DecidableEq Kind] {kind : Kind} {first second : Value kind → Content Value}
      (inside : ∀ value, Replaced rule (first value).nodes (second value).nodes) :
      Replaced rule [ofModel kind first] [ofModel kind second]

namespace Replaced

variable {rule : List (Node Value) → List (Node Value) → Prop} {first second : List (Node Value)}

theorem cons (node : Node Value) (rest : Replaced rule first second) :
    Replaced rule (node :: first) (node :: second) :=
  append (.refl [node]) rest

/-- The compact form is kept by every rule that keeps it, whatever is written before. -/
theorem writeAll_eq
    (sound : ∀ first second, rule first second →
      ∀ written, writeAll context written first = writeAll context written second)
    (replaced : Replaced rule first second) (written : String) :
    writeAll context written first = writeAll context written second := by
  induction replaced generalizing written with
  | here applies => exact sound _ _ applies written
  | refl nodes => rfl
  | symm _ ih => exact (ih written).symm
  | trans _ _ ih ih' => exact (ih written).trans (ih' written)
  | append _ _ ih ih' => rw [writeAll_append, writeAll_append, ih, ih']
  | element tag _ ih => simp only [writeAll, write, ih]
  | fragment _ ih => exact ih written
  | shared _ ih => exact ih written
  | ofContext _ ih => exact ih context written
  | @ofModel _ kind _ _ _ ih =>
    simp only [writeAll, write, Node.ofModel]
    cases context.ask kind with
    | none => rfl
    | some value => exact ih value written

end Replaced

/-- What a rule must keep where it is applied, in order that it may be applied anywhere. Elements that
are preformatted show the compact form of each child, so the layout of a tree depends on that form and
on the contract of custom content too. -/
structure Transparent (rule : List (Node Value) → List (Node Value) → Prop) : Prop where
  write : ∀ first second, rule first second →
    ∀ context written, writeAll context written first = writeAll context written second
  contract : ∀ first second, rule first second → (OnlyAppendsAll first ↔ OnlyAppendsAll second)
  layout : ∀ first second, rule first second →
    ∀ context level, linesAll context level first = linesAll context level second

namespace Replaced

variable {rule : List (Node Value) → List (Node Value) → Prop} {first second : List (Node Value)}

/-- Custom content is nothing but what it writes, so if that is kept then so is the node. -/
theorem computed_eq (transparent : Transparent rule) {renderer other : Renderer Value}
    (replaced : Replaced rule [.computed renderer] [.computed other]) :
    [Node.computed renderer] = [.computed other] := by
  have same : renderer = other := funext fun context => funext fun written =>
    replaced.writeAll_eq (fun _ _ applies => transparent.write _ _ applies context) written
  rw [same]

theorem onlyAppendsAll_iff (transparent : Transparent rule) (replaced : Replaced rule first second) :
    OnlyAppendsAll first ↔ OnlyAppendsAll second := by
  induction replaced with
  | here applies => exact transparent.contract _ _ applies
  | refl nodes => rfl
  | symm _ ih => exact ih.symm
  | trans _ _ ih ih' => exact ih.trans ih'
  | append _ _ ih ih' => rw [onlyAppendsAll_append, onlyAppendsAll_append, ih, ih']
  | element tag _ ih => simp only [OnlyAppendsAll, OnlyAppends, ih]
  | fragment _ ih => simp only [OnlyAppendsAll, OnlyAppends, ih]
  | shared inside => exact iff_of_eq (congrArg _ (computed_eq transparent (.shared inside)))
  | ofContext inside => exact iff_of_eq (congrArg _ (computed_eq transparent (.ofContext inside)))
  | ofModel inside => exact iff_of_eq (congrArg _ (computed_eq transparent (.ofModel inside)))

end Replaced

end HtmlTree.Node
