import HtmlTree.Proofs.Node.Layout

/-! Trees with nothing left to ask of their context. In a context every tree comes to one whose texts
are escaped and whose values are there, and which from then on looks the same whatever the escaper and
the model are. So two trees that come to the same look the same. Of custom content nothing is required:
it has its context once and for all, and may do what it likes with the text before it. -/

namespace HtmlTree

variable {Kind : Type} {Value : Kind → Type} {context : Context Value}

/-- Another escaper and another model, but the same layout. -/
def Context.revise (context : Context Value) (escape : String → String)
    (model : Option (Model Value)) : Context Value :=
  ⟨{ context.settings with escape }, model⟩

/-- What a value comes to in a context: markup that is written as it is. -/
def AttributeValue.settled (context : Context Value) : AttributeValue Value → AttributeValue Value
  | .absent => .absent
  | .text plain => .computed fun _ => context.settings.escape plain
  | .computed value => .computed fun _ => value context

def Attribute.settled (context : Context Value) (entry : Attribute Value) : Attribute Value :=
  { entry with value := entry.value.settled context }

def Tag.settled (context : Context Value) (tag : Tag Value) : Tag Value :=
  { tag with attributes := tag.attributes.map (Attribute.settled context) }

namespace Node

mutual

/-- What a tree comes to in a context. -/
def settled (context : Context Value) : Node Value → Node Value
  | .text plain => .markup (context.settings.escape plain)
  | .markup source => .markup source
  | .void tag => .void (tag.settled context)
  | .element tag children => .element (tag.settled context) (settledAll context children)
  | .fragment children => .fragment (settledAll context children)
  | .computed renderer => .computed fun _ => renderer context

def settledAll (context : Context Value) : List (Node Value) → List (Node Value)
  | [] => []
  | node :: rest => settled context node :: settledAll context rest

end

theorem settledAll_eq_map (nodes : List (Node Value)) :
    settledAll context nodes = nodes.map (settled context) := by
  induction nodes with
  | nil => rfl
  | cons node rest ih => rw [settledAll, ih, List.map_cons]

theorem settledAll_congr {first second : Context Value} {nodes : List (Node Value)}
    (same : ∀ node ∈ nodes, node.settled first = node.settled second) :
    settledAll first nodes = settledAll second nodes := by
  rw [settledAll_eq_map, settledAll_eq_map]
  exact List.map_congr_left same

theorem writeAll_congr {first second : Context Value} {nodes : List (Node Value)}
    (same : ∀ node ∈ nodes, ∀ written, node.write first written = node.write second written)
    (written : String) : writeAll first written nodes = writeAll second written nodes := by
  induction nodes generalizing written with
  | nil => rfl
  | cons node rest ih =>
    obtain ⟨head, tail⟩ := List.forall_mem_cons.mp same
    rw [writeAll, writeAll, head, ih tail]

end Node

variable (escape : String → String) (model : Option (Model Value))

theorem Attribute.render_settled (elsewhere : Context Value) (entry : Attribute Value) :
    (entry.settled context).render elsewhere = entry.render context := by
  obtain ⟨name, value⟩ := entry
  cases value <;> rfl

theorem Tag.closing_settled (tag : Tag Value) :
    (tag.settled context).closing = tag.closing := rfl

theorem Tag.isNamed_settled (tag : Tag Value) :
    (tag.settled context).isNamed = tag.isNamed := rfl

theorem Tag.opening_settled (elsewhere : Context Value) (slash : Bool) (tag : Tag Value) :
    (tag.settled context).opening elsewhere slash = tag.opening context slash := by
  have written (text : String) (entry : Attribute Value) :
      (entry.settled context).write elsewhere text = entry.write context text := by
    rw [Attribute.write_eq, Attribute.render_settled, ← Attribute.write_eq]
  have attributes (text : String) :
      (tag.attributes.map (Attribute.settled context)).foldl (Attribute.write elsewhere) text =
        tag.attributes.foldl (Attribute.write context) text := by
    rw [List.foldl_map]
    simp only [written]
  unfold opening writeOpening
  rw [isNamed_settled, settled, attributes]

namespace Node

mutual

theorem write_settled (written : String) :
    (node : Node Value) →
      (node.settled context).write (context.revise escape model) written = node.write context written
  | .text _ | .markup _ | .computed _ => rfl
  | .void tag => by
    rw [settled, write, write, Tag.writeOpening_eq, Tag.writeOpening_eq, Tag.opening_settled]
    rfl
  | .element tag children => by
    rw [settled, write, write, Tag.writeClosing_eq, Tag.writeClosing_eq, Tag.closing_settled,
      writeAll_settledAll _ children, Tag.writeOpening_eq, Tag.writeOpening_eq, Tag.opening_settled]
  | .fragment children => by rw [settled, write, write, writeAll_settledAll _ children]

theorem writeAll_settledAll (written : String) :
    (nodes : List (Node Value)) →
      writeAll (context.revise escape model) written (settledAll context nodes) =
        writeAll context written nodes
  | [] => rfl
  | node :: rest => by
    rw [settledAll, writeAll, writeAll, write_settled _ node, writeAll_settledAll _ rest]

end

theorem render_settled (node : Node Value) :
    (node.settled context).render (context.revise escape model) = node.render context :=
  write_settled escape model "" node

theorem verbatim_settledAll (children : List (Node Value)) :
    verbatim (context.revise escape model) (settledAll context children) =
      verbatim context children := by
  induction children with
  | nil => rfl
  | cons child rest ih =>
    rw [settledAll, verbatim_cons, verbatim_cons, ih, render_settled]
    rfl

end Node

theorem Tag.block_settled (level : Nat) (tag : Tag Value) (children : List (Node Value))
    (lines : Unit → String) :
    (tag.settled context).block (context.revise escape model) level
        (Node.settledAll context children) lines =
      tag.block context level children lines := by
  rw [block, block, opening_settled, closing_settled, Node.verbatim_settledAll]
  rfl

namespace Node

mutual

theorem lines_settled (level : Nat) :
    (node : Node Value) →
      (node.settled context).lines (context.revise escape model) level = node.lines context level
  | .text _ | .markup _ | .computed _ => rfl
  | .void tag => by
    have compact : render (context.revise escape model) (.void (tag.settled context)) =
        render context (.void tag) := render_settled escape model (.void tag)
    rw [settled, lines, lines, compact]
    rfl
  | .element tag children => by
    rw [settled, lines, lines, Tag.block_settled, Tag.isNamed_settled,
      linesAll_settledAll level children, linesAll_settledAll (level + 1) children]
    rfl
  | .fragment children => by rw [settled, lines, lines, linesAll_settledAll level children]

theorem linesAll_settledAll (level : Nat) :
    (nodes : List (Node Value)) →
      linesAll (context.revise escape model) level (settledAll context nodes) =
        linesAll context level nodes
  | [] => rfl
  | node :: rest => by
    rw [settledAll, linesAll, linesAll, lines_settled level node, linesAll_settledAll level rest]

end

theorem formatted_settled (node : Node Value) :
    (node.settled context).formatted (context.revise escape model) = node.formatted context := by
  cases node with
  | element tag children =>
    rw [settled, formatted, formatted, Element.formatted, Element.formatted,
      Tag.block_settled, Tag.isNamed_settled, linesAll_settledAll, linesAll_settledAll]
  | fragment children =>
    rw [settled, formatted, formatted, Fragment.formatted, Fragment.formatted, linesAll_settledAll]
  | text | markup | void | computed => exact lines_settled escape model 0 _

/-- Under the same settings, trees that come to the same have the same markup in both forms. -/
theorem looks_eq_of_settled_eq {first second : Context Value} {node other : Node Value}
    (settings : first.settings = second.settings)
    (same : node.settled first = other.settled second) :
    (∀ written, node.write first written = other.write second written) ∧
      node.formatted first = other.formatted second := by
  -- With the escaper and the model of the second context, the first is the second.
  have revised : first.revise second.settings.escape second.model = second := by
    rw [Context.revise, settings]
  constructor
  · intro written
    calc node.write first written = (node.settled first).write second written := by
          rw [← revised, write_settled]
      _ = (other.settled second).write second written := by rw [same]
      _ = other.write second written :=
          write_settled second.settings.escape second.model written other
  · calc node.formatted first = (node.settled first).formatted second := by
          rw [← revised, formatted_settled]
      _ = (other.settled second).formatted second := by rw [same]
      _ = other.formatted second := formatted_settled second.settings.escape second.model other

end Node

end HtmlTree
