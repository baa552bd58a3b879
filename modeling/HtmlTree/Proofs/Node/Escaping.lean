import HtmlTree.Proofs.Node.Settled

/-! Escaping happens once to each text and to each text value of an attribute, wherever it stands, and
to nothing else. So a tree whose texts have been escaped by hand, and are written as they are, looks as
it did. -/

namespace HtmlTree

variable {Kind : Type} {Value : Kind → Type} {context : Context Value}

/-- A text becomes a value that is always its escaped form. -/
def AttributeValue.escaped (escape : String → String) :
    AttributeValue Value → AttributeValue Value
  | .absent => .absent
  | .text plain => .computed fun _ => escape plain
  | .computed value => .computed value

def Attribute.escaped (escape : String → String) (entry : Attribute Value) : Attribute Value :=
  { entry with value := entry.value.escaped escape }

def Tag.escaped (escape : String → String) (tag : Tag Value) : Tag Value :=
  { tag with attributes := tag.attributes.map (Attribute.escaped escape) }

namespace Node

mutual

/-- Every text, at any depth, becomes the markup that is its escaped form. -/
def escaped (escape : String → String) : Node Value → Node Value
  | .text plain => .markup (escape plain)
  | .markup source => .markup source
  | .void tag => .void (tag.escaped escape)
  | .element tag children => .element (tag.escaped escape) (escapedAll escape children)
  | .fragment children => .fragment (escapedAll escape children)
  | .computed renderer => .computed renderer

def escapedAll (escape : String → String) : List (Node Value) → List (Node Value)
  | [] => []
  | node :: rest => escaped escape node :: escapedAll escape rest

end

end Node

theorem AttributeValue.settled_escaped (value : AttributeValue Value) :
    (value.escaped context.settings.escape).settled context = value.settled context := by
  cases value <;> rfl

theorem Tag.settled_escaped (tag : Tag Value) :
    (tag.escaped context.settings.escape).settled context = tag.settled context := by
  have attributes (entry : Attribute Value) :
      (entry.escaped context.settings.escape).settled context = entry.settled context := by
    rw [Attribute.settled, Attribute.settled, Attribute.escaped, AttributeValue.settled_escaped]
  rw [settled, settled, escaped, List.map_map]
  congr 1
  exact List.map_congr_left fun entry _ => attributes entry

namespace Node

mutual

theorem settled_escaped :
    (node : Node Value) →
      (node.escaped context.settings.escape).settled context = node.settled context
  | .text _ | .markup _ | .computed _ => rfl
  | .void tag => by rw [escaped, settled, settled, Tag.settled_escaped]
  | .element tag children => by
    rw [escaped, settled, settled, Tag.settled_escaped, settledAll_escapedAll children]
  | .fragment children => by rw [escaped, settled, settled, settledAll_escapedAll children]

theorem settledAll_escapedAll :
    (nodes : List (Node Value)) →
      settledAll context (escapedAll context.settings.escape nodes) = settledAll context nodes
  | [] => rfl
  | node :: rest => by
    rw [escapedAll, settledAll, settledAll, settled_escaped node, settledAll_escapedAll rest]

end

/-- Escaping all texts of a tree by hand changes neither of its forms. And once the texts are escaped,
and values and custom content have the context that they are for, the escaper does not matter any more:
markup, computed values and names do not pass through it. -/
theorem escaped_once (context : Context Value) (node : Node Value) :
    ((node.escaped context.settings.escape).render context = node.render context ∧
      (node.escaped context.settings.escape).formatted context = node.formatted context) ∧
    ∀ (escape : String → String) (model : Option (Model Value)),
      (node.settled context).render (context.revise escape model) = node.render context ∧
        (node.settled context).formatted (context.revise escape model) = node.formatted context := by
  constructor
  · obtain ⟨compact, formatted⟩ := looks_eq_of_settled_eq rfl (settled_escaped node)
    exact ⟨compact "", formatted⟩
  · intro escape model
    exact ⟨render_settled escape model node, formatted_settled escape model node⟩

/-- With an escaper that does not leave its own results alone, a second time would show. -/
example :
    let context : Context (fun _ : Unit => Unit) :=
      .ofSettings { Settings.standard with escape := fun text => "(" ++ text ++ ")" }
    let item : Node (fun _ : Unit => Unit) :=
      .element ⟨"pre", [.ofText "title" "a"]⟩ [.element (.ofName "") [.text "b"], .markup "c"]
    item.render context = "<pre title=\"(a)\">(b)c</pre>" ∧
      (item.escaped context.settings.escape).render context = item.render context := by
  decide

end Node

end HtmlTree
