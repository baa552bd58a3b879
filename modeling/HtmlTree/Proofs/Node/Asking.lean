import HtmlTree.Node.Computed
import HtmlTree.Proofs.Node.Settled

/-! Trees that see the model only by asking for it as one type or another. Their markup depends on the
settings and on the answers to what they ask, and on nothing else of the model. -/

namespace HtmlTree

variable {Kind : Type} {Value : Kind → Type}

/-- A text that is worked out by asking for the model as one type and another. What is asked next may
depend on the answers so far. -/
inductive Inquiry {Kind : Type} (Value : Kind → Type) where
  | answer (text : String)
  | ask (kind : Kind) (next : Option (Value kind) → Inquiry Value)

variable [DecidableEq Kind] {first second : Context Value} {kinds : Kind → Prop}

/-- The two contexts have the same settings and give the same answers when asked for these types. -/
structure Context.AgreeOn (kinds : Kind → Prop) (first second : Context Value) : Prop where
  settings : first.settings = second.settings
  answers : ∀ kind, kinds kind → first.ask kind = second.ask kind

namespace Inquiry

def run (context : Context Value) : Inquiry Value → String
  | .answer text => text
  | .ask kind next => (next (context.ask kind)).run context

/-- In this context the inquiry asks for no types but these. -/
def AsksOnly (context : Context Value) (kinds : Kind → Prop) : Inquiry Value → Prop
  | .answer _ => True
  | .ask kind next => kinds kind ∧ (next (context.ask kind)).AsksOnly context kinds

end Inquiry

/-- A computed value sees the settings, and of the model it sees what it asks for. -/
inductive AttributeValue.AsksOnly (context : Context Value) (kinds : Kind → Prop) :
    AttributeValue Value → Prop where
  | absent : AsksOnly context kinds .absent
  | text (plain : String) : AsksOnly context kinds (.text plain)
  | computed {inquiry : Settings → Inquiry Value}
      (asks : (inquiry context.settings).AsksOnly context kinds) :
      AsksOnly context kinds (.computed fun context => (inquiry context.settings).run context)

/-- Rendered in this context, the tree asks for no types but these, and sees nothing else of the model.
Templates that ask for a type may return trees that ask for others. -/
inductive Node.AsksOnly (context : Context Value) (kinds : Kind → Prop) : Node Value → Prop where
  | text (plain : String) : AsksOnly context kinds (.text plain)
  | markup (source : String) : AsksOnly context kinds (.markup source)
  | void {tag : Tag Value}
      (attributes : ∀ entry ∈ tag.attributes, entry.value.AsksOnly context kinds) :
      AsksOnly context kinds (.void tag)
  | element {tag : Tag Value} {children : List (Node Value)}
      (attributes : ∀ entry ∈ tag.attributes, entry.value.AsksOnly context kinds)
      (inside : ∀ child ∈ children, AsksOnly context kinds child) :
      AsksOnly context kinds (.element tag children)
  | fragment {children : List (Node Value)}
      (inside : ∀ child ∈ children, AsksOnly context kinds child) :
      AsksOnly context kinds (.fragment children)
  | ofModel {kind : Kind} {make : Value kind → Content Value} (asked : kinds kind)
      (inside : ∀ value, context.ask kind = some value →
        ∀ child ∈ (make value).nodes, AsksOnly context kinds child) :
      AsksOnly context kinds (.ofModel kind make)
  | shared {node : Node Value} (inside : AsksOnly context kinds node) :
      AsksOnly context kinds node.shared
  /-- A template that does not look at the model itself. -/
  | ofContext {make : Settings → Content Value}
      (inside : ∀ child ∈ (make context.settings).nodes, AsksOnly context kinds child) :
      AsksOnly context kinds (.ofContext fun context => make context.settings)
  /-- Custom content that does not depend on the model at all. What it does with the text before it does
  not matter. -/
  | computed (renderer : Settings → String → String) :
      AsksOnly context kinds (.computed fun context => renderer context.settings)

/-- With the same answers, the inquiry takes the same course. -/
theorem Inquiry.run_eq (agree : Context.AgreeOn kinds first second)
    {inquiry : Inquiry Value} (asks : inquiry.AsksOnly first kinds) :
    inquiry.run first = inquiry.run second := by
  induction inquiry with
  | answer text => rfl
  | ask kind next ih =>
    obtain ⟨asked, later⟩ := asks
    rw [run, run, ← agree.answers kind asked]
    exact ih _ later

theorem AttributeValue.settled_eq (agree : Context.AgreeOn kinds first second)
    {value : AttributeValue Value} (asks : value.AsksOnly first kinds) :
    value.settled first = value.settled second := by
  cases asks with
  | absent => rfl
  | text plain => rw [settled, settled, agree.settings]
  | computed asks =>
    have same := Inquiry.run_eq agree asks
    rw [agree.settings] at same
    simp only [settled, agree.settings, same]

theorem Tag.settled_eq (agree : Context.AgreeOn kinds first second) {tag : Tag Value}
    (asks : ∀ entry ∈ tag.attributes, entry.value.AsksOnly first kinds) :
    tag.settled first = tag.settled second := by
  have attributes : tag.attributes.map (Attribute.settled first) =
      tag.attributes.map (Attribute.settled second) := by
    apply List.map_congr_left
    intro entry member
    rw [Attribute.settled, Attribute.settled,
      AttributeValue.settled_eq agree (asks entry member)]
  rw [settled, settled, attributes]

namespace Node

/-- The tree comes to the same in both contexts, by induction on what it asks. -/
theorem settled_eq (agree : Context.AgreeOn kinds first second) {node : Node Value}
    (asks : node.AsksOnly first kinds) : node.settled first = node.settled second := by
  induction asks with
  | text plain => rw [settled, settled, agree.settings]
  | markup source => rfl
  | void attributes => rw [settled, settled, Tag.settled_eq agree attributes]
  | element attributes _ ih =>
    rw [settled, settled, Tag.settled_eq agree attributes, settledAll_congr ih]
  | fragment _ ih => rw [settled, settled, settledAll_congr ih]
  | @ofModel kind make asked _ ih =>
    rw [ofModel, settled, settled, ← agree.answers kind asked]
    cases found : first.ask kind with
    | none => rfl
    | some value =>
      have children := writeAll_congr fun child member =>
        (looks_eq_of_settled_eq agree.settings (ih value found child member)).1
      simp only [children]
  | @shared node _ ih =>
    have compact := (looks_eq_of_settled_eq agree.settings ih).1
    simp only [shared, settled, compact]
  | @ofContext make _ ih =>
    have children := writeAll_congr fun child member =>
      (looks_eq_of_settled_eq agree.settings (ih child member)).1
    simp only [ofContext, settled, ← agree.settings, children]
  | computed renderer => simp only [settled, agree.settings]

/-- Where two contexts agree on the types that a tree asks for, its markup agrees in both forms. So a
model of a type that is not asked for counts as none, and if no type is asked for then the model does
not count at all. -/
theorem looks_eq_of_answers_eq :
    (∀ (kinds : Kind → Prop) (first second : Context Value), Context.AgreeOn kinds first second →
      (∀ node : Node Value, node.AsksOnly first kinds →
        node.render first = node.render second) ∧
      ∀ element : Element Value, element.toNode.AsksOnly first kinds →
        element.formatted first = element.formatted second) ∧
    (∀ (kinds : Kind → Prop) (settings : Settings) (model : Model Value), ¬ kinds model.kind →
      (∀ node : Node Value, node.AsksOnly (.ofSettings settings) kinds →
        node.render ⟨settings, some model⟩ = node.render (.ofSettings settings)) ∧
      ∀ element : Element Value, element.toNode.AsksOnly (.ofSettings settings) kinds →
        element.formatted ⟨settings, some model⟩ = element.formatted (.ofSettings settings)) ∧
    ∀ (settings : Settings) (model other : Option (Model Value)),
      (∀ node : Node Value, node.AsksOnly ⟨settings, model⟩ (fun _ => False) →
        node.render ⟨settings, model⟩ = node.render ⟨settings, other⟩) ∧
      ∀ element : Element Value, element.toNode.AsksOnly ⟨settings, model⟩ (fun _ => False) →
        element.formatted ⟨settings, model⟩ = element.formatted ⟨settings, other⟩ := by
  have looks {kinds : Kind → Prop} {first second : Context Value}
      (agree : Context.AgreeOn kinds first second) (node : Node Value)
      (asks : node.AsksOnly first kinds) :
      node.render first = node.render second ∧ node.formatted first = node.formatted second := by
    obtain ⟨compact, formatted⟩ := looks_eq_of_settled_eq agree.settings (settled_eq agree asks)
    exact ⟨compact "", formatted⟩
  refine ⟨?_, ?_, ?_⟩
  · intro kinds first second agree
    exact ⟨fun node asks => (looks agree node asks).1,
      fun element asks => (looks agree element.toNode asks).2⟩
  · intro kinds settings model unasked
    let bare : Context Value := .ofSettings settings
    have agree : Context.AgreeOn kinds bare (bare.supply model) := by
      refine ⟨rfl, fun kind asked => ?_⟩
      have different : model.kind ≠ kind := fun same => unasked (same ▸ asked)
      exact (bare.ask_supply_of_ne model different).symm
    exact ⟨fun node asks => (looks agree node asks).1.symm,
      fun element asks => (looks agree element.toNode asks).2.symm⟩
  · intro settings model other
    have agree : Context.AgreeOn (fun _ => False) (⟨settings, model⟩ : Context Value)
        ⟨settings, other⟩ := ⟨rfl, fun _ => False.elim⟩
    exact ⟨fun node asks => (looks agree node asks).1,
      fun element asks => (looks agree element.toNode asks).2⟩

/-- A model is a name or a number. -/
private def NameOrNumber : Bool → Type
  | true => String
  | false => Nat

private def number : Inquiry NameOrNumber :=
  .ask false fun
    | some (found : Nat) => .answer (toString found)
    | none => .answer "none"

/-- A paragraph that asks for a number twice, and for a name only where there is a number. -/
private def numbered : Element NameOrNumber where
  tag := ⟨"p", [.ofContext "data-number" number.run]⟩
  children := [.text "a", .ofModel false fun (found : Nat) =>
    .group [.text (toString found), .node (.ofModel true fun (name : String) => .text name)]]

theorem looks_eq_of_answers_eq_numbered :
    let bare : Context NameOrNumber := .ofSettings .standard
    let named := bare.supply ⟨true, "b"⟩
    numbered.toNode.AsksOnly bare (· = false) ∧ Context.AgreeOn (· = false) bare named ∧
      numbered.toNode.render named = "<p data-number=\"none\">a</p>" ∧
      numbered.toNode.render bare = numbered.toNode.render named ∧
      numbered.formatted named = numbered.formatted bare ∧
      (Node.text "a").render bare = (Node.text "a").render named := by
  intro bare named
  have asks : numbered.toNode.AsksOnly bare (· = false) := by
    refine .element ?_ ?_
    · intro entry member
      obtain rfl : entry = .ofContext "data-number" number.run := by simpa [numbered] using member
      have asks : number.AsksOnly bare (· = false) := ⟨rfl, trivial⟩
      exact @AttributeValue.AsksOnly.computed _ _ _ bare _ (fun _ => number) asks
    · simp only [numbered, List.forall_mem_cons]
      exact ⟨.text "a", .ofModel rfl nofun, nofun⟩
  have agree : Context.AgreeOn (· = false) bare named := by
    refine ⟨rfl, ?_⟩
    rintro kind rfl
    rfl
  have plain : (Node.text "a").AsksOnly bare fun _ => False := .text "a"
  obtain ⟨answered, unasked, unseen⟩ := @looks_eq_of_answers_eq Bool NameOrNumber _
  exact ⟨asks, agree, by decide +kernel, (answered _ bare named agree).1 _ asks,
    (unasked (· = false) .standard ⟨true, "b"⟩ (by decide)).2 _ asks,
    (unseen .standard none _).1 _ plain⟩

end Node

end HtmlTree
