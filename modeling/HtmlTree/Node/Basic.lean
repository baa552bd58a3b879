import HtmlTree.Tag

/-! Trees of markup and their compact form. Every part of a tree is handed the text written so far and
adds its own markup to it. Custom content could do anything with that text; what it is relied on for is
its contract, `Renderer.OnlyAppends`. -/

namespace HtmlTree

variable {Kind : Type} {Value : Kind → Type}

/-- Custom content as a function: the text written so far goes in, and the text as the content leaves
it comes out. -/
abbrev Renderer {Kind : Type} (Value : Kind → Type) := Context Value → String → String

/-- The contract of custom content: it leaves the text before it alone, and what it appends depends on
the context only. -/
def Renderer.OnlyAppends (renderer : Renderer Value) : Prop :=
  ∀ context written, renderer context written = written ++ renderer context ""

inductive Node {Kind : Type} (Value : Kind → Type) where
  /-- Text, escaped when it is written. -/
  | text (text : String)
  /-- Markup, written as it is. -/
  | markup (markup : String)
  /-- A tag that has no content. -/
  | void (tag : Tag Value)
  /-- A tag around its children; without a name, the children alone. -/
  | element (tag : Tag Value) (children : List (Node Value))
  /-- Siblings without an element around them. -/
  | fragment (children : List (Node Value))
  /-- Custom content, worked out at rendering. It is to append to the text written so far and to see
  nothing but its context. Nothing holds it to that, so whatever relies on it says so by
  `OnlyAppends`. -/
  | computed (renderer : Renderer Value)

namespace Node

instance : Inhabited (Node Value) := ⟨.fragment []⟩

mutual

/-- Appends the compact form of a node to what is already written. -/
def write (context : Context Value) (written : String) : Node Value → String
  | .text plain => written ++ context.settings.escape plain
  | .markup source => written ++ source
  | .void tag => tag.writeOpening context context.settings.slashVoidTags written
  | .element tag children =>
    tag.writeClosing (writeAll context (tag.writeOpening context false written) children)
  | .fragment children => writeAll context written children
  | .computed renderer => renderer context written

/-- Appends the compact forms of siblings, first to last. -/
def writeAll (context : Context Value) (written : String) : List (Node Value) → String
  | [] => written
  | node :: rest => writeAll context (write context written node) rest

end

/-- The compact form of a node. -/
def render (context : Context Value) (node : Node Value) : String :=
  node.write context ""

def renderAll (context : Context Value) (nodes : List (Node Value)) : String :=
  writeAll context "" nodes

mutual

/-- All custom content in the tree keeps its contract. -/
def OnlyAppends : Node Value → Prop
  | .text _ => True
  | .markup _ => True
  | .void _ => True
  | .element _ children => OnlyAppendsAll children
  | .fragment children => OnlyAppendsAll children
  | .computed renderer => renderer.OnlyAppends

def OnlyAppendsAll : List (Node Value) → Prop
  | [] => True
  | node :: rest => OnlyAppends node ∧ OnlyAppendsAll rest

end

theorem onlyAppendsAll_iff {nodes : List (Node Value)} :
    OnlyAppendsAll nodes ↔ ∀ node ∈ nodes, node.OnlyAppends := by
  induction nodes with
  | nil => simp [OnlyAppendsAll]
  | cons node rest ih => rw [OnlyAppendsAll, ih, List.forall_mem_cons]

theorem onlyAppendsAll_append {first second : List (Node Value)} :
    OnlyAppendsAll (first ++ second) ↔ OnlyAppendsAll first ∧ OnlyAppendsAll second := by
  simp only [onlyAppendsAll_iff, List.forall_mem_append]

mutual

/-- A node whose custom content keeps its contract keeps that contract itself. -/
theorem write_eq (context : Context Value) (written : String) :
    (node : Node Value) → node.OnlyAppends →
      node.write context written = written ++ node.render context
  | .text plain, _ => by simp [render, write]
  | .markup source, _ => by simp [render, write]
  | .void tag, _ => by
    simp only [render, write]
    rw [Tag.writeOpening_eq]
    rfl
  | .element tag children, appends => by
    simp only [render, write]
    rw [Tag.writeClosing_eq, writeAll_eq _ _ children appends, Tag.writeOpening_eq,
      Tag.writeClosing_eq (writeAll _ _ _), writeAll_eq _ (tag.writeOpening _ _ "") children appends]
    simp [Tag.opening, String.append_assoc]
  | .fragment children, appends => by
    simp only [render, write]
    rw [writeAll_eq _ _ children appends, renderAll]
  | .computed renderer, appends => appends context written

theorem writeAll_eq (context : Context Value) (written : String) :
    (nodes : List (Node Value)) → OnlyAppendsAll nodes →
      writeAll context written nodes = written ++ renderAll context nodes
  | [], _ => by simp [renderAll, writeAll]
  | node :: rest, ⟨head, tail⟩ => by
    simp only [renderAll, writeAll]
    rw [writeAll_eq _ _ rest tail, write_eq _ written node head,
      writeAll_eq _ (write context "" node) rest tail, ← String.append_assoc]
    rfl

end

theorem writeAll_append (context : Context Value) (written : String)
    (first second : List (Node Value)) :
    writeAll context written (first ++ second) =
      writeAll context (writeAll context written first) second := by
  induction first generalizing written with
  | nil => rfl
  | cons node rest ih => rw [List.cons_append, writeAll, ih, writeAll]

@[simp] theorem render_text (context : Context Value) (plain : String) :
    render context (.text plain) = context.settings.escape plain := by
  simp [render, write]

@[simp] theorem render_markup (context : Context Value) (source : String) :
    render context (.markup source) = source := by
  simp [render, write]

@[simp] theorem render_computed (context : Context Value) (renderer : Renderer Value) :
    render context (.computed renderer) = renderer context "" := rfl

theorem render_void (context : Context Value) (tag : Tag Value) :
    render context (.void tag) = tag.opening context context.settings.slashVoidTags := rfl

/-- Children write behind the opening tag, and the closing tag stands behind what they leave. -/
theorem render_element_eq (context : Context Value) (tag : Tag Value)
    (children : List (Node Value)) :
    render context (.element tag children) =
      writeAll context (tag.opening context false) children ++ tag.closing := by
  rw [render, write, Tag.writeClosing_eq]
  rfl

theorem render_element (context : Context Value) (tag : Tag Value)
    {children : List (Node Value)} (appends : OnlyAppendsAll children) :
    render context (.element tag children) =
      tag.opening context false ++ renderAll context children ++ tag.closing := by
  rw [render_element_eq, writeAll_eq _ _ _ appends]

theorem render_fragment (context : Context Value) (children : List (Node Value)) :
    render context (.fragment children) = renderAll context children := rfl

theorem renderAll_singleton (context : Context Value) (node : Node Value) :
    renderAll context [node] = node.render context := rfl

/-- Siblings contribute the concatenation of their own compact forms. -/
theorem renderAll_cons (context : Context Value) (node : Node Value) {rest : List (Node Value)}
    (appends : OnlyAppendsAll rest) :
    renderAll context (node :: rest) = node.render context ++ renderAll context rest := by
  rw [renderAll, writeAll, writeAll_eq _ _ rest appends]
  rfl

end Node

end HtmlTree
