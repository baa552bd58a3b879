import HtmlTree.Node.Lines

/-! Compact and formatted markup of siblings, put together from that of each. -/

namespace HtmlTree

variable {Kind : Type} {Value : Kind → Type} {context : Context Value}

/-- The indenter leaves text at level zero as it is. -/
def Context.IsFlush (context : Context Value) : Prop := ∀ text, context.indent 0 text = text

/-- The indenter does nothing but put a margin in front of the text. -/
def Context.IndentsBy (context : Context Value) (margin : Nat → String) : Prop :=
  ∀ level text, context.indent level text = margin level ++ text

theorem Context.IndentsBy.isFlush {margin : Nat → String} (indents : context.IndentsBy margin)
    (flush : margin 0 = "") : context.IsFlush := by
  intro text
  rw [indents, flush, String.empty_append]

/-- The standard margin is four spaces for each level. -/
theorem Context.indentsBy_standard (model : Option (Model Value)) :
    (⟨.standard, model⟩ : Context Value).IndentsBy
      fun level => String.ofList (List.replicate (4 * level) ' ') :=
  fun _ _ => rfl

namespace Tag

theorem opening_of_nameless {tag : Tag Value} (nameless : ¬ tag.isNamed = true) (slash : Bool) :
    tag.opening context slash = "" := by
  simp [opening, writeOpening, nameless]

theorem closing_of_nameless {tag : Tag Value} (nameless : ¬ tag.isNamed = true) :
    tag.closing = "" := by
  simp [closing, writeClosing, nameless]

end Tag

namespace Node

/-- A nameless element is written like its children. -/
theorem write_element_of_nameless {tag : Tag Value} (nameless : ¬ tag.isNamed = true)
    (written : String) (children : List (Node Value)) :
    write context written (.element tag children) = writeAll context written children := by
  rw [write, Tag.writeOpening_eq, Tag.writeClosing_eq, Tag.opening_of_nameless nameless,
    Tag.closing_of_nameless nameless, String.append_empty, String.append_empty]

theorem render_element_of_nameless {tag : Tag Value} (nameless : ¬ tag.isNamed = true)
    (children : List (Node Value)) :
    render context (.element tag children) = renderAll context children :=
  write_element_of_nameless nameless "" children

theorem verbatim_eq_join (children : List (Node Value)) :
    verbatim context children =
      String.join (children.map fun child => context.indent 0 (child.render context)) := by
  rw [verbatim, String.join, List.foldl_map]

theorem verbatim_cons (child : Node Value) (rest : List (Node Value)) :
    verbatim context (child :: rest) =
      context.indent 0 (child.render context) ++ verbatim context rest := by
  rw [verbatim_eq_join, List.map_cons, String.join_cons, ← verbatim_eq_join]

/-- In a preformatted element each child is written on its own, so none must look at those before
it. -/
theorem verbatim_of_isFlush (flush : context.IsFlush) (children : List (Node Value))
    (appends : OnlyAppendsAll children) :
    verbatim context children = renderAll context children := by
  induction children with
  | nil => rfl
  | cons child rest ih =>
    rw [verbatim_cons, flush, ih appends.2, renderAll_cons context child appends.2]

theorem linesAll_singleton (node : Node Value) (level : Nat) :
    linesAll context level [node] = node.lines context level := by
  rw [linesAll, linesAll, String.append_empty]

/-- A tree is laid out like a child at level zero, if the indenter leaves that level alone. -/
theorem formatted_eq_lines (flush : context.IsFlush) (node : Node Value) :
    node.formatted context = node.lines context 0 := by
  cases node with
  | element tag children =>
    by_cases named : tag.isNamed = true
    · simp only [formatted, Element.formatted, lines, named, ↓reduceIte, flush _]
    · simp only [formatted, Element.formatted, lines, named, Bool.false_eq_true, ↓reduceIte]
  | text | markup | void | fragment | computed => rfl

end Node

end HtmlTree
