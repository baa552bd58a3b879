import HtmlTree.Proofs.Node.Layout

/-! Preformatted elements. They stand on one line, but each of their children passes through the
indenter at level zero, so their content is left alone exactly if the indenter leaves it alone
there. -/

namespace HtmlTree

variable {Kind : Type} {Value : Kind → Type} {context : Context Value}

theorem Context.isNamed_of_isPreformatted {tag : Tag Value}
    (preformatted : context.isPreformatted tag = true) : tag.isNamed = true :=
  (Bool.and_eq_true_iff.mp preformatted).1

namespace Element

theorem formatted_of_isPreformatted {element : Element Value}
    (preformatted : context.isPreformatted element.tag = true) :
    element.formatted context =
      element.tag.opening context false ++ Node.verbatim context element.children ++
        element.tag.closing ++ "\n" := by
  have named := Context.isNamed_of_isPreformatted preformatted
  simp only [formatted, Tag.block, named, preformatted, ↓reduceIte]

/-- The closing tag is written alike in both forms, so only what stands before it can differ. -/
theorem formatted_eq_line_iff {element : Element Value}
    (preformatted : context.isPreformatted element.tag = true) :
    element.formatted context = element.render context ++ "\n" ↔
      element.tag.opening context false ++ Node.verbatim context element.children =
        Node.writeAll context (element.tag.opening context false) element.children := by
  rw [formatted_of_isPreformatted preformatted, Element.render, Element.toNode,
    Node.render_element_eq]
  simp only [String.append_left_inj]

/-- The opening tag is written alike too, so only the children can differ. -/
theorem formatted_eq_line_iff_verbatim {element : Element Value}
    (preformatted : context.isPreformatted element.tag = true)
    (appends : Node.OnlyAppendsAll element.children) :
    element.formatted context = element.render context ++ "\n" ↔
      Node.verbatim context element.children = Node.renderAll context element.children := by
  rw [formatted_eq_line_iff preformatted, Node.writeAll_eq _ _ _ appends, String.append_right_inj]

/-- A preformatted element is laid out as its compact form and a line break exactly if the children,
each handed to the indenter at level zero, come to what they write behind the opening tag. If custom
content keeps its contract then the opening tag does not matter. The element is laid out so for all
children with such content exactly if the indenter leaves every text at level zero as it is. -/
theorem preformatted_untouched_iff (context : Context Value) :
    (∀ element : Element Value, context.isPreformatted element.tag = true →
      (element.formatted context = element.render context ++ "\n" ↔
        element.tag.opening context false ++ String.join
            (element.children.map fun child => context.indent 0 (child.render context)) =
          Node.writeAll context (element.tag.opening context false) element.children)) ∧
    (∀ element : Element Value, context.isPreformatted element.tag = true →
      Node.OnlyAppendsAll element.children →
      (element.formatted context = element.render context ++ "\n" ↔
        String.join (element.children.map fun child => context.indent 0 (child.render context)) =
          Node.renderAll context element.children)) ∧
    ∀ tag : Tag Value, context.isPreformatted tag = true →
      ((∀ children : List (Node Value), Node.OnlyAppendsAll children →
        Element.formatted context ⟨tag, children⟩ =
          Element.render context ⟨tag, children⟩ ++ "\n") ↔ context.IsFlush) := by
  refine ⟨fun element preformatted => ?_, fun element preformatted appends => ?_,
    fun tag preformatted => ⟨fun untouched text => ?_, fun flush children appends => ?_⟩⟩
  · rw [formatted_eq_line_iff preformatted, Node.verbatim_eq_join]
  · rw [formatted_eq_line_iff_verbatim preformatted appends, Node.verbatim_eq_join]
  · -- Markup is its own compact form, so a lone piece of it shows what the indenter does to any text.
    have plain : Node.OnlyAppendsAll [(.markup text : Node Value)] := ⟨trivial, trivial⟩
    have alone := (formatted_eq_line_iff_verbatim preformatted plain).mp (untouched _ plain)
    rw [Node.verbatim_eq_join, Node.renderAll_singleton] at alone
    simpa using alone
  · exact (formatted_eq_line_iff_verbatim preformatted appends).mpr
      (Node.verbatim_of_isFlush flush children appends)

/-- An indenter whose margin is the level in brackets, which is not empty at level zero. -/
private def numbered : Context (fun _ : Unit => Unit) :=
  .ofSettings { Settings.standard with
    indent := fun level text => "[" ++ toString level ++ "]" ++ text }

private def preformattedItem : Element (fun _ : Unit => Unit) :=
  ⟨.ofName "pre", [.text "a\n  b"]⟩

theorem preformatted_altered :
    numbered.isPreformatted preformattedItem.tag = true ∧
      preformattedItem.formatted numbered = "<pre>[0]a\n  b</pre>\n" ∧
      preformattedItem.render numbered = "<pre>a\n  b</pre>" ∧
      preformattedItem.formatted numbered ≠ preformattedItem.render numbered ++ "\n" := by
  decide +kernel

theorem preformatted_untouched_standard :
    let context : Context (fun _ : Unit => Unit) := .ofSettings .standard
    context.isPreformatted preformattedItem.tag = true ∧ context.IsFlush ∧
      Node.OnlyAppendsAll preformattedItem.children ∧
      preformattedItem.formatted context = preformattedItem.render context ++ "\n" := by
  intro context
  have preformatted : context.isPreformatted preformattedItem.tag = true := by decide +kernel
  have flush : context.IsFlush := (Context.indentsBy_standard none).isFlush rfl
  have appends : Node.OnlyAppendsAll preformattedItem.children := ⟨trivial, trivial⟩
  exact ⟨preformatted, flush, appends,
    ((preformatted_untouched_iff context).2.2 _ preformatted).mpr flush _ appends⟩

end Element

end HtmlTree
