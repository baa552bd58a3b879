import HtmlTree.Proofs.Node.Layout
import HtmlTree.Text.Blank

/-! Formatting only adds white space. Each piece of the compact form turns up in the formatted form,
in its place and as it is, and all else there is blank. -/

namespace HtmlTree

variable {Kind : Type} {Value : Kind → Type} {context : Context Value}

namespace Text

/-- The second list is the first one with blanks put into it. -/
inductive Spaced : List Char → List Char → Prop where
  | nil : Spaced [] []
  | keep {before after : List Char} (c : Char) (rest : Spaced before after) :
      Spaced (c :: before) (c :: after)
  | insert {before after : List Char} {c : Char} (blank : isBlank c = true)
      (rest : Spaced before after) : Spaced before (c :: after)

def IsBlankText (text : String) : Prop := ∀ c ∈ text.toList, isBlank c = true

/-- The text with blanks put into it. -/
def SpacedOut (compact spaced : String) : Prop := Spaced compact.toList spaced.toList

def withoutBlanks (text : String) : String :=
  String.ofList (text.toList.filter fun c => !isBlank c)

theorem Spaced.refl (characters : List Char) : Spaced characters characters := by
  induction characters with
  | nil => exact .nil
  | cons c rest ih => exact .keep c ih

theorem Spaced.blanks {characters : List Char} (blank : ∀ c ∈ characters, isBlank c = true) :
    Spaced [] characters := by
  induction characters with
  | nil => exact .nil
  | cons c rest ih =>
    exact .insert (blank c (by simp)) (ih fun other member => blank other (by simp [member]))

theorem Spaced.append {first first' second second' : List Char} (left : Spaced first first')
    (right : Spaced second second') : Spaced (first ++ second) (first' ++ second') := by
  induction left with
  | nil => exact right
  | keep c _ ih => exact .keep c ih
  | insert blank _ ih => exact .insert blank ih

/-- What is not blank stays, in its order. -/
theorem Spaced.filter_eq {before after : List Char} (spaced : Spaced before after) :
    after.filter (fun c => !isBlank c) = before.filter fun c => !isBlank c := by
  induction spaced with
  | nil => rfl
  | keep c _ ih => rw [List.filter_cons, List.filter_cons, ih]
  | insert blank _ ih => rw [List.filter_cons, blank]; exact ih

namespace SpacedOut

theorem refl (text : String) : SpacedOut text text := Spaced.refl _

theorem append {first first' second second' : String} (left : SpacedOut first first')
    (right : SpacedOut second second') : SpacedOut (first ++ second) (first' ++ second') := by
  simpa [SpacedOut] using Spaced.append left right

theorem behind {compact spaced margin : String} (kept : SpacedOut compact spaced)
    (blank : IsBlankText margin) : SpacedOut compact (margin ++ spaced) := by
  simpa [SpacedOut] using (Spaced.blanks blank).append kept

theorem before {compact spaced margin : String} (kept : SpacedOut compact spaced)
    (blank : IsBlankText margin) : SpacedOut compact (spaced ++ margin) := by
  simpa [SpacedOut] using Spaced.append kept (Spaced.blanks blank)

theorem withoutBlanks_eq {compact spaced : String} (kept : SpacedOut compact spaced) :
    withoutBlanks spaced = withoutBlanks compact := by
  rw [withoutBlanks, withoutBlanks, Spaced.filter_eq kept]

end SpacedOut

theorem isBlankText_lineBreak : IsBlankText "\n" := by
  intro c member
  obtain rfl : c = '\n' := by simpa using member
  decide

end Text

open Text

variable {margin : Nat → String}

theorem Node.verbatim_spaced (indents : context.IndentsBy margin)
    (blank : IsBlankText (margin 0)) (children : List (Node Value))
    (appends : OnlyAppendsAll children) :
    SpacedOut (renderAll context children) (verbatim context children) := by
  induction children with
  | nil => exact .refl _
  | cons child rest ih =>
    rw [renderAll_cons context child appends.2, verbatim_cons, indents]
    exact ((SpacedOut.refl _).behind blank).append (ih appends.2)

/-- If the children are spaced out, so is the block of an element around them. -/
theorem Tag.block_spaced (indents : context.IndentsBy margin)
    (blank : ∀ level, IsBlankText (margin level)) (level : Nat) (tag : Tag Value)
    {children : List (Node Value)} (appends : Node.OnlyAppendsAll children) {lines : Unit → String}
    (inside : SpacedOut (Node.renderAll context children) (lines ())) :
    SpacedOut (Node.render context (.element tag children))
      (tag.block context level children lines) := by
  rw [Node.render_element context tag appends, Tag.block]
  have opening := SpacedOut.refl (tag.opening context false)
  have closing := SpacedOut.refl tag.closing
  split
  · have verbatim := Node.verbatim_spaced indents (blank 0) children appends
    exact ((opening.append verbatim).append closing).before isBlankText_lineBreak
  · rw [indents, String.append_empty]
    have laidOut := (opening.before isBlankText_lineBreak).append inside
    exact ((laidOut.before (blank level)).append closing).before isBlankText_lineBreak

namespace Node

mutual

theorem lines_spaced (indents : context.IndentsBy margin)
    (blank : ∀ level, IsBlankText (margin level)) (level : Nat) :
    (node : Node Value) → node.OnlyAppends →
      SpacedOut (node.render context) (node.lines context level)
  | .text _, _ | .markup _, _ | .void _, _ | .computed _, _ => by
    rw [lines, indents]
    exact ((SpacedOut.refl _).behind (blank level)).before isBlankText_lineBreak
  | .element tag children, appends => by
    rw [lines]
    split
    · rw [indents]
      exact (Tag.block_spaced indents blank level tag appends
        (linesAll_spaced indents blank (level + 1) children appends)).behind (blank level)
    · rename_i nameless
      rw [render_element_of_nameless nameless]
      exact linesAll_spaced indents blank level children appends
  | .fragment children, appends => by
    rw [lines, render_fragment]
    exact linesAll_spaced indents blank level children appends

theorem linesAll_spaced (indents : context.IndentsBy margin)
    (blank : ∀ level, IsBlankText (margin level)) (level : Nat) :
    (nodes : List (Node Value)) → OnlyAppendsAll nodes →
      SpacedOut (renderAll context nodes) (linesAll context level nodes)
  | [], _ => .refl _
  | node :: rest, ⟨head, tail⟩ => by
    rw [renderAll_cons context node tail, linesAll]
    exact (lines_spaced indents blank level node head).append
      (linesAll_spaced indents blank level rest tail)

end

/-- An element at the top is not indented, whatever the margin of level zero is. -/
theorem formatted_spacedOut (indents : context.IndentsBy margin)
    (blank : ∀ level, IsBlankText (margin level)) (node : Node Value)
    (appends : node.OnlyAppends) : SpacedOut (node.render context) (node.formatted context) := by
  cases node with
  | element tag children =>
    rw [formatted, Element.formatted]
    split
    · exact Tag.block_spaced indents blank 0 tag appends
        (linesAll_spaced indents blank 1 children appends)
    · rename_i nameless
      rw [render_element_of_nameless nameless]
      exact linesAll_spaced indents blank 0 children appends
  | text | markup | void | fragment | computed => exact lines_spaced indents blank 0 _ appends

end Node

/-- If the indenter does nothing but put blank margins in front, and custom content keeps its contract,
then the formatted form of a tree, an element or siblings is its compact form with blanks put into it.
Without blanks the two are equal. -/
theorem formatted_adds_blanks (indents : context.IndentsBy margin)
    (blank : ∀ level, IsBlankText (margin level)) :
    (∀ node : Node Value, node.OnlyAppends →
      SpacedOut (node.render context) (node.formatted context) ∧
        withoutBlanks (node.formatted context) = withoutBlanks (node.render context)) ∧
    (∀ element : Element Value, element.toNode.OnlyAppends →
      SpacedOut (element.render context) (element.formatted context) ∧
        withoutBlanks (element.formatted context) = withoutBlanks (element.render context)) ∧
    ∀ fragment : Fragment Value, fragment.toNode.OnlyAppends →
      SpacedOut (fragment.toNode.render context) (fragment.formatted context) ∧
        withoutBlanks (fragment.formatted context) =
          withoutBlanks (fragment.toNode.render context) := by
  have whole (node : Node Value) (appends : node.OnlyAppends) :
      SpacedOut (node.render context) (node.formatted context) ∧
        withoutBlanks (node.formatted context) = withoutBlanks (node.render context) := by
    have spaced := Node.formatted_spacedOut indents blank node appends
    exact ⟨spaced, spaced.withoutBlanks_eq⟩
  exact ⟨whole, fun element => whole element.toNode, fun fragment => whole fragment.toNode⟩

/-- A rule, and the model if there is one, with a blank before it. -/
private def ruled : Renderer (fun _ : Unit => String) := fun context written =>
  written ++ "<hr>" ++ (match context.ask () with | some name => " " ++ name | none => "")

/-- An element in another, with blanks of its own in its text, and custom content behind it. -/
private def spacedItems : Node (fun _ : Unit => String) :=
  .element (.ofName "ul") [.element (.ofName "li") [.text " a\n b "], .fragment [.computed ruled]]

theorem formatted_adds_blanks_tabs :
    let tabs : Settings := { Settings.standard with
      indent := fun level text => String.ofList (List.replicate (level + 1) '\t') ++ text }
    let context : Context (fun _ : Unit => String) := ⟨tabs, some ⟨(), "c"⟩⟩
    let margin : Nat → String := fun level => String.ofList (List.replicate (level + 1) '\t')
    context.IndentsBy margin ∧ (∀ level, IsBlankText (margin level)) ∧ spacedItems.OnlyAppends ∧
      spacedItems.render context = "<ul><li> a\n b </li><hr> c</ul>" ∧
      spacedItems.formatted context =
        "<ul>\n\t\t<li>\n\t\t\t a\n b \n\t\t</li>\n\t\t<hr> c\n\t</ul>\n" ∧
      SpacedOut (spacedItems.render context) (spacedItems.formatted context) := by
  intro tabs context margin
  have indents : context.IndentsBy margin := fun _ _ => rfl
  have blank : ∀ level, IsBlankText (margin level) := by
    intro level c member
    obtain rfl : c = '\t' := by simpa [margin] using member
    decide
  have contract : ruled.OnlyAppends := fun _ _ => by simp [ruled, String.append_assoc]
  have appends : spacedItems.OnlyAppends := ⟨⟨trivial, trivial⟩, ⟨contract, trivial⟩, trivial⟩
  exact ⟨indents, blank, appends, by decide, by decide,
    ((formatted_adds_blanks indents blank).1 spacedItems appends).1⟩

/-- A separator that looks whether there is text before it breaks the contract. It is lost where it is
formatted on a line of its own. -/
example :
    let separator : Renderer (fun _ : Unit => Unit) := fun _ written =>
      if written = "" then written else written ++ ", "
    let item : Element (fun _ : Unit => Unit) :=
      ⟨.ofName "p", [.text "a", .computed separator, .text "b"]⟩
    item.render (.ofSettings .standard) = "<p>a, b</p>" ∧
      item.formatted (.ofSettings .standard) = "<p>\n    a\n    \n    b\n</p>\n" := by
  decide

end HtmlTree
