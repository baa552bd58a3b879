import HtmlTree.Proofs.Node.Legible
import HtmlTree.Session.Equality

/-! The compact form of a tree that can be read back determines the tree up to its normal form, so
no text and no value can pass for markup. Equality of elements is equality of normal forms. -/

namespace HtmlTree

open Text

variable {Kind : Type} {Value : Kind → Type} {context : Context Value}

namespace Token

/-- How a token is written with the standard escaping. -/
def spell (context : Context Value) : Token Value → List Char
  | .character c => escapeChar c
  | .void tag => (tag.opening context context.settings.slashVoidTags).toList
  | .opening tag => (tag.opening context false).toList
  | .closing name => '<' :: '/' :: (name.toList ++ ['>'])
  | .leaf node => (node.render context).toList

/-- The tokens of trees that can be read back. -/
inductive Legible (slashed : Bool) : Token Value → Prop where
  | character (c : Char) : Legible slashed (.character c)
  | void {tag : Tag Value} (written : tag.IsWritten)
      (shape : slashed = false → Catalog.isVoid tag.name = true) : Legible slashed (.void tag)
  | opening {tag : Tag Value} (written : tag.IsWritten)
      (shape : slashed = false → Catalog.isVoid tag.name = false) : Legible slashed (.opening tag)
  | closing {name : String} (isName : IsName name) : Legible slashed (.closing name)

theorem spell_ne_nil {slashed : Bool} {token : Token Value} (legible : token.Legible slashed) :
    token.spell context ≠ [] := by
  cases legible with
  | character c => exact escapeChar_ne_nil c
  | void written | opening written => simp [spell, Tag.toList_opening written.named]
  | closing => simp [spell]

private theorem character_ne_tag {c : Char} {rest others : List Char} :
    escapeChar c ++ rest ≠ '<' :: others := by
  intro same
  cases spelled : escapeChar c with
  | nil => exact escapeChar_ne_nil c spelled
  | cons first remaining =>
    rw [spelled] at same
    have member : first ∈ escapeChar c := by simp [spelled]
    exact (not_special_of_mem_escapeChar member).1 (List.cons.inj same).1

private theorem character_ne_opening {c : Char} {tag : Tag Value} (written : tag.IsWritten)
    {slash : Bool} {rest others : List Char} :
    escapeChar c ++ rest ≠ (tag.opening context slash).toList ++ others := by
  rw [Tag.toList_opening written.named]
  exact character_ne_tag

private theorem opening_ne_closing {tag : Tag Value} (written : tag.IsWritten) {slash : Bool}
    {rest others : List Char} :
    (tag.opening context slash).toList ++ rest ≠ '<' :: '/' :: others := by
  intro same
  rw [Tag.toList_opening written.named] at same
  cases name : tag.name.toList with
  | nil =>
    have empty : tag.name = "" := String.toList_eq_nil_iff.mp name
    simpa [Tag.isNamed, empty] using written.named
  | cons first remaining =>
    have within := written.name first (by simp [name])
    simp only [name, List.cons_append, List.cons.injEq, true_and] at same
    rw [same.1] at within
    exact absurd within (by decide)

/-- A void tag and an opening tag differ in their slashes or in the names that they can have. -/
private theorem void_ne_opening (standard : context.settings.escape = escape)
    {first second : Tag Value} (written : first.IsWritten) (written' : second.IsWritten)
    (shape : context.settings.slashVoidTags = false → Catalog.isVoid first.name = true)
    (shape' : context.settings.slashVoidTags = false → Catalog.isVoid second.name = false)
    {rest others : List Char} :
    (first.opening context context.settings.slashVoidTags).toList ++ rest ≠
      (second.opening context false).toList ++ others := by
  intro same
  obtain ⟨rfl, unslashed, _⟩ := Tag.opening_unique standard written written' same
  exact absurd (shape unslashed) (by simp [shape' unslashed])

theorem spell_prefixCode (standard : context.settings.escape = escape) :
    PrefixCode (spell context) (Legible context.settings.slashVoidTags) := by
  intro first second legible legible' rest others same
  cases legible with
  | character c =>
    cases legible' with
    | character d =>
      obtain ⟨rfl, ended⟩ := escapeChar_prefixCode trivial trivial same
      exact ⟨rfl, ended⟩
    | void written' | opening written' => exact absurd same (character_ne_opening written')
    | closing => exact absurd same character_ne_tag
  | void written shape =>
    cases legible' with
    | character d => exact absurd same.symm (character_ne_opening written)
    | void written' =>
      obtain ⟨rfl, _, ended⟩ := Tag.opening_unique standard written written' same
      exact ⟨rfl, ended⟩
    | opening written' shape' =>
      exact absurd same (void_ne_opening standard written written' shape shape')
    | closing => exact absurd same (opening_ne_closing written)
  | opening written shape =>
    cases legible' with
    | character d => exact absurd same.symm (character_ne_opening written)
    | void written' shape' =>
      exact absurd same.symm (void_ne_opening standard written' written shape' shape)
    | opening written' =>
      obtain ⟨rfl, _, ended⟩ := Tag.opening_unique standard written written' same
      exact ⟨rfl, ended⟩
    | closing => exact absurd same (opening_ne_closing written)
  | closing isName =>
    cases legible' with
    | character d => exact absurd same.symm character_ne_tag
    | void written' | opening written' => exact absurd same.symm (opening_ne_closing written')
    | closing isName' =>
      simp only [spell, List.cons_append, List.append_assoc, List.cons.injEq, true_and,
        List.nil_append] at same
      have stop (left : List Char) : ∀ c ∈ ('>' :: left).head?, ¬ isNameChar c = true := by
        intro c found
        obtain rfl : '>' = c := by simpa using found
        decide
      obtain ⟨names, ends⟩ := word_unique _ isName isName' (stop rest) (stop others) same
      rw [String.toList_inj.mp names]
      exact ⟨rfl, (List.cons.inj ends).2⟩

end Token

namespace Node

mutual

/-- The compact form is what the tokens spell. -/
theorem toList_render (standard : context.settings.escape = escape) :
    (node : Node Value) → node.OnlyAppends →
      (node.render context).toList = node.tokens.flatMap (Token.spell context)
  | .text plain, _ => by
    simp [tokens, Token.spell, standard, toList_escape, List.flatMap_map]
  | .markup _, _ | .computed _, _ => by simp [tokens, Token.spell]
  | .void tag, _ => by
    by_cases named : tag.isNamed = true
    · simp [tokens, named, Token.spell, render_void, Tag.opening_normal]
    · simp [tokens, named, render_void, Tag.opening, Tag.writeOpening]
  | .element tag children, appends => by
    rw [render_element context tag appends]
    have inside := toList_renderAll standard children appends
    by_cases named : tag.isNamed = true
    · simp [tokens, named, Token.spell, Tag.opening_normal, Tag.closing, Tag.writeClosing, inside]
    · simp [tokens, named, Tag.opening, Tag.writeOpening, Tag.closing, Tag.writeClosing, inside]
  | .fragment children, appends => by
    rw [render_fragment, tokens, toList_renderAll standard children appends]

theorem toList_renderAll (standard : context.settings.escape = escape) :
    (nodes : List (Node Value)) → OnlyAppendsAll nodes →
      (renderAll context nodes).toList = (tokensAll nodes).flatMap (Token.spell context)
  | [], _ => rfl
  | node :: rest, ⟨head, tail⟩ => by
    rw [renderAll_cons context node tail, String.toList_append, toList_render standard node head,
      toList_renderAll standard rest tail, tokensAll, List.flatMap_append]

end

theorem mem_tokensAll {token : Token Value} {nodes : List (Node Value)}
    (member : token ∈ tokensAll nodes) : ∃ node ∈ nodes, token ∈ node.tokens := by
  induction nodes with
  | nil => simp [tokensAll] at member
  | cons node rest ih =>
    rcases List.mem_append.mp member with here | later
    · exact ⟨node, by simp, here⟩
    · obtain ⟨found, present, inside⟩ := ih later
      exact ⟨found, by simp [present], inside⟩

/-- A tree that can be read back consists of tokens that can. -/
theorem Legible.tokens {slashed : Bool} {node : Node Value} (legible : node.Legible slashed) :
    ∀ token ∈ node.tokens, token.Legible slashed := by
  induction legible with
  | text plain =>
    intro token member
    obtain ⟨c, _, rfl⟩ := List.mem_map.mp member
    exact .character c
  | @void tag plain shape =>
    intro token member
    by_cases named : tag.isNamed = true
    · obtain rfl : token = .void tag.normal := by simpa [Node.tokens, named] using member
      exact .void (plain.written named) fun unslashed => shape unslashed named
    · simp [Node.tokens, named] at member
  | @element tag children plain shape inside ih =>
    intro token member
    have within : token ∈ tokensAll children → token.Legible slashed := by
      intro present
      obtain ⟨child, found, spoken⟩ := mem_tokensAll present
      exact ih child found token spoken
    by_cases named : tag.isNamed = true
    · simp only [Node.tokens, named, ↓reduceIte, List.cons_append, List.mem_cons,
        List.mem_append, List.not_mem_nil, or_false] at member
      rcases member with rfl | present | rfl
      · exact .opening (plain.written named) shape
      · exact within present
      · exact .closing plain.name
    · exact within (by simpa [Node.tokens, named] using member)
  | fragment inside ih =>
    intro token member
    obtain ⟨child, found, spoken⟩ := mem_tokensAll member
    exact ih child found token spoken

theorem render_eq_iff (standard : context.settings.escape = escape) {first second : Node Value}
    (legible : first.Legible context.settings.slashVoidTags)
    (legible' : second.Legible context.settings.slashVoidTags) :
    first.render context = second.render context ↔ first.normal = second.normal := by
  rw [normal_eq_iff_tokens_eq, ← String.toList_inj, toList_render standard _ legible.onlyAppends,
    toList_render standard _ legible'.onlyAppends]
  constructor
  · exact (Token.spell_prefixCode standard).flatMap_inj (fun _ => Token.spell_ne_nil)
      legible.tokens legible'.tokens
  · exact congrArg _

end Node

/-- Comparing elements compares their markup, with the settings that are in force or will be. -/
theorem Session.same_element (process : Option Settings) (first second : Element Value) :
    ((Session.same first.toNode second.toNode).run process).1 =
      (first.render (.ofSettings (process.getD .standard)) ==
        second.render (.ofSettings (process.getD .standard))) := by
  cases process <;> rfl

/-- The compact form of a tree that can be read back determines it up to its normal form. So elements
are equal under the standard settings exactly when their normal forms are. -/
theorem compact_unambiguous :
    (∀ (context : Context Value) (first second : Node Value),
      context.settings.escape = escape →
      first.Legible context.settings.slashVoidTags →
      second.Legible context.settings.slashVoidTags →
      (first.render context = second.render context ↔ first.normal = second.normal)) ∧
    ∀ (process : Option Settings) (first second : Element Value),
      process = none ∨ process = some .standard →
      first.toNode.Legible false → second.toNode.Legible false →
      (((Session.same first.toNode second.toNode).run process).1 = true ↔
        first.toNode.normal = second.toNode.normal) := by
  refine ⟨fun _ _ _ standard => Node.render_eq_iff standard, ?_⟩
  intro process first second default legible legible'
  have settings : process.getD .standard = .standard := by
    rcases default with rfl | rfl <;> rfl
  rw [Session.same_element, settings, beq_iff_eq]
  exact Node.render_eq_iff rfl legible legible'

/-- A paragraph whose text looks like markup, in a group of its own. -/
private def groupedParagraph : Element (fun _ : Unit => Unit) where
  tag := ⟨"p", [.ofText "title" "a\"b", .ofName "", .ofName "hidden"]⟩
  children := [.text "1 <", .fragment [.text "b>", .void (.ofName "br")], .element (.ofName "") []]

private def splicedParagraph : Element (fun _ : Unit => Unit) where
  tag := ⟨"p", [.ofText "title" "a\"b", .ofName "hidden"]⟩
  children := [.text "1 <b>", .void (.ofName "br")]

theorem compact_unambiguous_paragraph :
    groupedParagraph.toNode.Legible false ∧ splicedParagraph.toNode.Legible false ∧
      groupedParagraph.toNode.normal = splicedParagraph.toNode.normal ∧
      groupedParagraph.render (.ofSettings .standard) =
        splicedParagraph.render (.ofSettings .standard) ∧
      ((Session.same groupedParagraph.toNode splicedParagraph.toNode).run none).1 = true := by
  have void : (Node.void (.ofName "br") : Node fun _ : Unit => Unit).Legible false :=
    .void ⟨by decide, by simp [Tag.ofName]⟩ fun _ _ => by decide
  have nameless : (Node.element (.ofName "") [] : Node fun _ : Unit => Unit).Legible false :=
    .element ⟨by decide, by simp [Tag.ofName]⟩ (fun _ => by decide) (by simp)
  have grouped : groupedParagraph.toNode.Legible false := by
    refine .element ⟨by decide, ?_⟩ (fun _ => by decide) ?_
    · simp only [groupedParagraph, List.forall_mem_cons]
      exact ⟨⟨by decide, nofun⟩, ⟨by decide, nofun⟩, ⟨by decide, nofun⟩, nofun⟩
    · simp only [groupedParagraph, List.forall_mem_cons]
      refine ⟨.text _, .fragment ?_, nameless, nofun⟩
      simp only [List.forall_mem_cons]
      exact ⟨.text _, void, nofun⟩
  have spliced : splicedParagraph.toNode.Legible false := by
    refine .element ⟨by decide, ?_⟩ (fun _ => by decide) ?_
    · simp only [splicedParagraph, List.forall_mem_cons]
      exact ⟨⟨by decide, nofun⟩, ⟨by decide, nofun⟩, nofun⟩
    · simp only [splicedParagraph, List.forall_mem_cons]
      exact ⟨.text _, void, nofun⟩
  have same : groupedParagraph.toNode.normal = splicedParagraph.toNode.normal := rfl
  exact ⟨grouped, spliced, same,
    (compact_unambiguous.1 (.ofSettings .standard) _ _ rfl grouped spliced).mpr same,
    (compact_unambiguous.2 none _ _ (.inl rfl) grouped spliced).mpr same⟩

end HtmlTree
