import HtmlTree.Catalog
import HtmlTree.Proofs.Node.Normal
import HtmlTree.Proofs.Text.Reference

/-! Trees that can be read back from their compact form. The tokens of such a tree are a prefix code:
text holds no angle bracket, a value ends at its quotation mark, a name at the first character that
no name holds, and void tags are told from opening tags by their slash or by their name. -/

namespace HtmlTree

open Text

variable {Kind : Type} {Value : Kind → Type} {context : Context Value}

namespace Text

/-- Whether a character can stand in a name without ending it. -/
def isNameChar (c : Char) : Bool :=
  !(isBlank c || ['<', '>', '/', '=', '\x22', '\x27'].contains c)

def IsName (name : String) : Prop := ∀ c ∈ name.toList, isNameChar c = true

instance (name : String) : Decidable (IsName name) :=
  decidable_of_iff (name.toList.all isNameChar = true) List.all_eq_true

end Text

/-- An attribute whose name is a name, with text or nothing as its value. -/
structure Attribute.IsPlain (entry : Attribute Value) : Prop where
  name : IsName entry.name
  value : ∀ value, entry.value ≠ .computed value

structure Tag.IsPlain (tag : Tag Value) : Prop where
  name : IsName tag.name
  attributes : ∀ entry ∈ tag.attributes, entry.IsPlain

/-- Trees of texts, tags and groups that can be read back. If void tags end without a slash, then the
void tags must be those whose names are the names of void elements. -/
inductive Node.Legible (slashed : Bool) : Node Value → Prop where
  | text (plain : String) : Legible slashed (.text plain)
  | void {tag : Tag Value} (plain : tag.IsPlain)
      (shape : slashed = false → tag.isNamed = true → Catalog.isVoid tag.name = true) :
      Legible slashed (.void tag)
  | element {tag : Tag Value} {children : List (Node Value)} (plain : tag.IsPlain)
      (shape : slashed = false → Catalog.isVoid tag.name = false)
      (inside : ∀ child ∈ children, Legible slashed child) :
      Legible slashed (.element tag children)
  | fragment {children : List (Node Value)} (inside : ∀ child ∈ children, Legible slashed child) :
      Legible slashed (.fragment children)

/-- There is no custom content that could break its contract. -/
theorem Node.Legible.onlyAppends {slashed : Bool} {node : Node Value}
    (legible : node.Legible slashed) : node.OnlyAppends := by
  induction legible with
  | text | void => trivial
  | element _ _ _ ih | fragment _ ih => exact onlyAppendsAll_iff.mpr ih

/-- An attribute that can be read back and is written at all. -/
structure Attribute.IsWritten (entry : Attribute Value) : Prop extends entry.IsPlain where
  named : entry.isNamed = true

structure Tag.IsWritten (tag : Tag Value) : Prop where
  named : tag.isNamed = true
  name : IsName tag.name
  attributes : ∀ entry ∈ tag.attributes, entry.IsWritten

theorem Tag.IsPlain.written {tag : Tag Value} (plain : tag.IsPlain) (named : tag.isNamed = true) :
    tag.normal.IsWritten where
  named := named
  name := plain.name
  attributes entry member := by
    obtain ⟨kept, isNamed⟩ := List.mem_filter.mp member
    exact { plain.attributes entry kept with named := isNamed }

namespace AttributeValue

/-- A value as it stands behind the name of its attribute. -/
def spell (context : Context Value) : AttributeValue Value → List Char
  | .absent => []
  | .text plain => '=' :: '\x22' :: ((context.settings.escape plain).toList ++ ['\x22'])
  | .computed value => '=' :: '\x22' :: ((value context).toList ++ ['\x22'])

/-- The name of an attribute ends where its value, the next attribute or the end of the tag begins. -/
theorem head_spell_append {value : AttributeValue Value} {rest : List Char}
    (stop : ∀ c ∈ rest.head?, c = ' ' ∨ c = '>' ∨ c = '/') :
    ∀ c ∈ (value.spell context ++ rest).head?, ¬ isNameChar c = true := by
  intro c found
  have kind : c = '=' ∨ c = ' ' ∨ c = '>' ∨ c = '/' := by
    cases value with
    | absent => exact .inr (stop c found)
    | text plain => exact .inl (by simpa [spell, eq_comm] using found)
    | computed value => exact .inl (by simpa [spell, eq_comm] using found)
  rcases kind with rfl | rfl | rfl | rfl <;> decide

/-- A text value ends at the first quotation mark, since escaping leaves none in it. -/
theorem spell_unique (standard : context.settings.escape = escape)
    {first second : AttributeValue Value} {rest others : List Char}
    (plain : ∀ value, first ≠ .computed value) (plain' : ∀ value, second ≠ .computed value)
    (stop : ∀ c ∈ rest.head?, c ≠ '=') (stop' : ∀ c ∈ others.head?, c ≠ '=')
    (same : first.spell context ++ rest = second.spell context ++ others) :
    first = second ∧ rest = others := by
  cases first with
  | computed value => exact absurd rfl (plain value)
  | absent =>
    cases second with
    | computed value => exact absurd rfl (plain' value)
    | absent => exact ⟨rfl, same⟩
    | text other => simp [show rest = _ from same, spell] at stop
  | text inner =>
    cases second with
    | computed value => exact absurd rfl (plain' value)
    | absent => simp [show others = _ from same.symm, spell] at stop'
    | text other =>
      simp only [spell, standard, List.cons_append, List.append_assoc, List.cons.injEq,
        true_and, List.nil_append] at same
      obtain ⟨written, tails⟩ := word_unique (fun c => c ≠ '\x22')
        (fun c member => (not_special_of_mem_escape member).2.2.1)
        (fun c member => (not_special_of_mem_escape member).2.2.1) (by simp) (by simp) same
      rw [escape_injective (String.toList_inj.mp written)]
      exact ⟨rfl, (List.cons.inj tails).2⟩

end AttributeValue

namespace Attribute

theorem toList_render (entry : Attribute Value) :
    (entry.render context).toList =
      if entry.isNamed then ' ' :: (entry.name.toList ++ entry.value.spell context) else [] := by
  unfold render write
  split
  · cases entry.value <;> simp [AttributeValue.spell]
  · rfl

def spell (context : Context Value) (entry : Attribute Value) : List Char :=
  (entry.render context).toList

/-- Behind an attribute stands another one or the end of the tag. -/
theorem head_flatMap_spell (context : Context Value) {attributes : List (Attribute Value)}
    {rest : List Char} (written : ∀ entry ∈ attributes, entry.IsWritten)
    (stop : ∀ c ∈ rest.head?, c = '>' ∨ c = '/') :
    ∀ c ∈ (attributes.flatMap (spell context) ++ rest).head?, c = ' ' ∨ c = '>' ∨ c = '/' := by
  cases attributes with
  | nil => exact fun c found => .inr (stop c found)
  | cons entry others => simp [spell, toList_render, (written entry (by simp)).named]

/-- A list of attributes ends where its tag does. -/
theorem flatMap_spell_unique (standard : context.settings.escape = escape)
    {first second : List (Attribute Value)} {rest others : List Char}
    (written : ∀ entry ∈ first, entry.IsWritten) (written' : ∀ entry ∈ second, entry.IsWritten)
    (stop : ∀ c ∈ rest.head?, c = '>' ∨ c = '/') (stop' : ∀ c ∈ others.head?, c = '>' ∨ c = '/')
    (same : first.flatMap (spell context) ++ rest = second.flatMap (spell context) ++ others) :
    first = second ∧ rest = others := by
  induction first generalizing second with
  | nil =>
    cases second with
    | nil => exact ⟨rfl, same⟩
    | cons entry entries =>
      simp [show rest = _ from same, spell, toList_render,
        (written' entry (by simp)).named] at stop
  | cons entry entries ih =>
    cases second with
    | nil =>
      simp [show others = _ from same.symm, spell, toList_render,
        (written entry (by simp)).named] at stop'
    | cons other remaining =>
      have head := written entry (by simp)
      have head' := written' other (by simp)
      have tail : ∀ item ∈ entries, item.IsWritten :=
        fun item member => written item (by simp [member])
      have tail' : ∀ item ∈ remaining, item.IsWritten :=
        fun item member => written' item (by simp [member])
      have behind := head_flatMap_spell context tail stop
      have behind' := head_flatMap_spell context tail' stop'
      have noValue {list : List Char} (heads : ∀ c ∈ list.head?, c = ' ' ∨ c = '>' ∨ c = '/') :
          ∀ c ∈ list.head?, c ≠ '=' := by
        intro c found
        rcases heads c found with rfl | rfl | rfl <;> decide
      simp only [List.flatMap_cons, spell, toList_render, head.named, head'.named, ↓reduceIte,
        List.cons_append, List.append_assoc, List.cons.injEq, true_and] at same
      obtain ⟨names, values⟩ := word_unique _ head.name head'.name
        (AttributeValue.head_spell_append behind) (AttributeValue.head_spell_append behind') same
      obtain ⟨sameValue, left⟩ := AttributeValue.spell_unique standard head.value head'.value
        (noValue behind) (noValue behind') values
      obtain ⟨rfl, ended⟩ := ih tail tail' left
      have sameEntry : entry = other := by
        cases entry
        cases other
        simp_all [String.toList_inj]
      exact ⟨by rw [sameEntry], ended⟩

end Attribute

namespace Tag

/-- What an opening tag ends in. -/
def ending (slash : Bool) : List Char := if slash then ['/', '>'] else ['>']

theorem toList_opening {tag : Tag Value} (named : tag.isNamed = true) (slash : Bool) :
    (tag.opening context slash).toList =
      '<' :: (tag.name.toList ++
        (tag.attributes.flatMap (Attribute.spell context) ++ ending slash)) := by
  have fold (attributes : List (Attribute Value)) (written : String) :
      (attributes.foldl (Attribute.write context) written).toList =
        written.toList ++ attributes.flatMap (Attribute.spell context) := by
    induction attributes generalizing written with
    | nil => simp
    | cons entry rest ih =>
      rw [List.foldl_cons, ih, Attribute.write_eq, String.toList_append, List.append_assoc,
        List.flatMap_cons]
      rfl
  cases slash <;> simp [opening, writeOpening, named, fold, ending]

theorem opening_normal (tag : Tag Value) (slash : Bool) :
    tag.normal.opening context slash = tag.opening context slash := by
  by_cases named : tag.isNamed = true
  · have kept : tag.normal.attributes.flatMap (Attribute.spell context) =
        tag.attributes.flatMap (Attribute.spell context) := by
      simp only [normal]
      induction tag.attributes with
      | nil => rfl
      | cons entry rest ih =>
        by_cases isNamed : entry.isNamed = true
        · simp [isNamed, ih]
        · simp [isNamed, ih, Attribute.spell, Attribute.toList_render]
    apply String.toList_inj.mp
    rw [toList_opening (by simpa using named), toList_opening named, kept, name_normal]
  · simp [opening, writeOpening, named]

/-- An opening tag can be read back, slash included. -/
theorem opening_unique (standard : context.settings.escape = escape) {first second : Tag Value}
    (written : first.IsWritten) (written' : second.IsWritten) {slash slash' : Bool}
    {rest others : List Char}
    (same : (first.opening context slash).toList ++ rest =
      (second.opening context slash').toList ++ others) :
    first = second ∧ slash = slash' ∧ rest = others := by
  have ends (slash : Bool) (rest : List Char) :
      ∀ c ∈ (ending slash ++ rest).head?, c = '>' ∨ c = '/' := by
    cases slash <;> simp [ending]
  have nameEnds {tag : Tag Value} (written : tag.IsWritten) (slash : Bool) (rest : List Char) :
      ∀ c ∈ (tag.attributes.flatMap (Attribute.spell context) ++ (ending slash ++ rest)).head?,
        ¬ isNameChar c = true := by
    intro c found
    rcases Attribute.head_flatMap_spell context written.attributes (ends slash rest) c found with
      rfl | rfl | rfl <;> decide
  rw [toList_opening written.named, toList_opening written'.named] at same
  simp only [List.cons_append, List.append_assoc, List.cons.injEq, true_and] at same
  obtain ⟨names, attributes⟩ := word_unique _ written.name written'.name
    (nameEnds written slash rest) (nameEnds written' slash' others) same
  obtain ⟨sameAttributes, ended⟩ := Attribute.flatMap_spell_unique standard written.attributes
    written'.attributes (ends slash rest) (ends slash' others) attributes
  have sameTag : first = second := by
    cases first
    cases second
    simp_all [String.toList_inj]
  refine ⟨sameTag, ?_⟩
  cases slash <;> cases slash' <;> simp_all [ending]

end Tag

end HtmlTree
