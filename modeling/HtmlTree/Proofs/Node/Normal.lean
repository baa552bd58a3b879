import HtmlTree.Node.Basic

/-! The normal form of a tree: groups are spliced into their parent, what is never written is left
out, and neighbouring texts are one. A tree in normal form is determined by its tokens, which are
the tags and the characters of text that it consists of, first to last. -/

namespace HtmlTree

variable {Kind : Type} {Value : Kind → Type}

/-- The tag without the attributes that have no name. -/
def Tag.normal (tag : Tag Value) : Tag Value :=
  { tag with attributes := tag.attributes.filter Attribute.isNamed }

@[simp] theorem Tag.name_normal (tag : Tag Value) : tag.normal.name = tag.name := rfl

@[simp] theorem Tag.isNamed_normal (tag : Tag Value) : tag.normal.isNamed = tag.isNamed := rfl

@[simp] theorem Tag.normal_normal (tag : Tag Value) : tag.normal.normal = tag.normal := by
  simp [Tag.normal]

/-- One piece of a tree that is written without a gap. -/
inductive Token {Kind : Type} (Value : Kind → Type) where
  | character (c : Char)
  | void (tag : Tag Value)
  | opening (tag : Tag Value)
  | closing (name : String)
  /-- A node whose content is not looked into. -/
  | leaf (node : Node Value)

namespace Node

/-- Puts text in front of siblings, as a part of the text that they begin with if there is one. Empty
text adds nothing. -/
def prependText (plain : String) : List (Node Value) → List (Node Value)
  | .text next :: rest => .text (plain ++ next) :: rest
  | siblings => if plain = "" then siblings else .text plain :: siblings

mutual

/-- Puts the normal form of a node in front of siblings that are in normal form. -/
def normalOnto (siblings : List (Node Value)) : Node Value → List (Node Value)
  | .text plain => prependText plain siblings
  | .markup source => .markup source :: siblings
  | .void tag => if tag.isNamed then .void tag.normal :: siblings else siblings
  | .element tag children =>
    if tag.isNamed then .element tag.normal (normalAllOnto [] children) :: siblings
    else normalAllOnto siblings children
  | .fragment children => normalAllOnto siblings children
  | .computed renderer => .computed renderer :: siblings

def normalAllOnto (siblings : List (Node Value)) : List (Node Value) → List (Node Value)
  | [] => siblings
  | node :: rest => normalOnto (normalAllOnto siblings rest) node

end

/-- The normal form of a tree, which is a list of siblings. -/
def normal (node : Node Value) : List (Node Value) :=
  node.normalOnto []

def normalAll (nodes : List (Node Value)) : List (Node Value) :=
  normalAllOnto [] nodes

mutual

/-- The tokens of a tree, first to last. -/
def tokens : Node Value → List (Token Value)
  | .text plain => plain.toList.map .character
  | .markup source => [.leaf (.markup source)]
  | .void tag => if tag.isNamed then [.void tag.normal] else []
  | .element tag children =>
    if tag.isNamed then .opening tag.normal :: tokensAll children ++ [.closing tag.name]
    else tokensAll children
  | .fragment children => tokensAll children
  | .computed renderer => [.leaf (.computed renderer)]

def tokensAll : List (Node Value) → List (Token Value)
  | [] => []
  | node :: rest => tokens node ++ tokensAll rest

end

theorem prependText_empty (siblings : List (Node Value)) : prependText "" siblings = siblings := by
  unfold prependText
  split <;> simp

theorem prependText_append (first second : String) (siblings : List (Node Value)) :
    prependText (first ++ second) siblings = prependText first (prependText second siblings) := by
  cases siblings with
  | nil => by_cases empty : second = "" <;> simp [prependText, empty]
  | cons node rest =>
    cases node
    case text next => simp [prependText, String.append_assoc]
    all_goals by_cases empty : second = "" <;> simp [prependText, empty]

end Node

/-- Takes in one token, the last one first. Siblings wait for the opening tag that encloses them, the
innermost ones in front. -/
def Token.enclose : Token Value → List (List (Node Value)) → List (List (Node Value))
  | .character c, siblings :: outer => Node.prependText c.toString siblings :: outer
  | .void tag, siblings :: outer => (.void tag :: siblings) :: outer
  | .opening tag, children :: siblings :: outer => (.element tag children :: siblings) :: outer
  | .closing _, waiting => [] :: waiting
  | .leaf node, siblings :: outer => (node :: siblings) :: outer
  | _, waiting => waiting

namespace Node

theorem enclose_characters (characters : List Char) (siblings : List (Node Value))
    (outer : List (List (Node Value))) :
    (characters.map Token.character).foldr Token.enclose (siblings :: outer) =
      prependText (String.ofList characters) siblings :: outer := by
  induction characters with
  | nil => simp [prependText_empty]
  | cons c rest ih =>
    rw [List.map_cons, List.foldr_cons, ih, String.ofList_cons, prependText_append]
    rfl

mutual

/-- The tokens of a tree, taken in from the last to the first, leave its normal form. -/
theorem enclose_tokens (siblings : List (Node Value)) (outer : List (List (Node Value))) :
    (node : Node Value) →
      node.tokens.foldr Token.enclose (siblings :: outer) = node.normalOnto siblings :: outer
  | .text plain => by
    rw [tokens, enclose_characters, String.ofList_toList, normalOnto]
  | .markup source => by simp [tokens, normalOnto, Token.enclose]
  | .void tag => by
    by_cases named : tag.isNamed <;> simp [tokens, normalOnto, Token.enclose, named]
  | .element tag children => by
    by_cases named : tag.isNamed
    · simp only [tokens, normalOnto, named, ↓reduceIte, List.cons_append, List.foldr_cons,
        List.foldr_append, List.foldr_nil, Token.enclose]
      rw [enclose_tokensAll]
    · simpa only [tokens, normalOnto, named, Bool.false_eq_true, ↓reduceIte] using
        enclose_tokensAll siblings outer children
  | .fragment children => by
    simpa only [tokens, normalOnto] using enclose_tokensAll siblings outer children
  | .computed renderer => by simp [tokens, normalOnto, Token.enclose]

theorem enclose_tokensAll (siblings : List (Node Value)) (outer : List (List (Node Value))) :
    (nodes : List (Node Value)) →
      (tokensAll nodes).foldr Token.enclose (siblings :: outer) =
        normalAllOnto siblings nodes :: outer
  | [] => rfl
  | node :: rest => by
    rw [tokensAll, List.foldr_append, enclose_tokensAll, enclose_tokens, normalAllOnto]

end

theorem tokensAll_prependText (plain : String) (siblings : List (Node Value)) :
    tokensAll (prependText plain siblings) = plain.toList.map .character ++ tokensAll siblings := by
  unfold prependText
  split
  · simp [tokensAll, tokens]
  · split
    · rename_i empty
      simp [empty]
    · simp [tokensAll, tokens]

mutual

/-- Taking the normal form changes no token. -/
theorem tokens_normalOnto (siblings : List (Node Value)) :
    (node : Node Value) → tokensAll (node.normalOnto siblings) = node.tokens ++ tokensAll siblings
  | .text plain => by rw [normalOnto, tokensAll_prependText, tokens]
  | .markup source => rfl
  | .void tag => by
    by_cases named : tag.isNamed <;> simp [tokens, tokensAll, normalOnto, named]
  | .element tag children => by
    by_cases named : tag.isNamed
    · have inside := tokens_normalAllOnto [] children
      simp only [tokensAll, List.append_nil] at inside
      simp [tokens, tokensAll, normalOnto, named, inside]
    · simpa only [tokens, normalOnto, named, Bool.false_eq_true, ↓reduceIte] using
        tokens_normalAllOnto siblings children
  | .fragment children => by
    simpa only [tokens, normalOnto] using tokens_normalAllOnto siblings children
  | .computed renderer => rfl

theorem tokens_normalAllOnto (siblings : List (Node Value)) :
    (nodes : List (Node Value)) →
      tokensAll (normalAllOnto siblings nodes) = tokensAll nodes ++ tokensAll siblings
  | [] => rfl
  | node :: rest => by
    rw [normalAllOnto, tokens_normalOnto, tokens_normalAllOnto, tokensAll, List.append_assoc]

end

/-- Two trees have the same normal form exactly when they consist of the same tokens. -/
theorem normal_eq_iff_tokens_eq {first second : Node Value} :
    first.normal = second.normal ↔ first.tokens = second.tokens := by
  constructor
  · intro same
    have kept := congrArg tokensAll same
    simpa [normal, tokens_normalOnto, tokensAll] using kept
  · intro same
    have read := enclose_tokens [] [] first
    rw [same, enclose_tokens] at read
    exact (List.cons.inj read).1.symm

/-- A tree in normal form is its own normal form. -/
theorem normalAll_normal (node : Node Value) : normalAll node.normal = node.normal := by
  have same : (Node.fragment node.normal).tokens = node.tokens := by
    rw [tokens, normal, tokens_normalOnto, tokensAll, List.append_nil]
  exact normal_eq_iff_tokens_eq.mpr same

end Node

end HtmlTree
