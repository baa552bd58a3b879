import HtmlTree.Tag

/-! Runs of changes to a tag. Every change comes down to setting attributes and to clearing names, and
of each name the last of these decides: what was set last is there, in the order in which it was set
last, and what was cleared last is not. -/

namespace HtmlTree

variable {Kind : Type} {Value : Kind → Type}

/-- What a change does to the attributes of one name. -/
inductive Effect {Kind : Type} (Value : Kind → Type) where
  | set (entry : Attribute Value)
  | clear (name : String)

namespace Effect

def name : Effect Value → String
  | .set entry => entry.name
  | .clear name => name

def apply : Effect Value → Tag Value → Tag Value
  | .set entry, tag => tag.put entry
  | .clear name, tag => tag.drop name

/-- Has effects first to last. -/
def applyAll (effects : List (Effect Value)) (tag : Tag Value) : Tag Value :=
  effects.foldl (fun tag effect => effect.apply tag) tag

end Effect

/-- The attributes that are written. -/
def Tag.named (tag : Tag Value) : List (Attribute Value) :=
  tag.attributes.filter (·.isNamed)

namespace Effect

end Effect

end HtmlTree
