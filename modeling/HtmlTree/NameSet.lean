import HtmlTree.Text.AsciiCase

/-! Sets of element names. Names are kept in ASCII lower case, so that looking one up ignores the
case of its ASCII letters. -/

namespace HtmlTree

open Text

/-- A set of names without regard to ASCII case. -/
structure NameSet where
  names : List String
  distinct : names.Nodup
  lower : ∀ name ∈ names, asciiLower name = name

namespace NameSet

def empty : NameSet := ⟨[], List.nodup_nil, by simp⟩

def insert (set : NameSet) (name : String) : NameSet :=
  if absent : asciiLower name ∈ set.names then set
  else
    { names := asciiLower name :: set.names
      distinct := List.nodup_cons.mpr ⟨absent, set.distinct⟩
      lower := by simpa using set.lower }

def erase (set : NameSet) (name : String) : NameSet where
  names := set.names.filter (· != asciiLower name)
  distinct := set.distinct.filter _
  lower := fun other member => set.lower other (List.mem_filter.mp member).1

def ofList (names : List String) : NameSet :=
  names.foldl insert empty

/-- Whether the set holds the name in some case. A name without ASCII capitals is its own lower
case, so one look-up settles it. -/
def contains (set : NameSet) (name : String) : Bool :=
  set.names.contains name ||
    (hasAsciiUpper name && set.names.contains (asciiLower name))

def size (set : NameSet) : Nat := set.names.length

def isEmpty (set : NameSet) : Bool := set.names.isEmpty

/-- Equality as sets: the order of insertion does not count. -/
instance : BEq NameSet where
  beq first second :=
    first.names.all second.names.contains && second.names.all first.names.contains

theorem contains_iff (set : NameSet) (name : String) :
    set.contains name = true ↔ asciiLower name ∈ set.names := by
  unfold contains
  cases capitals : hasAsciiUpper name with
  | false => simp [asciiLower_eq_self capitals]
  | true =>
    simp only [Bool.true_and, Bool.or_eq_true, List.contains_eq_mem, decide_eq_true_eq]
    constructor
    · rintro (found | found)
      · exact (set.lower name found).symm ▸ found
      · exact found
    · exact Or.inr

end NameSet

end HtmlTree
