import HtmlTree.Proofs.Selector.Written
import HtmlTree.Tag

/-! Class names given as a list and class names written as a selector. Whatever blanks the names bring
along, both come to the same class attribute. -/

namespace HtmlTree

open Text Selector

variable {Kind : Type} {Value : Kind → Type}

/-- The spaces that reading puts around the names are trimmed off with the blanks that the names
themselves bring. -/
theorem Selector.ofReading_classes (names : List (List Char)) :
    ofReading ⟨[], ([] :: names).flatMap (· ++ [' '])⟩ =
      ⟨"", String.ofList (trimBlanks ([' '].intercalate names))⟩ := by
  obtain ⟨blanks, blank, spelled⟩ := flatMap_space_eq names
  have space : ∀ c ∈ [' '], isBlank c = true := List.forall_mem_singleton.mpr (by decide)
  have collected : ([] :: names).flatMap (· ++ [' ']) = [' '] ++ [' '].intercalate names ++ blanks := by
    rw [List.flatMap_cons, spelled, List.nil_append, List.append_assoc]
  rw [ofReading, collected, trimBlanks_around space blank]
  rfl

theorem Text.trim_ne_empty {text : String} (visible : ∃ c ∈ text.toList, isBlank c = false) :
    trim text ≠ "" := by
  intro empty
  have nothing : trimBlanks text.toList = [] := by
    rw [trim] at empty
    simpa using congrArg String.toList empty
  obtain ⟨c, member, notBlank⟩ := visible
  rw [trimBlanks_eq_nil_iff.mp nothing c member] at notBlank
  cases notBlank

theorem Text.subset_intercalate (separator : List Char) {pieces : List (List Char)}
    {piece : List Char} (member : piece ∈ pieces) : piece ⊆ separator.intercalate pieces := by
  cases pieces with
  | nil => cases member
  | cons first later =>
    intro c inside
    rw [intercalate_cons_eq]
    rcases List.mem_cons.mp member with rfl | late
    · exact List.mem_append_left _ inside
    · exact List.mem_append_right _
        (List.mem_flatMap.mpr ⟨piece, late, List.mem_append_right separator inside⟩)

theorem Text.trim_intercalate_ne_empty (separator : String) {pieces : List String}
    (visible : ∃ piece ∈ pieces, ∃ c ∈ piece.toList, isBlank c = false) :
    trim (separator.intercalate pieces) ≠ "" := by
  obtain ⟨piece, member, c, inside, notBlank⟩ := visible
  refine trim_ne_empty ⟨c, ?_, notBlank⟩
  rw [String.toList_intercalate]
  exact subset_intercalate _ (List.mem_map_of_mem member) inside

/-- What stands between dots is read as class names, however blank or untrimmed it is. -/
theorem Selector.parse_dots {names : List String} (some : names ≠ [])
    (plain : ∀ name ∈ names, Selector.IsPlain name.toList) :
    parse ("." ++ ".".intercalate names) = .ok ⟨"", trim (" ".intercalate names)⟩ := by
  have someLists : names.map String.toList ≠ [] := by simpa using some
  have spelled : ("." ++ ".".intercalate names).toList =
      ['.'].intercalate ([] :: names.map String.toList) := by
    obtain ⟨first, later, cons⟩ := List.exists_cons_of_ne_nil someLists
    rw [String.toList_append, String.toList_intercalate, cons, List.intercalate_cons_cons]
    rfl
  have read := parse_classes spelled someLists (forall_toList plain)
  rw [read, ofReading_classes, trim, String.toList_intercalate]
  rfl

theorem Tag.select_classes (tag : Tag Value) {classes : String} (some : classes ≠ "") :
    tag.select ⟨"", classes⟩ = tag.putText "class" classes := by
  simp only [Tag.select, Selector.id?, Selector.classes?, if_neg some, ↓reduceIte]

/-- Class names with a dot before each are read, and selecting what is read puts the same classes as
putting the names, if something can be seen of any name at all. -/
theorem Tag.select_dotted_eq_putClasses (names : List String)
    (plain : ∀ name ∈ names, Selector.IsPlain name.toList)
    (visible : ∃ name ∈ names, ∃ c ∈ name.toList, isBlank c = false) :
    ∃ selector, parse ("." ++ ".".intercalate names) = .ok selector ∧
      ∀ tag : Tag Value, tag.select selector = tag.putClasses names := by
  have some : names ≠ [] := by
    obtain ⟨name, member, -⟩ := visible
    exact List.ne_nil_of_mem member
  refine ⟨_, parse_dots some plain, fun tag => ?_⟩
  exact tag.select_classes (trim_intercalate_ne_empty " " visible)

theorem Tag.select_dotted_eq_putClasses_spread :
    parse ".. wide\t..dark . " = .ok ⟨"", "wide\t  dark"⟩ ∧
    ∃ selector, parse ("." ++ ".".intercalate ["", " wide\t", "", "dark ", " "]) = .ok selector ∧
      ∀ tag : Tag (fun _ : Unit => Unit),
        tag.select selector = tag.putClasses ["", " wide\t", "", "dark ", " "] := by
  have plain : ∀ name ∈ ["", " wide\t", "", "dark ", " "], Selector.IsPlain name.toList := by
    intro name member
    constructor <;> revert name member <;> decide
  refine ⟨by rfl, Tag.select_dotted_eq_putClasses _ plain ?_⟩
  exact ⟨"dark ", by decide, 'd', by decide, by decide⟩

end HtmlTree
