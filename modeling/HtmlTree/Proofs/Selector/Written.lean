import HtmlTree.Proofs.Selector.Segments
import HtmlTree.Proofs.Text.Spelling
import Mathlib.Data.List.Basic

/-! Selectors written out and read back. The id may stand at any place among the class names: what is
read is the id and the class names in order. -/

namespace HtmlTree.Selector

open Text

/-- A name that can stand between the dots of a selector. -/
structure IsName (name : String) : Prop where
  nonempty : name ≠ ""
  dotless : '.' ∉ name.toList
  unsigned : '#' ∉ name.toList
  trimmed : IsTrimmed name.toList

theorem isName_iff {name : String} :
    IsName name ↔
      name ≠ "" ∧ '.' ∉ name.toList ∧ '#' ∉ name.toList ∧ IsTrimmed name.toList :=
  ⟨fun isName => ⟨isName.nonempty, isName.dotless, isName.unsigned, isName.trimmed⟩,
    fun ⟨nonempty, dotless, unsigned, trimmed⟩ => ⟨nonempty, dotless, unsigned, trimmed⟩⟩

instance (name : String) : Decidable (IsName name) :=
  decidable_of_iff _ isName_iff.symm

/-- An id and class names that a selector can say. -/
structure Naming where
  id? : Option String
  classes : List String
  areNames : ∀ name ∈ id?.toList ++ classes, IsName name
  named : id? ≠ none ∨ classes ≠ []

/-- Each name behind a dot. -/
def dotted (names : List String) : String :=
  String.join (names.map ("." ++ ·))

/-- The selector with the id behind the first so many class names. -/
def Naming.write (naming : Naming) (place : Nat) : String :=
  match naming.id? with
  | none => dotted naming.classes
  | some id =>
    let before := naming.classes.take place
    dotted before ++ (if before = [] then "#" else ".#") ++ id ++
      dotted (naming.classes.drop place)

variable {id : String} {names before after : List String}

theorem IsName.toList_ne_nil {name : String} (isName : IsName name) : name.toList ≠ [] :=
  fun empty => isName.nonempty (String.toList_eq_nil_iff.mp empty)

theorem IsName.isPlain {name : String} (isName : IsName name) : IsPlain name.toList :=
  ⟨isName.dotless, isName.unsigned⟩

theorem forall_toList {p : List Char → Prop} (all : ∀ name ∈ names, p name.toList) :
    ∀ chars ∈ names.map String.toList, p chars := by
  intro chars member
  obtain ⟨name, found, rfl⟩ := List.mem_map.mp member
  exact all name found

theorem toList_dotted (names : List String) :
    (dotted names).toList = (names.map String.toList).flatMap (['.'] ++ ·) := by
  rw [dotted, String.toList_join, List.flatMap_map, List.flatMap_map]
  simp only [String.toList_append]
  rfl

/-- An id and names that have been collected behind empty segments. -/
theorem ofReading_spaced (leading : List (List Char)) (id : String)
    (empty : ∀ segment ∈ leading, segment = []) (trimmed : IsTrimmed id.toList)
    (areNames : ∀ name ∈ names, IsName name) :
    ofReading ⟨id.toList, (leading ++ names.map String.toList).flatMap (· ++ [' '])⟩ =
      ⟨id, " ".intercalate names⟩ := by
  have spaced : trimBlanks ((leading ++ names.map String.toList).flatMap (· ++ [' '])) =
      (" ".intercalate names).toList := by
    rw [String.toList_intercalate]
    refine trimBlanks_flatMap_space empty (forall_toList fun name member => ?_)
    exact ⟨(areNames name member).toList_ne_nil, (areNames name member).trimmed⟩
  rw [ofReading, spaced, trimmed.trimBlanks_eq, String.ofList_toList, String.ofList_toList]

theorem parse_dotted (some : names ≠ []) (areNames : ∀ name ∈ names, IsName name) :
    parse (dotted names) = .ok ⟨"", " ".intercalate names⟩ := by
  have spelled : (dotted names).toList = ['.'].intercalate ([] :: names.map String.toList) := by
    rw [intercalate_cons_eq, toList_dotted, List.nil_append]
  have read := parse_classes spelled (by simpa using some)
    (forall_toList fun name member => (areNames name member).isPlain)
  rw [read]
  exact congrArg Except.ok (ofReading_spaced [[]] "" (by simp) isTrimmed_nil areNames)

theorem parse_sign_dotted (isName : IsName id) (areNames : ∀ name ∈ names, IsName name) :
    parse ("#" ++ id ++ dotted names) = .ok ⟨id, " ".intercalate names⟩ := by
  have spelled : ("#" ++ id ++ dotted names).toList =
      ['.'].intercalate ([] ++ ('#' :: id.toList) :: names.map String.toList) := by
    rw [List.nil_append, intercalate_cons_eq, String.toList_append, String.toList_append, toList_dotted]
    rfl
  have read := parse_id spelled isName.isPlain nofun
    (forall_toList fun name member => (areNames name member).isPlain)
  rw [read]
  exact congrArg Except.ok (ofReading_spaced [] id nofun isName.trimmed areNames)

theorem parse_dotted_sign_dotted (isName : IsName id) (namesBefore : ∀ name ∈ before, IsName name)
    (namesAfter : ∀ name ∈ after, IsName name) :
    parse (dotted before ++ ".#" ++ id ++ dotted after) =
      .ok ⟨id, " ".intercalate (before ++ after)⟩ := by
  have spelled : (dotted before ++ ".#" ++ id ++ dotted after).toList =
      ['.'].intercalate
        (([] :: before.map String.toList) ++ ('#' :: id.toList) :: after.map String.toList) := by
    rw [List.cons_append, intercalate_cons_eq, String.toList_append, String.toList_append,
      String.toList_append, toList_dotted, toList_dotted]
    simp
  have plainBefore : ∀ piece ∈ [] :: before.map String.toList, IsPlain piece :=
    List.forall_mem_cons.mpr
      ⟨isPlain_nil, forall_toList fun name member => (namesBefore name member).isPlain⟩
  have areNames : ∀ name ∈ before ++ after, IsName name := fun name member =>
    (List.mem_append.mp member).elim (namesBefore name) (namesAfter name)
  have read := parse_id spelled isName.isPlain plainBefore
    (forall_toList fun name member => (namesAfter name member).isPlain)
  have collected := ofReading_spaced [[]] id (by simp) isName.trimmed areNames
  rw [read, ← collected, List.map_append]
  rfl

namespace Naming

/-- What a naming says. -/
def selector (naming : Naming) : Selector :=
  ⟨naming.id?.getD "", " ".intercalate naming.classes⟩

theorem isName_of_id? (naming : Naming) (given : naming.id? = some id) : IsName id :=
  naming.areNames id (by simp [given])

theorem isName_of_mem (naming : Naming) : ∀ name ∈ naming.classes, IsName name :=
  fun name member => naming.areNames name (List.mem_append_right _ member)

theorem parse_write (naming : Naming) (place : Nat) :
    parse (naming.write place) = .ok naming.selector := by
  have cut := List.take_append_drop place naming.classes
  have areNames := naming.isName_of_mem
  unfold write selector
  cases given : naming.id? with
  | none => exact parse_dotted (naming.named.resolve_left (absurd given)) areNames
  | some id =>
    have isName := naming.isName_of_id? given
    have namesBefore : ∀ name ∈ naming.classes.take place, IsName name :=
      fun name member => areNames name (List.mem_of_mem_take member)
    have namesAfter : ∀ name ∈ naming.classes.drop place, IsName name :=
      fun name member => areNames name (List.mem_of_mem_drop member)
    dsimp only
    -- With no class name in front, the id opens the selector and has no dot before it.
    split
    · rename_i first
      rw [first, List.nil_append] at cut
      rw [first, cut]
      exact parse_sign_dotted isName areNames
    · have read := parse_dotted_sign_dotted isName namesBefore namesAfter
      rwa [cut] at read

theorem id?_selector (naming : Naming) : naming.selector.id? = naming.id? := by
  unfold selector Selector.id?
  cases given : naming.id? with
  | none => rfl
  | some id => exact if_neg (naming.isName_of_id? given).nonempty

theorem classes?_selector (naming : Naming) :
    naming.selector.classes? =
      if naming.classes = [] then none else some (" ".intercalate naming.classes) := by
  have areNames := naming.isName_of_mem
  unfold selector Selector.classes?
  cases classes : naming.classes with
  | nil => rfl
  | cons first later =>
    rw [classes] at areNames
    have someFirst := (areNames first (by simp)).toList_ne_nil
    have written : " ".intercalate (first :: later) ≠ "" := by
      rw [ne_eq, ← String.toList_eq_nil_iff, String.toList_intercalate]
      exact intercalate_ne_nil _ someFirst _
    rw [if_neg written, if_neg (List.cons_ne_nil first later)]

end Naming

/-- Names without blanks can be told apart when only spaces stand between them. -/
theorem intercalate_space_injective {first second : List String}
    (solid : ∀ name ∈ first ++ second, ∀ c ∈ name.toList, isBlank c = false)
    (someFirst : first ≠ []) (someSecond : second ≠ [])
    (same : " ".intercalate first = " ".intercalate second) : first = second := by
  have spaceless : ∀ name ∈ first ++ second, ' ' ∉ name.toList := by
    intro name member space
    cases solid name member ' ' space
  have split (names : List String) (some : names ≠ [])
      (within : ∀ name ∈ names, name ∈ first ++ second) :
      (" ".intercalate names).toList.splitOn ' ' = names.map String.toList := by
    rw [String.toList_intercalate]
    apply List.splitOn_intercalate ' '
    · exact forall_toList fun name member => spaceless name (within name member)
    · simpa using some
  have chars := split first someFirst fun name member => by simp [member]
  rw [same, split second someSecond fun name member => by simp [member]] at chars
  exact (List.map_injective_iff.mpr (fun _ _ => String.toList_injective) chars).symm

theorem Naming.eq_of_selector_eq (naming other : Naming)
    (solid : ∀ name ∈ naming.classes ++ other.classes, ∀ c ∈ name.toList, isBlank c = false)
    (same : naming.selector = other.selector) :
    naming.id? = other.id? ∧ naming.classes = other.classes := by
  have ids := congrArg Selector.id? same
  have classes := congrArg Selector.classes? same
  rw [id?_selector, id?_selector] at ids
  rw [classes?_selector, classes?_selector] at classes
  refine ⟨ids, ?_⟩
  split at classes
  · rename_i none
    split at classes
    · rename_i noneOther
      exact none.trans noneOther.symm
    · cases classes
  · rename_i some
    split at classes
    · cases classes
    · rename_i someOther
      exact intercalate_space_injective solid some someOther (Option.some.inj classes)

/-- A selector that is written for an id and class names is read as that id and these names in their
order, at whichever place the id stands. From names without blanks, different ids or class names give
different selectors. -/
theorem Naming.read_back_at_every_place (naming : Naming) :
    (∃ selector, (∀ place, parse (naming.write place) = .ok selector) ∧
      selector.id? = naming.id? ∧
      selector.classes? =
        if naming.classes = [] then none else some (" ".intercalate naming.classes)) ∧
    ∀ (other : Naming) (place otherPlace : Nat),
      (∀ name ∈ naming.classes ++ other.classes, ∀ c ∈ name.toList, isBlank c = false) →
      (naming.id?, naming.classes) ≠ (other.id?, other.classes) →
      parse (naming.write place) ≠ parse (other.write otherPlace) := by
  refine ⟨⟨naming.selector, naming.parse_write, naming.id?_selector, naming.classes?_selector⟩, ?_⟩
  intro other place otherPlace solid different same
  rw [parse_write, parse_write] at same
  obtain ⟨ids, classes⟩ := naming.eq_of_selector_eq other solid (Except.ok.inj same)
  exact different (by rw [ids, classes])

/-- An id for two classes. -/
private def boxed : Naming where
  id? := some "main"
  classes := ["wide", "dark"]
  areNames := by decide
  named := .inl nofun

/-- The same names, all of them classes. -/
private def unboxed : Naming where
  id? := none
  classes := ["main", "wide", "dark"]
  areNames := by decide
  named := .inr nofun

theorem Naming.read_back_at_every_place_boxed :
    (∃ selector, parse "#main.wide.dark" = .ok selector ∧
      parse ".wide.#main.dark" = .ok selector ∧ parse ".wide.dark.#main" = .ok selector ∧
      selector.id? = some "main" ∧ selector.classes? = some "wide dark") ∧
    (∀ name ∈ boxed.classes ++ unboxed.classes, ∀ c ∈ name.toList, isBlank c = false) ∧
    (boxed.id?, boxed.classes) ≠ (unboxed.id?, unboxed.classes) ∧
    parse ".wide.#main.dark" ≠ parse ".main.wide.dark" := by
  have front : boxed.write 0 = "#main.wide.dark" := by decide
  have middle : boxed.write 1 = ".wide.#main.dark" := by decide
  have back : boxed.write 2 = ".wide.dark.#main" := by decide
  have plain : unboxed.write 0 = ".main.wide.dark" := by decide
  have solid : ∀ name ∈ boxed.classes ++ unboxed.classes, ∀ c ∈ name.toList, isBlank c = false := by
    have all : (boxed.classes ++ unboxed.classes).all (·.toList.all (!isBlank ·)) = true := by decide
    simpa only [List.all_eq_true, Bool.not_eq_true'] using all
  have different : (boxed.id?, boxed.classes) ≠ (unboxed.id?, unboxed.classes) := by decide
  obtain ⟨⟨selector, read, id, classes⟩, apart⟩ := boxed.read_back_at_every_place
  refine ⟨⟨selector, front ▸ read 0, middle ▸ read 1, back ▸ read 2, id, ?_⟩, solid, different, ?_⟩
  · rw [classes]
    rfl
  · exact middle ▸ plain ▸ apart unboxed 1 0 solid different

end HtmlTree.Selector
