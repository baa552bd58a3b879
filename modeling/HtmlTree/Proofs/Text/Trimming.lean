import HtmlTree.Text.Blank

/-! Trimmed text. Trimming takes the blanks off both ends and nothing else, and what is put together of
trimmed pieces is trimmed. -/

namespace HtmlTree.Text

/-- Text without a blank at either end. -/
structure IsTrimmed (characters : List Char) : Prop where
  head : ∀ c ∈ characters.head?, isBlank c = false
  last : ∀ c ∈ characters.getLast?, isBlank c = false

theorem isTrimmed_nil : IsTrimmed [] where
  head := nofun
  last := nofun

/-- Blanks are dropped up to the first character that is none. -/
theorem dropWhile_isBlank_append {blanks rest : List Char} (blank : ∀ c ∈ blanks, isBlank c = true)
    (stop : ∀ c ∈ rest.head?, isBlank c = false) : (blanks ++ rest).dropWhile isBlank = rest := by
  rw [List.dropWhile_append_of_pos blank]
  cases rest with
  | nil => rfl
  | cons c rest => exact List.dropWhile_cons_of_neg (by simp [stop c rfl])

theorem trimBlanks_surrounded {before middle after : List Char}
    (blankBefore : ∀ c ∈ before, isBlank c = true) (trimmed : IsTrimmed middle)
    (blankAfter : ∀ c ∈ after, isBlank c = true) :
    trimBlanks (before ++ middle ++ after) = middle := by
  cases middle with
  | nil =>
    have blank : ∀ c ∈ before ++ after, isBlank c = true := fun c member =>
      (List.mem_append.mp member).elim (blankBefore c) (blankAfter c)
    have dropped : (before ++ after ++ []).dropWhile isBlank = [] :=
      dropWhile_isBlank_append blank nofun
    rw [List.append_nil] at dropped ⊢
    rw [trimBlanks, dropped]
    rfl
  | cons first others =>
    have front : (before ++ (first :: others ++ after)).dropWhile isBlank = first :: others ++ after :=
      dropWhile_isBlank_append blankBefore trimmed.head
    have back : (after.reverse ++ (first :: others).reverse).dropWhile isBlank =
        (first :: others).reverse := by
      apply dropWhile_isBlank_append
      · exact fun c member => blankAfter c (List.mem_reverse.mp member)
      · rw [List.head?_reverse]
        exact trimmed.last
    rw [trimBlanks, List.append_assoc, front, List.reverse_append, back, List.reverse_reverse]

theorem IsTrimmed.trimBlanks_eq {characters : List Char} (trimmed : IsTrimmed characters) :
    trimBlanks characters = characters := by
  have surrounded : trimBlanks ([] ++ characters ++ []) = characters :=
    trimBlanks_surrounded nofun trimmed nofun
  rwa [List.nil_append, List.append_nil] at surrounded

theorem not_blank_of_dropWhile {characters : List Char} {c : Char}
    (first : c ∈ (characters.dropWhile isBlank).head?) : isBlank c = false := by
  have stopped := List.head?_dropWhile_not isBlank characters
  rw [first] at stopped
  exact stopped

theorem isTrimmed_trimBlanks (characters : List Char) : IsTrimmed (trimBlanks characters) := by
  obtain ⟨dropped, cut⟩ := List.dropWhile_suffix (l := (characters.dropWhile isBlank).reverse) isBlank
  have kept : trimBlanks characters ++ dropped.reverse = characters.dropWhile isBlank := by
    rw [trimBlanks, ← List.reverse_append, cut, List.reverse_reverse]
  constructor
  · intro c first
    have found : c ∈ (characters.dropWhile isBlank).head? := by
      rw [← kept, List.head?_append, first]
      rfl
    exact not_blank_of_dropWhile found
  · intro c last
    rw [trimBlanks, List.getLast?_reverse] at last
    exact not_blank_of_dropWhile last

/-- What trimming takes off is blank and stands at the ends. -/
theorem exists_blanks_around (characters : List Char) :
    ∃ before after, (∀ c ∈ before, isBlank c = true) ∧ (∀ c ∈ after, isBlank c = true) ∧
      before ++ trimBlanks characters ++ after = characters := by
  have front := List.all_eq_true.mp (List.all_takeWhile (p := isBlank) (l := characters))
  have back := List.all_eq_true.mp
    (List.all_takeWhile (p := isBlank) (l := (characters.dropWhile isBlank).reverse))
  refine ⟨_, _, front, fun c member => back c (List.mem_reverse.mp member), ?_⟩
  rw [trimBlanks, List.append_assoc, ← List.reverse_append, List.takeWhile_append_dropWhile,
    List.reverse_reverse, List.takeWhile_append_dropWhile]

theorem trimBlanks_subset (characters : List Char) : trimBlanks characters ⊆ characters := by
  obtain ⟨before, after, -, -, whole⟩ := exists_blanks_around characters
  intro c member
  rw [← whole]
  exact List.mem_append_left after (List.mem_append_right before member)

/-- Further blanks around a text leave no trace. -/
theorem trimBlanks_around {before after : List Char} (blankBefore : ∀ c ∈ before, isBlank c = true)
    (blankAfter : ∀ c ∈ after, isBlank c = true) (middle : List Char) :
    trimBlanks (before ++ middle ++ after) = trimBlanks middle := by
  obtain ⟨front, back, blankFront, blankBack, whole⟩ := exists_blanks_around middle
  have spelled : before ++ middle ++ after =
      (before ++ front) ++ trimBlanks middle ++ (back ++ after) := calc
    before ++ middle ++ after = before ++ (front ++ trimBlanks middle ++ back) ++ after := by rw [whole]
    _ = (before ++ front) ++ trimBlanks middle ++ (back ++ after) := by simp only [List.append_assoc]
  rw [spelled]
  apply trimBlanks_surrounded _ (isTrimmed_trimBlanks middle)
  · simpa only [List.forall_mem_append] using And.intro blankBack blankAfter
  · simpa only [List.forall_mem_append] using And.intro blankBefore blankFront

theorem trimBlanks_eq_nil_iff {characters : List Char} :
    trimBlanks characters = [] ↔ ∀ c ∈ characters, isBlank c = true := by
  constructor
  · intro nothing
    obtain ⟨before, after, blankBefore, blankAfter, whole⟩ := exists_blanks_around characters
    rw [nothing, List.append_nil] at whole
    rw [← whole]
    exact List.forall_mem_append.mpr ⟨blankBefore, blankAfter⟩
  · intro blank
    have nothing : ∀ c ∈ ([] : List Char), isBlank c = true := nofun
    have around := trimBlanks_around blank nothing []
    rwa [List.append_nil, List.append_nil] at around

theorem isTrimmed_iff {characters : List Char} :
    IsTrimmed characters ↔ trimBlanks characters = characters :=
  ⟨IsTrimmed.trimBlanks_eq, fun same => same ▸ isTrimmed_trimBlanks characters⟩

instance (characters : List Char) : Decidable (IsTrimmed characters) :=
  decidable_of_iff _ isTrimmed_iff.symm

theorem isTrimmed_trim (text : String) : IsTrimmed (trim text).toList := by
  rw [trim, String.toList_ofList]
  exact isTrimmed_trimBlanks text.toList

theorem trim_eq_self {text : String} (trimmed : IsTrimmed text.toList) : trim text = text := by
  rw [trim, trimmed.trimBlanks_eq, String.ofList_toList]

/-- Between two trimmed pieces anything can stand. -/
theorem IsTrimmed.around {first second : List Char} (trimmedFirst : IsTrimmed first)
    (someFirst : first ≠ []) (trimmedSecond : IsTrimmed second) (someSecond : second ≠ [])
    (between : List Char) : IsTrimmed (first ++ between ++ second) := by
  constructor
  · intro c found
    apply trimmedFirst.head c
    rw [List.head?_eq_some_head someFirst]
    rwa [List.append_assoc, List.head?_append, List.head?_eq_some_head someFirst,
      Option.some_or] at found
  · intro c found
    apply trimmedSecond.last c
    rw [List.getLast?_eq_some_getLast someSecond]
    rwa [List.getLast?_append, List.getLast?_eq_some_getLast someSecond, Option.some_or] at found

theorem intercalate_ne_nil (separator : List Char) {first : List Char} (someFirst : first ≠ [])
    (later : List (List Char)) : separator.intercalate (first :: later) ≠ [] := by
  cases later <;> simp [someFirst]

theorem isTrimmed_intercalate (separator : List Char) {pieces : List (List Char)}
    (trimmed : ∀ piece ∈ pieces, piece ≠ [] ∧ IsTrimmed piece) :
    IsTrimmed (separator.intercalate pieces) := by
  induction pieces with
  | nil => exact isTrimmed_nil
  | cons first later ih =>
    obtain ⟨someFirst, trimmedFirst⟩ := trimmed first (by simp)
    cases later with
    | nil => rwa [List.intercalate_singleton]
    | cons second later =>
      have trimmedRest := ih fun piece member => trimmed piece (by simp [member])
      have someRest := intercalate_ne_nil separator (trimmed second (by simp)).1 later
      rw [List.intercalate_cons_cons]
      exact trimmedFirst.around someFirst trimmedRest someRest separator

end HtmlTree.Text
