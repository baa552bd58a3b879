import HtmlTree.Proofs.Text.Trimming
import HtmlTree.Selector

/-! The segments of a selector, and what reading them one by one amounts to: a segment that a number
sign opens is the id, and all others are collected with a space behind each. -/

namespace HtmlTree.Selector

open Text

theorem segments_eq_splitOn (characters : List Char) :
    segments characters = characters.splitOn '.' := by
  induction characters with
  | nil => rfl
  | cons c rest ih =>
    rw [segments, List.splitOn_cons_eq_if_modifyHead, ih]
    by_cases dot : c = '.'
    · simp [dot]
    · simp only [dot, beq_iff_eq, ↓reduceIte]
      cases split : rest.splitOn '.' with
      | nil => exact absurd split (List.splitOn_ne_nil '.' rest)
      | cons => rfl

theorem exists_segments (characters : List Char) :
    ∃ first others, segments characters = first :: others := by
  rw [segments_eq_splitOn]
  exact List.exists_cons_of_ne_nil (List.splitOn_ne_nil '.' characters)

theorem segments_dot (rest : List Char) : segments ('.' :: rest) = [] :: segments rest := by
  rw [segments, if_pos rfl]

theorem segments_cons {c : Char} {rest first : List Char} {others : List (List Char)}
    (notDot : c ≠ '.') (split : segments rest = first :: others) :
    segments (c :: rest) = (c :: first) :: others := by
  rw [segments, if_neg notDot, split]

theorem intercalate_segments (characters : List Char) :
    ['.'].intercalate (segments characters) = characters := by
  rw [segments_eq_splitOn, List.intercalate_splitOn]

/-- Pieces without dots are the segments of the text that has dots between them. -/
theorem segments_intercalate {pieces : List (List Char)} (some : pieces ≠ [])
    (dotless : ∀ piece ∈ pieces, '.' ∉ piece) : segments (['.'].intercalate pieces) = pieces := by
  rw [segments_eq_splitOn, List.splitOn_intercalate '.' dotless some]

theorem segment?_plain {segment : List Char} (plain : '#' ∉ segment) (reading : Reading) :
    reading.segment? segment =
      some { reading with classes := reading.classes ++ (segment ++ [' ']) } := by
  unfold Reading.segment?
  rw [if_neg plain, List.append_assoc]

theorem segment?_sign (id : List Char) (reading : Reading) :
    reading.segment? ('#' :: id) = some { reading with id } := by
  unfold Reading.segment?
  rw [if_pos (List.mem_cons_self ..)]
  rfl

theorem foldlM_plain {names : List (List Char)} (plain : ∀ name ∈ names, '#' ∉ name)
    (reading : Reading) :
    names.foldlM Reading.segment? reading =
      some { reading with classes := reading.classes ++ names.flatMap (· ++ [' ']) } := by
  induction names generalizing reading with
  | nil => simp
  | cons name names ih =>
    have step := segment?_plain (plain name (by simp)) reading
    rw [List.foldlM_cons, step, Option.bind_eq_bind, Option.bind_some,
      ih fun other member => plain other (by simp [member])]
    simp only [List.append_assoc, List.flatMap_cons]

/-- Wherever the id stands among the names, nothing of it shows in them. -/
theorem foldlM_sign {before after : List (List Char)} (id : List Char)
    (plainBefore : ∀ name ∈ before, '#' ∉ name) (plainAfter : ∀ name ∈ after, '#' ∉ name) :
    (before ++ ('#' :: id) :: after).foldlM Reading.segment? ⟨[], []⟩ =
      some ⟨id, (before ++ after).flatMap (· ++ [' '])⟩ := by
  rw [List.foldlM_append, foldlM_plain plainBefore, Option.bind_eq_bind, Option.bind_some,
    List.foldlM_cons, segment?_sign, Option.bind_eq_bind, Option.bind_some, foldlM_plain plainAfter,
    List.flatMap_append]
  rfl

/-- The names with a space behind each are the names with spaces between them, and a blank rest. -/
theorem flatMap_space_eq (names : List (List Char)) :
    ∃ blanks, (∀ c ∈ blanks, isBlank c = true) ∧
      names.flatMap (· ++ [' ']) = [' '].intercalate names ++ blanks := by
  induction names with
  | nil => exact ⟨[], nofun, rfl⟩
  | cons name names ih =>
    -- Only the space behind the last name is left over.
    cases names with
    | nil => exact ⟨[' '], List.forall_mem_singleton.mpr (by decide), by simp⟩
    | cons second names =>
      obtain ⟨blanks, blank, spelled⟩ := ih
      refine ⟨blanks, blank, ?_⟩
      rw [List.flatMap_cons, spelled, List.intercalate_cons_cons, List.append_assoc,
        List.append_assoc, List.append_assoc]

/-- Blank segments in front leave no trace. -/
theorem trimBlanks_flatMap_space {leading names : List (List Char)}
    (empty : ∀ segment ∈ leading, segment = [])
    (trimmed : ∀ name ∈ names, name ≠ [] ∧ IsTrimmed name) :
    trimBlanks ((leading ++ names).flatMap (· ++ [' '])) = [' '].intercalate names := by
  obtain ⟨blanks, blank, spelled⟩ := flatMap_space_eq names
  rw [List.flatMap_append, spelled, ← List.append_assoc]
  apply trimBlanks_surrounded _ (isTrimmed_intercalate [' '] trimmed) blank
  intro c member
  obtain ⟨segment, found, inside⟩ := List.mem_flatMap.mp member
  rw [empty segment found, List.nil_append, List.mem_singleton] at inside
  rw [inside]
  decide

theorem parse_of_read {text : String} {reading : Reading}
    (marked : '.' ∈ text.toList ∨ '#' ∈ text.toList) (single : text.toList.count '#' ≤ 1)
    (read : (segments text.toList).foldlM Reading.segment? ⟨[], []⟩ = some reading) :
    parse text = .ok (ofReading reading) := by
  have marked : ¬ ('.' ∉ text.toList ∧ '#' ∉ text.toList) := by
    rintro ⟨noDot, noSign⟩
    exact marked.elim noDot noSign
  rw [parse, if_neg marked, if_neg (by omega), read]

/-- A segment that is a class name, or nothing. -/
structure IsPlain (segment : List Char) : Prop where
  dotless : '.' ∉ segment
  unsigned : '#' ∉ segment

theorem isPlain_nil : IsPlain [] := ⟨nofun, nofun⟩

theorem count_sign_intercalate (pieces : List (List Char)) :
    (['.'].intercalate pieces).count '#' = pieces.flatten.count '#' := by
  induction pieces with
  | nil => rfl
  | cons first later ih =>
    cases later with
    | nil => simp
    | cons second later =>
      have noSign : List.count '#' ['.'] = 0 := rfl
      rw [List.intercalate_cons_cons, List.count_append, List.count_append, ih, noSign, Nat.add_zero]
      simp only [List.flatten_cons, List.count_append]

theorem count_sign_of_isPlain {pieces : List (List Char)} (plain : ∀ piece ∈ pieces, IsPlain piece) :
    pieces.flatten.count '#' = 0 := by
  rw [List.count_eq_zero]
  intro sign
  obtain ⟨piece, member, inside⟩ := List.mem_flatten.mp sign
  exact (plain piece member).unsigned inside

/-- A selector without an id. The segment before its first dot is empty. -/
theorem parse_classes {text : String} {names : List (List Char)}
    (spelled : text.toList = ['.'].intercalate ([] :: names)) (some : names ≠ [])
    (plain : ∀ name ∈ names, IsPlain name) :
    parse text = .ok (ofReading ⟨[], ([] :: names).flatMap (· ++ [' '])⟩) := by
  have plainAll : ∀ piece ∈ [] :: names, IsPlain piece :=
    List.forall_mem_cons.mpr ⟨isPlain_nil, plain⟩
  apply parse_of_read
  · cases names with
    | nil => exact absurd rfl some
    | cons name names =>
      rw [spelled, List.intercalate_cons_cons]
      exact .inl (by simp)
  · rw [spelled, count_sign_intercalate, count_sign_of_isPlain plainAll]
    exact Nat.zero_le 1
  · have dotless : ∀ piece ∈ [] :: names, '.' ∉ piece :=
      fun piece member => (plainAll piece member).dotless
    rw [spelled, segments_intercalate (by simp) dotless,
      foldlM_plain fun piece member => (plainAll piece member).unsigned]
    rfl

/-- A selector with an id, which may stand anywhere. -/
theorem parse_id {text : String} {id : List Char} {before after : List (List Char)}
    (spelled : text.toList = ['.'].intercalate (before ++ ('#' :: id) :: after))
    (plainId : IsPlain id) (plainBefore : ∀ piece ∈ before, IsPlain piece)
    (plainAfter : ∀ piece ∈ after, IsPlain piece) :
    parse text = .ok (ofReading ⟨id, (before ++ after).flatMap (· ++ [' '])⟩) := by
  have once : text.toList.count '#' = 1 := by
    rw [spelled, count_sign_intercalate, List.flatten_append, List.flatten_cons, List.count_append,
      List.count_append, List.count_cons_self, count_sign_of_isPlain plainBefore,
      count_sign_of_isPlain plainAfter, List.count_eq_zero.mpr plainId.unsigned]
  apply parse_of_read
  · exact .inr (List.count_pos_iff.mp (by omega))
  · exact Nat.le_of_eq once
  · have dotless : ∀ piece ∈ before ++ ('#' :: id) :: after, '.' ∉ piece := by
      intro piece member
      rcases List.mem_append.mp member with early | late
      · exact (plainBefore piece early).dotless
      · rcases List.mem_cons.mp late with rfl | late
        · simpa using plainId.dotless
        · exact (plainAfter piece late).dotless
    rw [spelled, segments_intercalate (by simp) dotless,
      foldlM_sign id (fun piece member => (plainBefore piece member).unsigned)
        fun piece member => (plainAfter piece member).unsigned]

end HtmlTree.Selector
