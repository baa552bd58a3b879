import HtmlTree.Proofs.Selector.Segments

/-! Which texts are selectors, told by their characters alone, and the one reason for which any other
text is refused. What is read from a selector has no mark left in it and no blank at its ends. -/

namespace HtmlTree.Selector

open Text

/-- Every number sign is the first character or follows a dot. -/
def SignsOpen (characters : List Char) : Prop :=
  ∀ before after, characters = before ++ '#' :: after → before = [] ∨ ['.'] <:+ before

/-- What makes a text a selector. -/
structure IsSelector (text : String) : Prop where
  marked : '.' ∈ text.toList ∨ '#' ∈ text.toList
  single : text.toList.count '#' ≤ 1
  opening : SignsOpen text.toList

/-- Why a text is none. No two of the reasons hold of the same text. -/
inductive IsRefused (text : String) : Error → Prop where
  | unmarked (dotless : '.' ∉ text.toList) (unsigned : '#' ∉ text.toList) :
      IsRefused text (.noIdOrClass text)
  | repeated (several : 2 ≤ text.toList.count '#') : IsRefused text (.severalIds text)
  | misplaced (once : text.toList.count '#' = 1) (inside : ¬ SignsOpen text.toList) :
      IsRefused text (.misplacedId text)

variable {characters segment : List Char} {text : String}

theorem signsOpen_nil : SignsOpen [] := by
  intro before after spelled
  simp at spelled

theorem signsOpen_cons {c : Char} {rest : List Char} :
    SignsOpen (c :: rest) ↔ (rest.head? = some '#' → c = '.') ∧ SignsOpen rest := by
  constructor
  · intro opening
    constructor
    · intro sign
      obtain ⟨after, rfl⟩ := List.head?_eq_some_iff.mp sign
      rcases opening [c] after rfl with empty | dot
      · cases empty
      · exact (List.cons.inj (dot.eq_of_length rfl)).1.symm
    · rintro before after rfl
      rcases opening (c :: before) after rfl with empty | dot
      · cases empty
      · rcases List.suffix_cons_iff.mp dot with whole | dot
        · exact .inl (List.cons.inj whole).2.symm
        · exact .inr dot
  · rintro ⟨first, opening⟩ before after spelled
    cases before with
    | nil => exact .inl rfl
    | cons d before =>
      obtain ⟨rfl, rfl⟩ := List.cons.inj spelled
      right
      rcases opening before after rfl with rfl | dot
      · obtain rfl := first rfl
        exact List.suffix_rfl
      · exact dot.trans (List.suffix_cons c before)

/-- A sign at the head of a text is at the head of its first segment. -/
theorem head_segments {others : List (List Char)} (split : segments characters = segment :: others) :
    segment.head? = some '#' ↔ characters.head? = some '#' := by
  cases characters with
  | nil =>
    cases split
    rfl
  | cons c rest =>
    by_cases dot : c = '.'
    · rw [dot, segments_dot] at split
      cases split
      simp [dot]
    · obtain ⟨first, later, inner⟩ := exists_segments rest
      rw [segments_cons dot inner] at split
      cases split
      rfl

/-- Seen segment by segment: a sign may be nowhere but at the head. -/
theorem signsOpen_iff_segments :
    SignsOpen characters ↔ ∀ segment ∈ segments characters, '#' ∉ segment.tail := by
  induction characters with
  | nil => simp [signsOpen_nil, segments]
  | cons c rest ih =>
    rw [signsOpen_cons, ih]
    by_cases dot : c = '.'
    · simp [dot, segments_dot]
    · obtain ⟨first, others, split⟩ := exists_segments rest
      -- Behind a further character the head of the first segment is no longer the head.
      have inside : '#' ∈ first ↔ first.head? = some '#' ∨ '#' ∈ first.tail := by
        cases first <;> simp [eq_comm]
      rw [segments_cons dot split, ← head_segments split, split]
      simp only [dot, imp_false, List.forall_mem_cons, List.tail_cons, inside, not_or, and_assoc]

instance (characters : List Char) : Decidable (SignsOpen characters) :=
  decidable_of_iff _ signsOpen_iff_segments.symm

example : SignsOpen "#main.wide".toList ∧ SignsOpen "wide.#main".toList ∧
    ¬ SignsOpen "wide#main".toList ∧ ¬ SignsOpen ". #main".toList := by decide

theorem dotless_of_mem_segments (member : segment ∈ segments characters) : '.' ∉ segment := by
  induction characters generalizing segment with
  | nil =>
    rw [List.mem_singleton.mp member]
    nofun
  | cons c rest ih =>
    by_cases dot : c = '.'
    · rw [dot, segments_dot] at member
      rcases List.mem_cons.mp member with rfl | later
      · nofun
      · exact ih later
    · obtain ⟨first, others, split⟩ := exists_segments rest
      rw [segments_cons dot split] at member
      rw [split] at ih
      rcases List.mem_cons.mp member with rfl | later
      · exact List.not_mem_cons_of_ne_of_not_mem (Ne.symm dot) (ih (List.mem_cons_self ..))
      · exact ih (List.mem_cons_of_mem first later)

theorem count_sign_of_mem_segments (member : segment ∈ segments characters) :
    segment.count '#' ≤ characters.count '#' := by
  rw [← intercalate_segments characters, count_sign_intercalate]
  exact (List.sublist_flatten_of_mem member).count_le '#'

theorem segment?_eq_none_iff (single : segment.count '#' ≤ 1) (reading : Reading) :
    reading.segment? segment = none ↔ '#' ∈ segment.tail := by
  cases segment with
  | nil => simp [segment?_plain]
  | cons c rest =>
    by_cases sign : c = '#'
    · subst sign
      have unsigned : '#' ∉ rest := by
        rw [List.count_cons_self] at single
        exact List.count_eq_zero.mp (by omega)
      simp [segment?_sign, unsigned]
    · by_cases inside : '#' ∈ rest
      · simp [Reading.segment?, inside, sign]
      · rw [segment?_plain (by simp [inside, Ne.symm sign])]
        simp [inside]

theorem foldlM_eq_none_iff {pieces : List (List Char)}
    (single : ∀ piece ∈ pieces, piece.count '#' ≤ 1) (reading : Reading) :
    pieces.foldlM Reading.segment? reading = none ↔ ∃ piece ∈ pieces, '#' ∈ piece.tail := by
  induction pieces generalizing reading with
  | nil => simp
  | cons piece pieces ih =>
    have step := segment?_eq_none_iff (single piece (by simp)) reading
    have later := ih fun other member => single other (by simp [member])
    rw [List.foldlM_cons]
    cases taken : reading.segment? piece with
    | none => simp [step.mp taken]
    | some next =>
      rw [taken] at step
      simp [later next, ← step]

/-- The segments of a text with no more than one sign can be read unless it is misplaced. -/
theorem read_eq_none_iff (single : characters.count '#' ≤ 1) :
    (segments characters).foldlM Reading.segment? ⟨[], []⟩ = none ↔ ¬ SignsOpen characters := by
  have singles : ∀ piece ∈ segments characters, piece.count '#' ≤ 1 := fun piece member =>
    Nat.le_trans (count_sign_of_mem_segments member) single
  rw [foldlM_eq_none_iff singles, signsOpen_iff_segments]
  simp

theorem IsSelector.exists_read (isSelector : IsSelector text) :
    ∃ reading, (segments text.toList).foldlM Reading.segment? ⟨[], []⟩ = some reading := by
  have readable := mt (read_eq_none_iff isSelector.single).mp (not_not_intro isSelector.opening)
  exact Option.ne_none_iff_exists'.mp readable

theorem IsSelector.exists_parse (isSelector : IsSelector text) :
    ∃ selector, parse text = .ok selector := by
  obtain ⟨reading, read⟩ := isSelector.exists_read
  exact ⟨ofReading reading, parse_of_read isSelector.marked isSelector.single read⟩

theorem IsRefused.parse_eq {error : Error} (refused : IsRefused text error) :
    parse text = .error error := by
  cases refused with
  | unmarked dotless unsigned => exact if_pos ⟨dotless, unsigned⟩
  | repeated several =>
    have sign : '#' ∈ text.toList := List.count_pos_iff.mp (by omega)
    rw [parse, if_neg (fun unmarked => unmarked.2 sign), if_pos (by omega)]
  | misplaced once inside =>
    have sign : '#' ∈ text.toList := List.count_pos_iff.mp (by omega)
    have unread := (read_eq_none_iff (Nat.le_of_eq once)).mpr inside
    rw [parse, if_neg (fun unmarked => unmarked.2 sign), if_neg (by omega), unread]

theorem isSelector_or_isRefused (text : String) :
    IsSelector text ∨ ∃ error, IsRefused text error := by
  by_cases unmarked : '.' ∉ text.toList ∧ '#' ∉ text.toList
  · exact .inr ⟨_, .unmarked unmarked.1 unmarked.2⟩
  by_cases several : 2 ≤ text.toList.count '#'
  · exact .inr ⟨_, .repeated several⟩
  by_cases opening : SignsOpen text.toList
  · have marked := Decidable.not_and_iff_not_or_not.mp unmarked
    simp only [Decidable.not_not] at marked
    exact .inl ⟨marked, by omega, opening⟩
  · -- A text without a sign has none that is misplaced.
    have sign : '#' ∈ text.toList := by
      refine Decidable.byContradiction fun unsigned => opening fun before after spelled => ?_
      simp [spelled] at unsigned
    have once := List.count_pos_iff.mpr sign
    exact .inr ⟨_, .misplaced (by omega) opening⟩

theorem exists_parse_iff : (∃ selector, parse text = .ok selector) ↔ IsSelector text := by
  refine ⟨?_, fun isSelector => isSelector.exists_parse⟩
  rintro ⟨selector, parsed⟩
  rcases isSelector_or_isRefused text with isSelector | ⟨error, refused⟩
  · exact isSelector
  · rw [refused.parse_eq] at parsed
    cases parsed

theorem parse_eq_error_iff {error : Error} : parse text = .error error ↔ IsRefused text error := by
  refine ⟨fun failed => ?_, fun refused => refused.parse_eq⟩
  rcases isSelector_or_isRefused text with isSelector | ⟨reason, refused⟩
  · obtain ⟨selector, parsed⟩ := isSelector.exists_parse
    rw [parsed] at failed
    cases failed
  · rw [refused.parse_eq] at failed
    cases failed
    exact refused

theorem IsPlain.mono {within : List Char} (plain : IsPlain characters) (subset : within ⊆ characters) :
    IsPlain within :=
  ⟨fun dot => plain.dotless (subset dot), fun sign => plain.unsigned (subset sign)⟩

/-- What has been read so far has no mark in it. -/
structure Reading.IsClean (reading : Reading) : Prop where
  id : IsPlain reading.id
  classes : IsPlain reading.classes

theorem Reading.IsClean.segment? {reading next : Reading} (clean : reading.IsClean)
    (dotless : '.' ∉ segment) (single : segment.count '#' ≤ 1)
    (taken : reading.segment? segment = some next) : next.IsClean := by
  by_cases sign : '#' ∈ segment
  · have unsigned : '#' ∉ segment.tail := by
      rw [← segment?_eq_none_iff single reading, taken]
      nofun
    obtain ⟨id, rfl⟩ : ∃ id, segment = '#' :: id := by
      cases segment with
      | nil => cases sign
      | cons c id =>
        rcases List.mem_cons.mp sign with rfl | inside
        · exact ⟨id, rfl⟩
        · exact absurd inside unsigned
    rw [segment?_sign] at taken
    cases taken
    exact ⟨⟨fun dot => dotless (List.mem_cons_of_mem _ dot), unsigned⟩, clean.classes⟩
  · rw [segment?_plain sign] at taken
    cases taken
    refine ⟨clean.id, ⟨?_, ?_⟩⟩
    · simp [clean.classes.dotless, dotless]
    · simp [clean.classes.unsigned, sign]

theorem Reading.IsClean.foldlM {pieces : List (List Char)} {reading result : Reading}
    (clean : reading.IsClean) (dotless : ∀ piece ∈ pieces, '.' ∉ piece)
    (single : ∀ piece ∈ pieces, piece.count '#' ≤ 1)
    (read : pieces.foldlM Reading.segment? reading = some result) : result.IsClean := by
  induction pieces generalizing reading with
  | nil =>
    cases read
    exact clean
  | cons piece pieces ih =>
    rw [List.foldlM_cons] at read
    obtain ⟨next, taken, read⟩ := Option.bind_eq_some_iff.mp read
    have cleanNext := clean.segment? (dotless piece (by simp)) (single piece (by simp)) taken
    exact ih cleanNext (fun other member => dotless other (by simp [member]))
      (fun other member => single other (by simp [member])) read

theorem IsSelector.isPlain_fields (isSelector : IsSelector text) {selector : Selector}
    (parsed : parse text = .ok selector) :
    ∀ field ∈ [selector.id, selector.classes], IsPlain field.toList ∧ IsTrimmed field.toList := by
  obtain ⟨reading, read⟩ := isSelector.exists_read
  have same := parse_of_read isSelector.marked isSelector.single read
  rw [parsed] at same
  cases same
  have empty : Reading.IsClean ⟨[], []⟩ := ⟨isPlain_nil, isPlain_nil⟩
  have clean := empty.foldlM (fun piece member => dotless_of_mem_segments member)
    (fun piece member => Nat.le_trans (count_sign_of_mem_segments member) isSelector.single) read
  have trimmed {kept : List Char} (plain : IsPlain kept) :
      IsPlain (String.ofList (trimBlanks kept)).toList ∧
        IsTrimmed (String.ofList (trimBlanks kept)).toList := by
    rw [String.toList_ofList]
    exact ⟨plain.mono (trimBlanks_subset kept), isTrimmed_trimBlanks kept⟩
  simp only [List.forall_mem_cons]
  exact ⟨trimmed clean.id, trimmed clean.classes, nofun⟩

/-- Exactly the selectors are read, and any other text is refused with its own reason, which holds the
text itself. The id and the class names that are read have no mark in them and no blank at their
ends. -/
theorem parse_follows_grammar (text : String) :
    ((∃ selector, parse text = .ok selector) ↔ IsSelector text) ∧
    (∀ error, parse text = .error error ↔ IsRefused text error) ∧
    ∀ selector, parse text = .ok selector →
      ∀ field ∈ [selector.id, selector.classes], IsPlain field.toList ∧ IsTrimmed field.toList := by
  refine ⟨exists_parse_iff, fun error => parse_eq_error_iff, fun selector parsed => ?_⟩
  have isSelector := exists_parse_iff.mp ⟨selector, parsed⟩
  exact isSelector.isPlain_fields parsed

theorem parse_follows_grammar_spread :
    parse ".wide.# main .dark" = .ok ⟨"main", "wide dark"⟩ ∧
    (∀ field ∈ ["main", "wide dark"], IsPlain field.toList ∧ IsTrimmed field.toList) ∧
    IsRefused ".wide#main" (.misplacedId ".wide#main") ∧
    IsRefused "wide#main#dark" (.severalIds "wide#main#dark") := by
  have read : parse ".wide.# main .dark" = .ok ⟨"main", "wide dark"⟩ := by rfl
  have inside : parse ".wide#main" = .error (.misplacedId ".wide#main") := by rfl
  have several : parse "wide#main#dark" = .error (.severalIds "wide#main#dark") := by rfl
  exact ⟨read, (parse_follows_grammar _).2.2 _ read, ((parse_follows_grammar _).2.1 _).mp inside,
    ((parse_follows_grammar _).2.1 _).mp several⟩

end HtmlTree.Selector
