import HtmlTree.Proofs.Phrase.Closing
import HtmlTree.Proofs.Text.Spelling
import Mathlib.Data.List.Chain

/-! Sentences put together from pieces. If no blank stands before a mark inside a piece, the marks that
are closed up are those at the head of a piece, so the pieces stay whole, and putting some of them
together beforehand makes no difference. -/

namespace HtmlTree.Phrase

open Text

variable {Kind : Type} {Value : Kind → Type}

/-- No blank stands right before a mark. -/
def IsTight (characters : List Char) : Prop :=
  characters.IsChain fun c next => ¬ (isBlank c = true ∧ isMark next = true)

instance (characters : List Char) : Decidable (IsTight characters) :=
  inferInstanceAs (Decidable (List.IsChain _ characters))

/-- A piece as it stands behind others: a mark follows at once, all else after a space. -/
def following (piece : String) : String :=
  if beginsWithMark piece.toList then piece else " " ++ piece

def sentence : List String → String
  | [] => ""
  | first :: later => first ++ String.join (later.map following)

/-- A piece that closing up leaves whole. -/
structure IsPiece (piece : String) : Prop where
  nonempty : piece ≠ ""
  trimmed : IsTrimmed piece.toList
  tight : IsTight piece.toList

theorem isTight_nil : IsTight [] := .nil

/-- Behind a character that is no blank, anything can follow. -/
theorem IsTight.append {first rest : List Char} (tightFirst : IsTight first)
    (last : ∀ c ∈ first.getLast?, isBlank c = false) (tightRest : IsTight rest) :
    IsTight (first ++ rest) := by
  refine List.IsChain.append tightFirst tightRest fun c ending next _ => ?_
  rintro ⟨blank, _⟩
  rw [last c ending] at blank
  cases blank

theorem closeUp_append {first : List Char} (tight : IsTight first)
    (last : ∀ c ∈ first.getLast?, isBlank c = false) (rest : List Char) :
    closeUp (first ++ rest) = first ++ closeUp rest := by
  induction first with
  | nil => rfl
  | cons c others ih =>
    have kept : (isBlank c && beginsWithMark (others ++ rest)) = false := by
      -- A mark at the head of `rest` follows the last character only, and that is no blank.
      cases others with
      | nil => rw [last c rfl, Bool.false_and]
      | cons next others =>
        have apart := (List.isChain_cons_cons.mp tight).1
        simpa [beginsWithMark] using apart
    have lastOthers : ∀ d ∈ others.getLast?, isBlank d = false := by
      intro d ending
      apply last d
      rw [List.getLast?_cons, ending]
      rfl
    rw [List.cons_append, closeUp, kept, ih tight.tail lastOthers]
    rfl

theorem beginsWithMark_append {first : List Char} (some : first ≠ []) (rest : List Char) :
    beginsWithMark (first ++ rest) = beginsWithMark first := by
  cases first with
  | nil => exact absurd rfl some
  | cons => rfl

theorem toList_following (piece : String) :
    (following piece).toList =
      if beginsWithMark piece.toList then piece.toList else ' ' :: piece.toList := by
  unfold following
  split <;> simp

theorem following_append {piece : String} (some : piece ≠ "") (rest : String) :
    following (piece ++ rest) = following piece ++ rest := by
  have someChars : piece.toList ≠ [] := fun empty => some (String.toList_eq_nil_iff.mp empty)
  unfold following
  rw [String.toList_append, beginsWithMark_append someChars]
  split
  · rfl
  · rw [String.append_assoc]

namespace IsPiece

variable {piece : String}

theorem toList_ne_nil (whole : IsPiece piece) : piece.toList ≠ [] :=
  fun empty => whole.nonempty (String.toList_eq_nil_iff.mp empty)

/-- Of the space before a piece, closing up leaves what stands before it in a sentence. -/
theorem closeUp_space (whole : IsPiece piece) (rest : List Char) :
    closeUp (' ' :: (piece.toList ++ rest)) = (following piece).toList ++ closeUp rest := by
  have blank : isBlank ' ' = true := by decide
  have piecewise := closeUp_append whole.tight whole.trimmed.last rest
  rw [closeUp, blank, beginsWithMark_append whole.toList_ne_nil, piecewise, toList_following]
  cases beginsWithMark piece.toList <;> rfl

theorem isTight_following (whole : IsPiece piece) : IsTight (following piece).toList := by
  rw [toList_following]
  split
  · exact whole.tight
  · rename_i unmarked
    refine List.IsChain.cons whole.tight ?_
    rintro next first ⟨_, mark⟩
    cases chars : piece.toList with
    | nil => exact whole.toList_ne_nil chars
    | cons c rest =>
      rw [chars] at unmarked first
      cases first
      exact unmarked mark

theorem last_following (whole : IsPiece piece) :
    ∀ c ∈ (following piece).toList.getLast?, isBlank c = false := by
  rw [toList_following]
  split
  · exact whole.trimmed.last
  · have ends := List.getLast?_eq_some_getLast whole.toList_ne_nil
    rw [List.getLast?_cons, ends]
    exact ends ▸ whole.trimmed.last

end IsPiece

theorem toList_sentence (first : String) (later : List String) :
    (sentence (first :: later)).toList =
      first.toList ++ later.flatMap fun piece => (following piece).toList := by
  rw [sentence, String.toList_append, String.toList_join, List.flatMap_map]

theorem closeUp_spaced {later : List String} (whole : ∀ piece ∈ later, IsPiece piece) :
    closeUp (later.flatMap fun piece => ' ' :: piece.toList) =
      later.flatMap fun piece => (following piece).toList := by
  induction later with
  | nil => rfl
  | cons piece later ih =>
    have rest := ih fun other member => whole other (by simp [member])
    rw [List.flatMap_cons, List.flatMap_cons, List.cons_append,
      (whole piece (by simp)).closeUp_space, rest]

theorem closeUp_intercalate {pieces : List String} (whole : ∀ piece ∈ pieces, IsPiece piece) :
    closeUp (" ".intercalate pieces).toList = (sentence pieces).toList := by
  rw [String.toList_intercalate]
  cases pieces with
  | nil => rfl
  | cons first later =>
    have wholeFirst := whole first (by simp)
    have rest : closeUp (later.flatMap fun piece => ' ' :: piece.toList) = _ :=
      closeUp_spaced fun piece member => whole piece (by simp [member])
    rw [List.map_cons, intercalate_cons_eq, List.flatMap_map,
      closeUp_append wholeFirst.tight wholeFirst.trimmed.last, toList_sentence]
    exact congrArg (first.toList ++ ·) rest

theorem isTight_flatMap_following {later : List String} (whole : ∀ piece ∈ later, IsPiece piece) :
    IsTight (later.flatMap fun piece => (following piece).toList) := by
  induction later with
  | nil => exact isTight_nil
  | cons piece later ih =>
    have wholePiece := whole piece (by simp)
    rw [List.flatMap_cons]
    exact wholePiece.isTight_following.append wholePiece.last_following
      (ih fun other member => whole other (by simp [member]))

theorem isTight_sentence {pieces : List String} (whole : ∀ piece ∈ pieces, IsPiece piece) :
    IsTight (sentence pieces).toList := by
  cases pieces with
  | nil => exact isTight_nil
  | cons first later =>
    have wholeFirst := whole first (by simp)
    rw [toList_sentence]
    exact wholeFirst.tight.append wholeFirst.trimmed.last
      (isTight_flatMap_following fun piece member => whole piece (by simp [member]))

theorem infix_sentence {pieces : List String} {piece : String} (member : piece ∈ pieces) :
    piece.toList <:+: (sentence pieces).toList := by
  cases pieces with
  | nil => cases member
  | cons first later =>
    rw [toList_sentence]
    rcases List.mem_cons.mp member with rfl | behind
    · exact (List.prefix_append _ _).isInfix
    · have ending : piece.toList <:+ (following piece).toList := by
        rw [toList_following]
        split
        · exact List.suffix_rfl
        · exact List.suffix_cons _ _
      have inside : (following piece).toList <:+:
          later.flatMap fun piece => (following piece).toList := by
        rw [List.flatMap_def]
        exact List.infix_of_mem_flatten (List.mem_map_of_mem behind)
      exact (ending.isInfix.trans inside).trans (List.suffix_append _ _).isInfix

/-- Pieces that are put together first make no difference. -/
theorem sentence_nested {first : String} (some : first ≠ "") (before later after : List String) :
    sentence (before ++ sentence (first :: later) :: after) =
      sentence (before ++ (first :: later) ++ after) := by
  have inner := following_append some (String.join (later.map following))
  cases before with
  | nil =>
    simp only [List.nil_append, List.cons_append, sentence, List.map_append, String.join_append,
      String.append_assoc]
  | cons opening before =>
    simp only [List.cons_append, sentence, List.map_append, List.map_cons, String.join_append,
      String.join_cons, String.append_assoc, inner]

theorem isTrimmed_spaced {pieces : List String} (whole : ∀ piece ∈ pieces, IsPiece piece) :
    IsTrimmed (" ".intercalate pieces).toList := by
  rw [String.toList_intercalate]
  apply isTrimmed_intercalate
  intro chars member
  obtain ⟨piece, found, rfl⟩ := List.mem_map.mp member
  exact ⟨(whole piece found).toList_ne_nil, (whole piece found).trimmed⟩

theorem render_ofParts {settings : Settings} {parts : List (Part Value)}
    (whole : ∀ piece ∈ parts.filterMap (Part.piece? settings), IsPiece piece) :
    (ofParts parts).render settings = sentence (parts.filterMap (Part.piece? settings)) := by
  have joined : (ofParts parts).joined settings =
      " ".intercalate (parts.filterMap (Part.piece? settings)) := trim_eq_self (isTrimmed_spaced whole)
  have closed : (ofParts parts).render settings =
      String.ofList (closeUp ((ofParts parts).joined settings).toList) := rfl
  rw [closed, joined, closeUp_intercalate whole, String.ofList_toList]

/-- A sentence can be a piece of another. -/
theorem isPiece_sentence {first : String} {later : List String}
    (whole : ∀ piece ∈ first :: later, IsPiece piece) : IsPiece (sentence (first :: later)) where
  nonempty empty := by
    have chars := congrArg String.toList empty
    rw [toList_sentence] at chars
    exact (whole first (by simp)).toList_ne_nil (List.append_eq_nil_iff.mp chars).1
  trimmed := by
    rw [← closeUp_intercalate whole]
    exact isTrimmed_closeUp (isTrimmed_spaced whole)
  tight := isTight_sentence whole

theorem piece?_markup {settings : Settings} {markup : String} (trimmed : IsTrimmed markup.toList) :
    Part.piece? settings (.node (.markup markup) : Part Value) = some markup := by
  rw [Part.piece?, Node.render_markup, trim_eq_self trimmed]

theorem exists_pieces (settings : Settings) {parts : List (Part Value)}
    (present : ∃ part ∈ parts, part.isPresent = true) :
    ∃ first later, parts.filterMap (Part.piece? settings) = first :: later := by
  obtain ⟨part, member, isPresent⟩ := present
  apply List.exists_cons_of_ne_nil
  intro none
  have missing := List.filterMap_eq_nil_iff.mp none part member
  rw [← Part.isSome_piece? settings, missing] at isPresent
  cases isPresent

/-- Parts that are put together as a phrase of their own may stand for themselves. -/
theorem render_ofParts_nested {settings : Settings} {before run after : List (Part Value)}
    (whole : ∀ piece ∈ (before ++ run ++ after).filterMap (Part.piece? settings), IsPiece piece)
    (present : ∃ part ∈ run, part.isPresent = true) :
    (ofParts (before ++ .node (.markup ((ofParts run).render settings)) :: after)).render settings =
      (ofParts (before ++ run ++ after)).render settings := by
  obtain ⟨first, later, pieces⟩ := exists_pieces settings present
  have outer := render_ofParts whole
  simp only [List.filterMap_append, pieces, List.mem_append] at whole outer
  have wholeRun : ∀ piece ∈ first :: later, IsPiece piece :=
    fun piece member => whole piece (.inl (.inr member))
  have inner : (ofParts run).render settings = sentence (first :: later) := by
    rw [render_ofParts (pieces ▸ wholeRun), pieces]
  have isPiece := isPiece_sentence wholeRun
  have nested : (before ++ .node (.markup (sentence (first :: later))) :: after).filterMap
      (Part.piece? settings) = before.filterMap (Part.piece? settings) ++
        sentence (first :: later) :: after.filterMap (Part.piece? settings) := by
    rw [List.filterMap_append, List.filterMap_cons_some (piece?_markup isPiece.trimmed)]
  have wholeNested : ∀ piece ∈ (before ++ .node (.markup (sentence (first :: later))) ::
      after).filterMap (Part.piece? settings), IsPiece piece := by
    intro piece member
    rw [nested, List.mem_append, List.mem_cons] at member
    rcases member with opening | rfl | ending
    · exact whole piece (.inl (.inl opening))
    · exact isPiece
    · exact whole piece (.inr ending)
  have some := (wholeRun first (by simp)).nonempty
  rw [inner, render_ofParts wholeNested, nested, sentence_nested some, outer]

/-- Parts that have some text each, and no blank before a mark in it, come out whole: the first of them,
and each other one at once if it begins with a mark, and after a space if not. No blank before a mark
comes about between them. And parts that are put together as a phrase of their own may stand for
themselves. -/
theorem ofParts_reads_as_sentence {settings : Settings} {parts : List (Part Value)}
    {pieces : List String} (given : parts.filterMap (Part.piece? settings) = pieces)
    (wellFormed : ∀ piece ∈ pieces, piece ≠ "" ∧ IsTight piece.toList) :
    (ofParts parts).render settings = sentence pieces ∧
    IsTight ((ofParts parts).render settings).toList ∧
    (∀ piece ∈ pieces, piece.toList <:+: ((ofParts parts).render settings).toList) ∧
    ∀ before run after, parts = before ++ run ++ after → (∃ part ∈ run, part.isPresent = true) →
      (ofParts (before ++ .node (.markup ((ofParts run).render settings)) :: after)).render settings =
        (ofParts parts).render settings := by
  have whole : ∀ piece ∈ pieces, IsPiece piece := by
    intro piece member
    obtain ⟨part, _, found⟩ := List.mem_filterMap.mp (given ▸ member)
    exact ⟨(wellFormed piece member).1, Part.isTrimmed_piece? found, (wellFormed piece member).2⟩
  subst given
  have formed := render_ofParts whole
  refine ⟨formed, ?_, ?_, ?_⟩
  · rw [formed]
    exact isTight_sentence whole
  · intro piece member
    rw [formed]
    exact infix_sentence member
  · rintro before run after rfl present
    exact render_ofParts_nested whole present

/-- Advice with a missing part, a node, and marks as parts of their own. -/
private def advice : List (Part fun _ : Unit => Unit) :=
  [.string "Use ", .missing, .node (.element (.ofName "code") [.text "cargo"]), .string ",",
    .string " then\nrest", .string "."]

theorem ofParts_reads_as_sentence_advice :
    let pieces := ["Use", "<code>cargo</code>", ",", "then\nrest", "."]
    let inner := (ofParts (advice.drop 2)).render .standard
    advice.filterMap (Part.piece? .standard) = pieces ∧
      (∀ piece ∈ pieces, piece ≠ "" ∧ IsTight piece.toList) ∧
      (ofParts advice).render .standard = "Use <code>cargo</code>, then\nrest." ∧
      (ofParts (advice.take 2 ++ [.node (.markup inner)])).render .standard =
        "Use <code>cargo</code>, then\nrest." := by
  intro pieces inner
  have given : advice.filterMap (Part.piece? .standard) = pieces := by decide
  have wellFormed : ∀ piece ∈ pieces, piece ≠ "" ∧ IsTight piece.toList := by decide
  obtain ⟨formed, _, _, nested⟩ := ofParts_reads_as_sentence given wellFormed
  have written : sentence pieces = "Use <code>cargo</code>, then\nrest." := by decide
  have split : advice = advice.take 2 ++ advice.drop 2 ++ [] := by simp
  have present : ∃ part ∈ advice.drop 2, part.isPresent = true := ⟨.string ",", by simp [advice], rfl⟩
  refine ⟨given, wellFormed, formed.trans written, ?_⟩
  exact (nested (advice.take 2) (advice.drop 2) [] split present).trans (formed.trans written)

end HtmlTree.Phrase
