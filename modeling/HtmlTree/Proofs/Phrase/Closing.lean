import HtmlTree.Phrase
import HtmlTree.Proofs.Text.Trimming
import Mathlib.Data.List.Basic

/-! The ends of a phrase and the blanks inside it. A phrase is trimmed whatever its parts are, a missing
part is as good as none, and closing up leaves out the blanks before marks and keeps the rest. -/

namespace HtmlTree

open Text

variable {Kind : Type} {Value : Kind → Type}

/-- Whether a part leaves a trace in a phrase. -/
def Part.isPresent : Part Value → Bool
  | .missing => false
  | .string _ | .node _ => true

theorem Part.isSome_piece? (settings : Settings) (part : Part Value) :
    (part.piece? settings).isSome = part.isPresent := by
  cases part <;> rfl

theorem Part.isTrimmed_piece? {settings : Settings} {part : Part Value} {piece : String}
    (found : part.piece? settings = some piece) : IsTrimmed piece.toList := by
  cases part with
  | missing => cases found
  | string | node =>
    cases found
    exact isTrimmed_trim _

namespace Phrase

/-- Whether there is a blank at a place and a mark at the next. -/
def blankBeforeMark (characters : List Char) (place : Nat) : Bool :=
  characters[place]?.any isBlank && characters[place + 1]?.any isMark

/-- The characters at all other places than those that are left out, in order. -/
def leavingOut (out : Nat → Bool) (characters : List Char) : List Char :=
  ((List.range characters.length).filter (!out ·)).filterMap (characters[·]?)

theorem leavingOut_cons (out : Nat → Bool) (c : Char) (rest : List Char) :
    leavingOut out (c :: rest) =
      if out 0 then leavingOut (fun place => out (place + 1)) rest
      else c :: leavingOut (fun place => out (place + 1)) rest := by
  have tail : ((List.map Nat.succ (List.range rest.length)).filter (!out ·)).filterMap
      ((c :: rest)[·]?) = leavingOut (fun place => out (place + 1)) rest := by
    -- The places behind the first are those of the rest, each one further on.
    rw [List.filter_map, List.filterMap_map]
    rfl
  rw [← tail, leavingOut, List.length_cons, List.range_succ_eq_map, List.filter_cons]
  cases out 0 <;> rfl

theorem blankBeforeMark_zero (c : Char) (rest : List Char) :
    blankBeforeMark (c :: rest) 0 = (isBlank c && beginsWithMark rest) := by
  cases rest <;> rfl

theorem closeUp_eq_leavingOut (characters : List Char) :
    closeUp characters = leavingOut (blankBeforeMark characters) characters := by
  induction characters with
  | nil => rfl
  | cons c rest ih =>
    rw [leavingOut_cons, blankBeforeMark_zero, closeUp, ih]
    rfl

/-- Nothing stands behind the last character, so it is kept. -/
theorem getLast?_closeUp (characters : List Char) :
    (closeUp characters).getLast? = characters.getLast? := by
  induction characters with
  | nil => rfl
  | cons c rest ih =>
    rw [closeUp]
    split
    · rename_i left
      cases rest with
      | nil => simp [beginsWithMark] at left
      | cons next others => rw [ih, List.getLast?_cons_cons]
    · rw [List.getLast?_cons, List.getLast?_cons, ih]

theorem isTrimmed_closeUp {characters : List Char} (trimmed : IsTrimmed characters) :
    IsTrimmed (closeUp characters) := by
  constructor
  · cases characters with
    | nil => nofun
    | cons c rest =>
      have kept : isBlank c = false := trimmed.head c rfl
      rw [closeUp, kept]
      exact trimmed.head
  · rw [getLast?_closeUp]
    exact trimmed.last

theorem isTrimmed_joined (settings : Settings) (phrase : Phrase Value) :
    IsTrimmed (phrase.joined settings).toList :=
  isTrimmed_trim _

theorem isTrimmed_render (settings : Settings) (phrase : Phrase Value) :
    IsTrimmed (phrase.render settings).toList := by
  unfold render
  split
  · rw [String.toList_ofList]
    exact isTrimmed_closeUp (isTrimmed_joined settings phrase)
  · exact isTrimmed_joined settings phrase

/-- The pieces that a phrase is joined from are those of the parts that are present. -/
theorem pieces_filter_isPresent (settings : Settings) (parts : List (Part Value)) :
    (parts.filter Part.isPresent).filterMap (Part.piece? settings) =
      parts.filterMap (Part.piece? settings) := by
  rw [List.filterMap_filter]
  apply List.filterMap_congr
  intro part _
  rw [← Part.isSome_piece? settings part]
  cases part.piece? settings <;> rfl

theorem render_congr_present {settings : Settings} {phrase : Phrase Value} {others : List (Part Value)}
    (same : others.filter Part.isPresent = phrase.parts.filter Part.isPresent) :
    render settings { phrase with parts := others } = phrase.render settings := by
  have pieces := congrArg (List.filterMap (Part.piece? settings)) same
  rw [pieces_filter_isPresent, pieces_filter_isPresent] at pieces
  unfold render joined
  rw [pieces]

/-- A phrase begins and ends with no blank, closed up or not. Missing parts do not show in it, wherever
they stand. And closing it up leaves out exactly the blanks that stand right before a mark. -/
theorem render_trimmed_closedUp (settings : Settings) (phrase : Phrase Value) :
    (∀ tight, IsTrimmed ((phrase.tighten tight).render settings).toList) ∧
    (∀ others : List (Option (Part Value)),
      (others.map Part.ofOption).filter Part.isPresent = phrase.parts.filter Part.isPresent →
      render settings { phrase with parts := others.map Part.ofOption } = phrase.render settings) ∧
    let loose := ((phrase.tighten false).render settings).toList
    ((phrase.tighten true).render settings).toList = leavingOut (blankBeforeMark loose) loose := by
  refine ⟨fun tight => isTrimmed_render settings _, fun others same => ?_, ?_⟩
  · exact render_congr_present same
  · intro loose
    rw [← closeUp_eq_leavingOut]
    exact String.toList_ofList

/-- A phrase whose separator has a blank before a mark, with a part that comes to nothing. -/
private def listed : Phrase (fun _ : Unit => Unit) :=
  ⟨" , ", true, [.string " a ", .missing, .string "", .node (.text "b  .")]⟩

theorem render_trimmed_closedUp_listed :
    let others := [some (.string " a "), some (.string ""), none, some .missing,
      some (.node (.text "b  ."))]
    (others.map Part.ofOption).filter Part.isPresent = listed.parts.filter Part.isPresent ∧
      render .standard { listed with parts := others.map Part.ofOption } = "a, , b ." ∧
      (listed.tighten false).render .standard = "a ,  , b  ." := by
  intro others
  have same : (others.map Part.ofOption).filter Part.isPresent =
      listed.parts.filter Part.isPresent := rfl
  obtain ⟨_, missing, _⟩ := render_trimmed_closedUp .standard listed
  have written : listed.render .standard = "a, , b ." := by decide
  exact ⟨same, (missing others same).trans written, by decide⟩

end Phrase

end HtmlTree
