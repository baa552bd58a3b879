import HtmlTree.Text.AsciiCase
import Mathlib.Data.List.Forall2
import Mathlib.Data.Setoid.Basic

/-! Names that differ only in the case of their ASCII letters. They are the names with one form in lower
case. -/

namespace HtmlTree.Text

/-- The capital of a small ASCII letter stands 32 places before it. -/
def IsCapitalOf (c d : Char) : Prop := c.isUpper = true ∧ d.val = c.val + 32

def SameLetter (c d : Char) : Prop := c = d ∨ IsCapitalOf c d ∨ IsCapitalOf d c

def SameName (first second : String) : Prop :=
  List.Forall₂ SameLetter first.toList second.toList

theorem IsCapitalOf.toLower_eq {c d : Char} (capital : IsCapitalOf c d) :
    c.toLower = d ∧ d.toLower = d := by
  obtain ⟨upper, place⟩ := capital
  have lowered : c.toLower = d := Char.ext ((val_toLower upper).trans place.symm)
  have small : d.isUpper = false := lowered ▸ isUpper_toLower c
  exact ⟨lowered, toLower_eq_self small⟩

theorem isCapitalOf_toLower {c : Char} (upper : c.isUpper = true) : IsCapitalOf c c.toLower :=
  ⟨upper, val_toLower upper⟩

theorem sameLetter_iff {c d : Char} : SameLetter c d ↔ c.toLower = d.toLower := by
  constructor
  · rintro (rfl | capital | capital)
    · rfl
    · exact capital.toLower_eq.1.trans capital.toLower_eq.2.symm
    · exact capital.toLower_eq.2.trans capital.toLower_eq.1.symm
  · intro same
    cases upper : c.isUpper with
    | false =>
      rw [toLower_eq_self upper] at same
      cases upper' : d.isUpper with
      | false => exact .inl (same.trans (toLower_eq_self upper'))
      | true => exact .inr (.inr (same ▸ isCapitalOf_toLower upper'))
    | true =>
      cases upper' : d.isUpper with
      | false =>
        rw [toLower_eq_self upper'] at same
        exact .inr (.inl (same ▸ isCapitalOf_toLower upper))
      | true =>
        have places : c.val + 32 = d.val + 32 := by
          rw [← val_toLower upper, ← val_toLower upper', same]
        exact .inl (Char.ext (by simpa using places))

theorem sameName_iff {first second : String} :
    SameName first second ↔ asciiLower first = asciiLower second := by
  have letters : SameLetter = fun c d => c.toLower = d.toLower := by
    funext c d
    exact propext sameLetter_iff
  rw [SameName, letters, asciiLower, asciiLower, String.ofList_inj, ← List.forall₂_eq_eq_eq,
    List.forall₂_map_left_iff, List.forall₂_map_right_iff]

/-- Names up to the case of their ASCII letters. -/
def ignoringCase : Setoid String where
  r := SameName
  iseqv :=
    { refl := fun _ => sameName_iff.mpr rfl
      symm := fun same => sameName_iff.mpr (sameName_iff.mp same).symm
      trans := fun same next => sameName_iff.mpr ((sameName_iff.mp same).trans (sameName_iff.mp next)) }

end HtmlTree.Text
