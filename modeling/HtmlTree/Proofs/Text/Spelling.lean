/-! Lists spelled out of pieces: when the pieces can be told apart again. -/

namespace HtmlTree.Text

variable {α β : Type}

/-- A word ends at the first item that cannot stand in a word, so what follows it is determined. -/
theorem word_unique (inWord : α → Prop) {first second rest others : List α}
    (within : ∀ item ∈ first, inWord item) (within' : ∀ item ∈ second, inWord item)
    (stop : ∀ item ∈ rest.head?, ¬ inWord item) (stop' : ∀ item ∈ others.head?, ¬ inWord item)
    (same : first ++ rest = second ++ others) : first = second ∧ rest = others := by
  induction first generalizing second with
  | nil =>
    cases second with
    | nil => exact ⟨rfl, same⟩
    | cons item items =>
      have found : item ∈ rest.head? := by simp [show rest = item :: (items ++ others) from same]
      exact absurd (within' item (by simp)) (stop item found)
  | cons item items ih =>
    cases second with
    | nil =>
      have found : item ∈ others.head? := by
        simp [show others = item :: (items ++ rest) from same.symm]
      exact absurd (within item (by simp)) (stop' item found)
    | cons other remaining =>
      obtain ⟨rfl, tails⟩ := List.cons.inj same
      obtain ⟨rfl, kept⟩ := ih (fun item member => within item (by simp [member]))
        (fun item member => within' item (by simp [member])) tails
      exact ⟨rfl, kept⟩

/-- Separated pieces are the first of them and each other one behind a separator. -/
theorem intercalate_cons_eq (separator first : List α) (later : List (List α)) :
    separator.intercalate (first :: later) = first ++ later.flatMap (separator ++ ·) := by
  induction later generalizing first with
  | nil => simp
  | cons second later ih =>
    rw [List.intercalate_cons_cons, ih, List.flatMap_cons, List.append_assoc, List.append_assoc]

/-- Among valid items, the one that a list begins with is determined, and so is what follows it. -/
def PrefixCode (spell : α → List β) (valid : α → Prop) : Prop :=
  ∀ ⦃first second⦄, valid first → valid second → ∀ ⦃rest others⦄,
    spell first ++ rest = spell second ++ others → first = second ∧ rest = others

/-- Items of a prefix code that are written without a gap can be read back. -/
theorem PrefixCode.flatMap_inj {spell : α → List β} {valid : α → Prop}
    (code : PrefixCode spell valid) (written : ∀ item, valid item → spell item ≠ [])
    {first second : List α} (validFirst : ∀ item ∈ first, valid item)
    (validSecond : ∀ item ∈ second, valid item)
    (same : first.flatMap spell = second.flatMap spell) : first = second := by
  induction first generalizing second with
  | nil =>
    cases second with
    | nil => rfl
    | cons item items =>
      have nothing := (List.append_eq_nil_iff.mp same.symm).1
      exact absurd nothing (written item (validSecond item (by simp)))
  | cons item items ih =>
    cases second with
    | nil =>
      have nothing := (List.append_eq_nil_iff.mp same).1
      exact absurd nothing (written item (validFirst item (by simp)))
    | cons other others =>
      obtain ⟨rfl, tails⟩ := code (validFirst item (by simp)) (validSecond other (by simp)) same
      rw [ih (fun item member => validFirst item (by simp [member]))
        (fun item member => validSecond item (by simp [member])) tails]

end HtmlTree.Text
