import HtmlTree.Proofs.Text.Spelling
import HtmlTree.Text.Escaped

/-! Escaping, character by character. What is written for a text is what is written for each of its
characters in turn, and it can be read back. -/

namespace HtmlTree.Text

/-- What escaping writes for one character. -/
def escapeChar (c : Char) : List Char :=
  match reference? c with
  | some reference => reference.toList
  | none => [c]

theorem escapeChar_of_none {c : Char} (kept : reference? c = none) : escapeChar c = [c] := by
  rw [escapeChar, kept]

/-- Five characters are written as references, and every other as itself. -/
theorem escapeChar_cases (c : Char) :
    c = '&' ∧ escapeChar c = "&amp;".toList ∨ c = '<' ∧ escapeChar c = "&lt;".toList ∨
      c = '>' ∧ escapeChar c = "&gt;".toList ∨ c = '\x22' ∧ escapeChar c = "&quot;".toList ∨
      c = '\x27' ∧ escapeChar c = "&#x27;".toList ∨
      (c ≠ '&' ∧ c ≠ '<' ∧ c ≠ '>' ∧ c ≠ '\x22' ∧ c ≠ '\x27') ∧ escapeChar c = [c] := by
  simp only [escapeChar]
  generalize found : reference? c = reference
  unfold reference? at found
  split at found <;> subst found
  · exact .inl ⟨rfl, rfl⟩
  · exact .inr (.inl ⟨rfl, rfl⟩)
  · exact .inr (.inr (.inl ⟨rfl, rfl⟩))
  · exact .inr (.inr (.inr (.inl ⟨rfl, rfl⟩)))
  · exact .inr (.inr (.inr (.inr (.inl ⟨rfl, rfl⟩))))
  · rename_i amp less greater quote apostrophe
    exact .inr (.inr (.inr (.inr (.inr ⟨⟨amp, less, greater, quote, apostrophe⟩, rfl⟩))))

namespace Escaped

theorem Progress.toList_step (progress : Progress) (c : Char) :
    (progress.step c).written.toList = progress.written.toList ++ escapeChar c := by
  unfold Progress.step escapeChar
  cases reference? c <;> simp

theorem Progress.replaced_step (progress : Progress) (c : Char) :
    (progress.step c).replaced = (progress.replaced || (reference? c).isSome) := by
  unfold Progress.step
  cases reference? c <;> simp

theorem Progress.toList_foldl (progress : Progress) (characters : List Char) :
    (characters.foldl Progress.step progress).written.toList =
      progress.written.toList ++ characters.flatMap escapeChar := by
  induction characters generalizing progress with
  | nil => simp
  | cons c rest ih => simp [ih, Progress.toList_step]

theorem Progress.replaced_foldl (progress : Progress) (characters : List Char) :
    (characters.foldl Progress.step progress).replaced =
      (progress.replaced || characters.any fun c => (reference? c).isSome) := by
  induction characters generalizing progress with
  | nil => simp
  | cons c rest ih => simp [ih, Progress.replaced_step, Bool.or_assoc]

end Escaped

/-- A text without any of the five characters is written as it is. -/
theorem flatMap_escapeChar_of_none {characters : List Char}
    (kept : ∀ c ∈ characters, reference? c = none) : characters.flatMap escapeChar = characters := by
  induction characters with
  | nil => rfl
  | cons c rest ih =>
    rw [List.flatMap_cons, escapeChar_of_none (kept c (by simp)),
      ih fun other member => kept other (by simp [member]), List.singleton_append]

theorem toList_escape (text : String) : (escape text).toList = text.toList.flatMap escapeChar := by
  unfold escape Escaped.ofText
  dsimp only
  split
  · simp [Escaped.Progress.toList_foldl]
  · rename_i kept
    rw [Escaped.Progress.replaced_foldl, Bool.false_or, List.any_eq_true] at kept
    refine (flatMap_escapeChar_of_none ?_).symm
    intro c member
    cases found : reference? c with
    | none => rfl
    | some reference => exact absurd ⟨c, member, by rw [found, Option.isSome_some]⟩ kept

/-- The character that a reference stands for, read behind its first character, and what is left. -/
def readReference? : List Char → Option (Char × List Char)
  | 'a' :: 'm' :: 'p' :: ';' :: rest => some ('&', rest)
  | 'l' :: 't' :: ';' :: rest => some ('<', rest)
  | 'g' :: 't' :: ';' :: rest => some ('>', rest)
  | 'q' :: 'u' :: 'o' :: 't' :: ';' :: rest => some ('\x22', rest)
  | '#' :: 'x' :: '2' :: '7' :: ';' :: rest => some ('\x27', rest)
  | _ => none

/-- The first character of escaped text, read back, and what is left to read. -/
def readChar? : List Char → Option (Char × List Char)
  | [] => none
  | c :: rest => if c = '&' then readReference? rest else some (c, rest)

theorem readChar?_escapeChar (c : Char) (rest : List Char) :
    readChar? (escapeChar c ++ rest) = some (c, rest) := by
  rcases escapeChar_cases c with
    ⟨rfl, -⟩ | ⟨rfl, -⟩ | ⟨rfl, -⟩ | ⟨rfl, -⟩ | ⟨rfl, -⟩ | ⟨plain, spelled⟩
  case inr.inr.inr.inr.inr => simp [spelled, readChar?, plain.1]
  all_goals rfl

/-- What is written for a character is not the beginning of what is written for another. -/
theorem escapeChar_prefixCode : PrefixCode escapeChar fun _ => True := by
  intro first second _ _ rest others same
  have read := readChar?_escapeChar first rest
  rw [same, readChar?_escapeChar second others] at read
  injection read with pair
  injection pair with chars tails
  exact ⟨chars.symm, tails.symm⟩

theorem escapeChar_ne_nil (c : Char) : escapeChar c ≠ [] := by
  rcases escapeChar_cases c with
    ⟨-, spelled⟩ | ⟨-, spelled⟩ | ⟨-, spelled⟩ | ⟨-, spelled⟩ | ⟨-, spelled⟩ | ⟨-, spelled⟩ <;>
    simp [spelled]

theorem escape_injective {first second : String} (same : escape first = escape second) :
    first = second := by
  apply String.toList_inj.mp
  apply escapeChar_prefixCode.flatMap_inj (fun c _ => escapeChar_ne_nil c)
    (fun _ _ => trivial) (fun _ _ => trivial)
  rw [← toList_escape, ← toList_escape, same]

/-- What is written for a character holds no angle bracket and no quotation mark. -/
theorem not_special_of_mem_escapeChar {c written : Char} (member : written ∈ escapeChar c) :
    written ≠ '<' ∧ written ≠ '>' ∧ written ≠ '\x22' ∧ written ≠ '\x27' := by
  rcases escapeChar_cases c with
    ⟨-, spelled⟩ | ⟨-, spelled⟩ | ⟨-, spelled⟩ | ⟨-, spelled⟩ | ⟨-, spelled⟩ | ⟨plain, spelled⟩
  case inr.inr.inr.inr.inr =>
    obtain rfl : written = c := by simpa [spelled] using member
    exact plain.2
  all_goals
    rw [spelled] at member
    grind

theorem not_special_of_mem_escape {text : String} {written : Char}
    (member : written ∈ (escape text).toList) :
    written ≠ '<' ∧ written ≠ '>' ∧ written ≠ '\x22' ∧ written ≠ '\x27' := by
  rw [toList_escape] at member
  obtain ⟨c, _, found⟩ := List.mem_flatMap.mp member
  exact not_special_of_mem_escapeChar found

end HtmlTree.Text
