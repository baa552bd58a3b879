import HtmlTree.Proofs.Text.Reference
import Mathlib.Logic.ExistsUnique

/-! Escaped text, read back. Escaping reaches exactly the texts without angle brackets and quotation
marks in which every ampersand begins a reference, and each of them from one text only. -/

namespace HtmlTree.Text

/-- All references that escaping writes. -/
def references : List String := ["&amp;", "&lt;", "&gt;", "&quot;", "&#x27;"]

/-- Text in which nothing can be taken for markup. -/
structure IsSafe (written : List Char) : Prop where
  unmarked : ∀ c ∈ written, c ≠ '<' ∧ c ≠ '>' ∧ c ≠ '\x22' ∧ c ≠ '\x27'
  referring : ∀ before after, written = before ++ '&' :: after →
    ∃ reference ∈ references, reference.toList <+: '&' :: after

theorem IsSafe.of_append {before after : List Char} (safe : IsSafe (before ++ after)) :
    IsSafe after where
  unmarked c member := safe.unmarked c (List.mem_append_right before member)
  referring first second split :=
    safe.referring (before ++ first) second (by rw [split, List.append_assoc])

theorem reference?_eq_none_iff {c : Char} :
    reference? c = none ↔ c ∉ ['&', '<', '>', '\x22', '\x27'] := by
  unfold reference?
  split <;> simp_all

theorem mem_references {c : Char} {reference : String} (found : reference? c = some reference) :
    reference ∈ references := by
  unfold reference? at found
  split at found <;> simp_all [references]

theorem escapeChar_of_some {c : Char} {reference : String}
    (found : reference? c = some reference) : escapeChar c = reference.toList := by
  rw [escapeChar, found]

/-- The only ampersand in what is written for a character begins a reference. -/
theorem ampersand_of_escapeChar {c : Char} {before after : List Char}
    (spelled : escapeChar c = before ++ '&' :: after) :
    ∃ reference ∈ references, '&' :: after = reference.toList := by
  cases found : reference? c with
  | none =>
    rw [escapeChar_of_none found] at spelled
    have member : '&' ∈ [c] := by simp [spelled]
    cases List.mem_singleton.mp member
    cases found
  | some reference =>
    have member := mem_references found
    rw [escapeChar_of_some found] at spelled
    cases before with
    | nil => exact ⟨reference, member, spelled.symm⟩
    | cons first before =>
      have single : ∀ reference ∈ references, '&' ∉ reference.toList.tail := by decide
      exact absurd (by simp [spelled]) (single reference member)

theorem isSafe_flatMap_escapeChar (characters : List Char) :
    IsSafe (characters.flatMap escapeChar) where
  unmarked written member := by
    obtain ⟨c, _, found⟩ := List.mem_flatMap.mp member
    exact not_special_of_mem_escapeChar found
  referring before after split := by
    induction characters generalizing before with
    | nil => simp at split
    | cons c rest ih =>
      rw [List.flatMap_cons] at split
      -- The ampersand stands behind what is written for `c`, or inside it.
      rcases List.append_eq_append_iff.mp split with
        ⟨middle, _, tail⟩ | ⟨middle, spelled, tail⟩
      · exact ih middle tail
      · cases middle with
        | nil => exact ih [] tail.symm
        | cons first middle =>
          rw [List.cons_append] at tail
          obtain ⟨rfl, rfl⟩ := List.cons.inj tail
          obtain ⟨reference, member, whole⟩ := ampersand_of_escapeChar spelled
          exact ⟨reference, member, rest.flatMap escapeChar, by rw [← whole, List.cons_append]⟩

theorem eq_append_of_readReference? {written rest : List Char} {c : Char}
    (read : readReference? written = some (c, rest)) : '&' :: written = escapeChar c ++ rest := by
  unfold readReference? at read
  split at read <;> cases read <;> rfl

/-- A character that is read was written as it is or as its reference. -/
theorem eq_append_of_readChar? {written rest : List Char} {c : Char}
    (read : readChar? written = some (c, rest)) :
    c ≠ '&' ∧ written = c :: rest ∨ written = escapeChar c ++ rest := by
  cases written with
  | nil => cases read
  | cons first others =>
    rw [readChar?] at read
    split at read
    · rename_i ampersand
      exact .inr (ampersand ▸ eq_append_of_readReference? read)
    · rename_i plain
      cases read
      exact .inl ⟨plain, rfl⟩

theorem length_lt_of_readChar? {written rest : List Char} {c : Char}
    (read : readChar? written = some (c, rest)) : rest.length < written.length := by
  rcases eq_append_of_readChar? read with ⟨_, rfl⟩ | rfl
  · rw [List.length_cons]
    omega
  · have spelled := List.length_pos_iff.mpr (escapeChar_ne_nil c)
    rw [List.length_append]
    omega

/-- Safe text is read without loss. -/
theorem IsSafe.eq_append {written rest : List Char} {c : Char} (safe : IsSafe written)
    (read : readChar? written = some (c, rest)) : written = escapeChar c ++ rest := by
  rcases eq_append_of_readChar? read with ⟨noAmpersand, rfl⟩ | spelled
  · have unmarked := safe.unmarked c (by simp)
    rw [escapeChar_of_none (reference?_eq_none_iff.mpr (by simp [noAmpersand, unmarked]))]
    rfl
  · exact spelled

theorem isSome_readReference? {after : List Char}
    (begun : ∃ reference ∈ references, reference.toList <+: '&' :: after) :
    (readReference? after).isSome := by
  obtain ⟨reference, member, rest, spelled⟩ := begun
  simp only [references, List.mem_cons, List.not_mem_nil, or_false] at member
  rcases member with rfl | rfl | rfl | rfl | rfl <;> cases spelled <;> rfl

theorem IsSafe.isSome_readChar? {c : Char} {rest : List Char} (safe : IsSafe (c :: rest)) :
    (readChar? (c :: rest)).isSome := by
  rw [readChar?]
  split
  · rename_i ampersand
    exact isSome_readReference? (safe.referring [] rest (by rw [ampersand, List.nil_append]))
  · rfl

/-- Each reference becomes the character that it stands for, in one pass from the left. An ampersand
that begins no reference stays. -/
def unescapeAll (written : List Char) : List Char :=
  match written with
  | [] => []
  | c :: rest =>
    match _ : readChar? (c :: rest) with
    | some (original, left) => original :: unescapeAll left
    | none => c :: unescapeAll rest
termination_by written.length
decreasing_by
  · exact length_lt_of_readChar? (by assumption)
  · simp

def unescape (written : String) : String :=
  String.ofList (unescapeAll written.toList)

theorem unescapeAll_of_readChar? {written left : List Char} {original : Char}
    (read : readChar? written = some (original, left)) :
    unescapeAll written = original :: unescapeAll left := by
  cases written with
  | nil => cases read
  | cons c rest =>
    rw [unescapeAll]
    split
    · rename_i found
      rw [found] at read
      cases read
      rfl
    · rename_i found
      rw [found] at read
      cases read

theorem unescapeAll_flatMap_escapeChar (characters : List Char) :
    unescapeAll (characters.flatMap escapeChar) = characters := by
  induction characters with
  | nil => rw [List.flatMap_nil, unescapeAll]
  | cons c rest ih =>
    rw [List.flatMap_cons, unescapeAll_of_readChar? (readChar?_escapeChar c _), ih]

theorem flatMap_unescapeAll {written : List Char} (safe : IsSafe written) :
    (unescapeAll written).flatMap escapeChar = written := by
  fun_induction unescapeAll written with
  | case1 => rfl
  | case2 c rest original left read ih =>
    have spelled := safe.eq_append read
    rw [spelled] at safe
    rw [List.flatMap_cons, ih safe.of_append, spelled]
  | case3 c rest read _ =>
    have found := safe.isSome_readChar?
    rw [read] at found
    cases found

theorem Escaped.unchanged_ofText (text : String) :
    (Escaped.ofText text).unchanged = true ↔ ∀ c ∈ text.toList, reference? c = none := by
  have replaced : (text.toList.foldl Progress.step ⟨"", false⟩).replaced = false ↔
      ∀ c ∈ text.toList, reference? c = none := by
    simp [Progress.replaced_foldl]
  rw [← replaced, ofText]
  split
  · rename_i written
    simp [written]
  · rename_i kept
    simp [kept]

theorem length_le_flatMap_escapeChar (characters : List Char) :
    characters.length ≤ (characters.flatMap escapeChar).length := by
  induction characters with
  | nil => simp
  | cons c rest ih =>
    have spelled := List.length_pos_iff.mpr (escapeChar_ne_nil c)
    rw [List.flatMap_cons, List.length_append, List.length_cons]
    omega

/-- A reference takes more room than the character that it stands for, so nothing that is written
behind it can make up for it. -/
theorem forall_none_of_flatMap_escapeChar_eq {characters : List Char}
    (same : characters.flatMap escapeChar = characters) : ∀ c ∈ characters, reference? c = none := by
  induction characters with
  | nil => nofun
  | cons c rest ih =>
    rw [List.flatMap_cons] at same
    cases found : reference? c with
    | none =>
      rw [escapeChar_of_none found] at same
      have tail := ih (List.cons.inj same).2
      simpa [found] using tail
    | some reference =>
      have long : ∀ reference ∈ references, 1 < reference.length := by decide
      have room := long reference (mem_references found)
      have lengths := congrArg List.length same
      have rest := length_le_flatMap_escapeChar rest
      rw [escapeChar_of_some found, List.length_append, List.length_cons, String.length_toList]
        at lengths
      omega

theorem escape_eq_self_iff {text : String} :
    escape text = text ↔ ∀ c ∈ text.toList, reference? c = none := by
  rw [← String.toList_inj, toList_escape]
  exact ⟨forall_none_of_flatMap_escapeChar_eq, flatMap_escapeChar_of_none⟩

theorem escape_unescape {written : String} (safe : IsSafe written.toList) :
    escape (unescape written) = written := by
  rw [← String.toList_inj, toList_escape, unescape, String.toList_ofList, flatMap_unescapeAll safe]

/-- Escaping is one to one onto the safe texts, and reading the references in one pass takes it back. A
text is handed back unchanged exactly if none of the five special characters is in it, that is, if it
is its own escaped form. -/
theorem escape_onto_safe :
    (∀ text, IsSafe (escape text).toList ∧ unescape (escape text) = text) ∧
    (∀ written : String, IsSafe written.toList ↔ ∃! text, escape text = written) ∧
    ∀ text : String,
      ((Escaped.ofText text).unchanged = true ↔
        ∀ c ∈ text.toList, c ∉ ['&', '<', '>', '\x22', '\x27']) ∧
      ((Escaped.ofText text).unchanged = true ↔ escape text = text) := by
  have safe (text : String) : IsSafe (escape text).toList := by
    rw [toList_escape]
    exact isSafe_flatMap_escapeChar text.toList
  refine ⟨fun text => ⟨safe text, ?_⟩, fun written => ⟨fun isSafe => ?_, ?_⟩, fun text => ⟨?_, ?_⟩⟩
  · rw [unescape, toList_escape, unescapeAll_flatMap_escapeChar, String.ofList_toList]
  · have spelled := escape_unescape isSafe
    exact ⟨unescape written, spelled, fun text same => escape_injective (same.trans spelled.symm)⟩
  · rintro ⟨text, rfl, _⟩
    exact safe text
  · simp only [Escaped.unchanged_ofText, reference?_eq_none_iff]
  · rw [Escaped.unchanged_ofText, escape_eq_self_iff]

example : unescape "&amp;lt; & &#x27;" = "&lt; & '" := by cbv

end HtmlTree.Text
