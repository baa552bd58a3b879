import HtmlTree.Charset.Utf8

/-! Text written in UTF-8 and read again. The bytes of a character take the reader from between two
characters to between two characters, with that character read. -/

namespace HtmlTree.Charset

theorem foldl_push (characters : List Char) (text : String) :
    characters.foldl String.push text = text ++ String.ofList characters := by
  induction characters generalizing text with
  | nil => simp
  | cons c rest ih =>
    rw [List.foldl_cons, ih, String.push_eq_append, String.append_assoc]
    congr 1
    rw [← String.toList_inj]
    simp

/-- What reads the code of any single character as that character reads codes one after the other. -/
theorem read_flatMap {β : Type} {read : String → List UInt8 → β} {code : Char → List UInt8}
    (readChar : ∀ c text rest, read text (code c ++ rest) = read (text.push c) rest)
    (characters : List Char) (text : String) (rest : List UInt8) :
    read text (characters.flatMap code ++ rest) = read (characters.foldl String.push text) rest := by
  induction characters generalizing text with
  | nil => rfl
  | cons c others ih =>
    rw [List.flatMap_cons, List.append_assoc, readChar, ih, List.foldl_cons]

namespace Utf8

/-- The bytes of a text in UTF-8. -/
def encode (text : String) : List UInt8 := text.toUTF8.data.toList

theorem encode_eq_flatMap (text : String) :
    encode text = text.toList.flatMap String.utf8EncodeChar := by
  rw [encode, String.toUTF8_eq_toByteArray, ← String.utf8Encode_toList, List.utf8Encode,
    List.toList_data_toByteArray]

theorem run_ofNat {byte : Nat} (small : byte < 256) (state : Option Pending) (text : String)
    (rest : List UInt8) :
    run state text (UInt8.ofNat byte :: rest) =
      run (step state byte).1 ((step state byte).2.foldl String.push text) rest := by
  have same : (UInt8.ofNat byte).toNat = byte := Nat.mod_eq_of_lt small
  rw [run, same]

/-- The last byte of a character brings its last six bits. -/
theorem run_last {value lower upper bits : Nat} (few : bits < 64) (above : lower ≤ bits + 0x80)
    (below : bits + 0x80 ≤ upper) (text : String) (rest : List UInt8) :
    run (some ⟨value, 1, lower, upper⟩) text (UInt8.ofNat (bits + 0x80) :: rest) =
      run none (text.push (Char.ofNat (value * 64 + bits))) rest := by
  rw [run_ofNat (by omega)]
  simp only [step, above, below, and_self, ↓reduceIte, Nat.add_sub_cancel]
  rfl

/-- Any byte before it brings six bits as well, and leaves the next one free. -/
theorem run_next {value missing lower upper bits : Nat} (few : bits < 64)
    (above : lower ≤ bits + 0x80) (below : bits + 0x80 ≤ upper) (text : String) (rest : List UInt8) :
    run (some ⟨value, missing + 2, lower, upper⟩) text (UInt8.ofNat (bits + 0x80) :: rest) =
      run (some ⟨value * 64 + bits, missing + 1, 0x80, 0xBF⟩) text rest := by
  rw [run_ofNat (by omega)]
  simp only [step, above, below, and_self, ↓reduceIte, Nat.add_sub_cancel]
  rfl

theorem run_first_of_one {value : Nat} (below : value < 0x80) (text : String) (rest : List UInt8) :
    run none text (UInt8.ofNat value :: rest) = run none (text.push (Char.ofNat value)) rest := by
  rw [run_ofNat (by omega), step, begin, if_pos below]
  rfl

theorem run_first_of_two {value : Nat} (above : 2 ≤ value) (below : value < 0x20) (text : String)
    (rest : List UInt8) :
    run none text (UInt8.ofNat (value + 0xC0) :: rest) =
      run (some ⟨value, 1, 0x80, 0xBF⟩) text rest := by
  rw [run_ofNat (by omega), step, begin, if_neg (by omega), if_neg (by omega), if_pos (by omega),
    Nat.add_sub_cancel]
  rfl

theorem run_first_of_three {value : Nat} (below : value < 0x10) (text : String)
    (rest : List UInt8) :
    run none text (UInt8.ofNat (value + 0xE0) :: rest) =
      run (some ⟨value, 2, if value = 0 then 0xA0 else 0x80, if value = 0xD then 0x9F else 0xBF⟩)
        text rest := by
  rw [run_ofNat (by omega), step, begin, if_neg (by omega), if_neg (by omega), if_neg (by omega),
    if_pos (by omega), Nat.add_sub_cancel]
  simp only [Nat.add_eq_right, Nat.reduceEqDiff]
  rfl

theorem run_first_of_four {value : Nat} (below : value < 5) (text : String) (rest : List UInt8) :
    run none text (UInt8.ofNat (value + 0xF0) :: rest) =
      run (some ⟨value, 3, if value = 0 then 0x90 else 0x80, if value = 4 then 0x8F else 0xBF⟩)
        text rest := by
  rw [run_ofNat (by omega), step, begin, if_neg (by omega), if_neg (by omega), if_neg (by omega),
    if_neg (by omega), if_pos (by omega), Nat.add_sub_cancel]
  simp only [Nat.add_eq_right, Nat.reduceEqDiff]
  rfl

/-- The bytes of a character are read as that character. What follows the first byte is within its
bounds since the character has no shorter form and is no surrogate. -/
theorem run_utf8EncodeChar (c : Char) (text : String) (rest : List UInt8) :
    run none text (String.utf8EncodeChar c ++ rest) = run none (text.push c) rest := by
  have scalar : c.val.toNat < 0xD800 ∨ 0xDFFF < c.val.toNat ∧ c.val.toNat < 0x110000 := c.valid
  have same : Char.ofNat c.val.toNat = c := Char.ofNat_toNat c
  unfold String.utf8EncodeChar
  generalize c.val.toNat = value at scalar same ⊢
  dsimp only
  split
  · rw [List.singleton_append, run_first_of_one (by omega), same]
  split
  · have whole : value / 64 % 0x20 * 64 + value % 0x40 = value := by omega
    simp only [List.cons_append, List.nil_append]
    rw [run_first_of_two (by omega) (by omega), run_last (by omega) (by omega) (by omega), whole, same]
  split
  · have whole : (value / 4096 % 0x10 * 64 + value / 64 % 0x40) * 64 + value % 0x40 = value := by omega
    simp only [List.cons_append, List.nil_append]
    rw [run_first_of_three (by omega), run_next (by omega) (by split <;> omega) (by split <;> omega),
      run_last (by omega) (by omega) (by omega), whole, same]
  · have whole : ((value / 262144 % 8 * 64 + value / 4096 % 0x40) * 64 + value / 64 % 0x40) * 64 +
        value % 0x40 = value := by omega
    simp only [List.cons_append, List.nil_append]
    rw [run_first_of_four (by omega), run_next (by omega) (by split <;> omega) (by split <;> omega),
      run_next (by omega) (by omega) (by omega), run_last (by omega) (by omega) (by omega), whole, same]

theorem decode_encode (text : String) : decode (encode text) = text := by
  have read : run none "" (encode text) = (none, text) := by
    rw [encode_eq_flatMap, ← List.append_nil (text.toList.flatMap _),
      read_flatMap run_utf8EncodeChar, foldl_push, String.ofList_toList, String.empty_append]
    rfl
  rw [decode, read]

example : encode "aé€💡" = [0x61, 0xC3, 0xA9, 0xE2, 0x82, 0xAC, 0xF0, 0x9F, 0x92, 0xA1] := by decide

end Utf8

end HtmlTree.Charset
