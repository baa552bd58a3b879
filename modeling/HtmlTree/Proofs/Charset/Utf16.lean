import HtmlTree.Charset.Utf16
import HtmlTree.Proofs.Charset.Utf8

/-! Text written in UTF-16, in either byte order, and read again. A character beyond U+FFFF becomes a
pair of surrogates, which is read as that one character. -/

namespace HtmlTree.Charset.Utf16

/-- The units of a character: its number, or the lead and the trail surrogate. -/
def units (c : Char) : List Nat :=
  if c.toNat < 0x10000 then [c.toNat]
  else
    [0xD800 + (c.toNat - 0x10000) / 0x400, 0xDC00 + (c.toNat - 0x10000) % 0x400]

/-- The two bytes of a unit. -/
def bytes (order : ByteOrder) (unit : Nat) : List UInt8 :=
  match order with
  | .little => [UInt8.ofNat (unit % 256), UInt8.ofNat (unit / 256)]
  | .big => [UInt8.ofNat (unit / 256), UInt8.ofNat (unit % 256)]

/-- The bytes of a text in UTF-16. -/
def encode (order : ByteOrder) (text : String) : List UInt8 :=
  text.toList.flatMap fun c => (units c).flatMap (bytes order)

theorem run_bytes (order : ByteOrder) {unit : Nat} (small : unit < 0x10000) (state : Option Nat)
    (text : String) (rest : List UInt8) :
    run order state text (bytes order unit ++ rest) =
      run order (step state unit).1 ((step state unit).2.foldl String.push text) rest := by
  have low : (UInt8.ofNat (unit % 256)).toNat = unit % 256 := Nat.mod_eq_of_lt (by omega)
  have high : (UInt8.ofNat (unit / 256)).toNat = unit / 256 := Nat.mod_eq_of_lt (by omega)
  have whole : unit / 256 * 256 + unit % 256 = unit := by omega
  cases order with
  | little =>
    simp only [bytes, List.cons_append, List.nil_append, run, Utf16.unit, low, high, whole]
  | big =>
    simp only [bytes, List.cons_append, List.nil_append, run, Utf16.unit, low, high, whole]

theorem step_plain {unit : Nat} (plain : unit < 0xD800 ∨ 0xDFFF < unit) :
    step none unit = (none, [Char.ofNat unit]) := by
  have notLead : isLead unit = false := by
    simp only [isLead, Bool.and_eq_false_iff, decide_eq_false_iff_not]
    omega
  have notTrail : isTrail unit = false := by
    simp only [isTrail, Bool.and_eq_false_iff, decide_eq_false_iff_not]
    omega
  simp only [step, begin, notLead, notTrail, Bool.false_eq_true, ↓reduceIte]

theorem step_lead {unit : Nat} (above : 0xD800 ≤ unit) (below : unit ≤ 0xDBFF) :
    step none unit = (some unit, []) := by
  have lead : isLead unit = true := by
    simp only [isLead, Bool.and_eq_true, decide_eq_true_eq]
    exact ⟨above, below⟩
  simp only [step, begin, lead, ↓reduceIte]

theorem step_trail {unit : Nat} (above : 0xDC00 ≤ unit) (below : unit ≤ 0xDFFF) (lead : Nat) :
    step (some lead) unit = (none, [pair lead unit]) := by
  have trail : isTrail unit = true := by
    simp only [isTrail, Bool.and_eq_true, decide_eq_true_eq]
    exact ⟨above, below⟩
  simp only [step, trail, ↓reduceIte]

/-- The units of a character are read as that character, which is no surrogate itself. -/
theorem run_units (order : ByteOrder) (c : Char) (text : String) (rest : List UInt8) :
    run order none text ((units c).flatMap (bytes order) ++ rest) =
      run order none (text.push c) rest := by
  have scalar : c.toNat < 0xD800 ∨ 0xDFFF < c.toNat ∧ c.toNat < 0x110000 := c.valid
  have same : Char.ofNat c.toNat = c := Char.ofNat_toNat c
  unfold units
  generalize c.toNat = value at scalar same ⊢
  split
  · rw [List.flatMap_singleton, run_bytes order (by omega), step_plain (by omega), same]
    rfl
  · have whole : pair (0xD800 + (value - 0x10000) / 0x400) (0xDC00 + (value - 0x10000) % 0x400) = c := by
      have number : 0x10000 + (value - 0x10000) / 0x400 * 0x400 + (value - 0x10000) % 0x400 = value := by
        omega
      rw [pair, Nat.add_sub_cancel_left, Nat.add_sub_cancel_left, number, same]
    rw [List.flatMap_cons, List.flatMap_singleton, List.append_assoc, run_bytes order (by omega),
      step_lead (by omega) (by omega), run_bytes order (by omega), step_trail (by omega) (by omega),
      whole]
    rfl

theorem decode_encode (order : ByteOrder) (text : String) :
    decode order (encode order text) = text := by
  rw [decode, encode, ← List.append_nil (text.toList.flatMap _), read_flatMap (run_units order),
    foldl_push, String.ofList_toList, String.empty_append]
  rfl

example : encode .big "a€💡" = [0x00, 0x61, 0x20, 0xAC, 0xD8, 0x3D, 0xDC, 0xA1] := by decide

end HtmlTree.Charset.Utf16
