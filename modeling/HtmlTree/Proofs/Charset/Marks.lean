import HtmlTree.Charset.Detection
import HtmlTree.Proofs.Charset.Utf16

/-! Files decoded with and without a byte order mark. Behind a mark the text is what was encoded,
whatever detection would have found; without one it is, if detection leaves it at UTF-8. -/

namespace HtmlTree.Charset

/-- The mark of a file in UTF-8. -/
def Utf8.mark : List UInt8 := [0xEF, 0xBB, 0xBF]

/-- The mark of a file in UTF-16. -/
def Utf16.mark : ByteOrder → List UInt8
  | .big => [0xFE, 0xFF]
  | .little => [0xFF, 0xFE]

namespace Utf8

/-- All bytes of a character are less than those that only UTF-16 marks have. -/
theorem lt_of_mem_utf8EncodeChar (c : Char) : ∀ byte ∈ String.utf8EncodeChar c, byte.toNat < 0xF8 := by
  unfold String.utf8EncodeChar
  generalize c.val.toNat = value
  dsimp only
  repeat' split
  all_goals
    simp only [List.forall_mem_cons, List.not_mem_nil, false_imp_iff, implies_true, and_true,
      UInt8.toNat_ofNat']
    omega

theorem lt_of_mem_encode {text : String} {byte : UInt8} (member : byte ∈ encode text) :
    byte.toNat < 0xF8 := by
  rw [encode_eq_flatMap] at member
  obtain ⟨c, -, inside⟩ := List.mem_flatMap.mp member
  exact lt_of_mem_utf8EncodeChar c byte inside

/-- Only a text that begins with U+FEFF looks like a marked one. -/
theorem head_of_encode_eq {text : String} {rest : List UInt8} (spelled : encode text = mark ++ rest) :
    text.toList.head? = some '\uFEFF' := by
  have first : ['\uFEFF'].utf8Encode ++ rest.toByteArray = text.toList.utf8Encode := by
    rw [List.utf8Encode, List.utf8Encode, ← encode_eq_flatMap, spelled, ← List.toByteArray_append]
    rfl
  obtain ⟨others, same⟩ := List.isPrefix_of_utf8Encode_append_eq_utf8Encode _ first
  rw [← same]
  rfl

end Utf8

namespace Detector

/-- The search for labels fails, or finds none, or finds one that is UTF-8 or not known. -/
def LeavesUtf8 (detector : Detector) (bytes : List UInt8) : Prop :=
  ∀ labels, detector.candidates? bytes = some labels → ∀ label ∈ labels.head?,
    ∀ decode ∈ detector.decoder? label, decode = Utf8.decode

theorem decoder_of_leavesUtf8 {detector : Detector} {bytes : List UInt8}
    (leaves : detector.LeavesUtf8 bytes) : detector.decoder bytes = Utf8.decode := by
  unfold decoder
  cases found : detector.candidates? bytes with
  | none => rfl
  | some labels =>
    rw [Option.bind_some]
    cases labels with
    | nil => rw [List.headD_nil, detector.decoder_utf8, Option.getD_some]
    | cons label others =>
      rw [List.headD_cons]
      cases known : detector.decoder? label with
      | none => rfl
      | some decode => exact leaves (label :: others) found label rfl decode known

theorem decodeFile_unmarked (detector : Detector) {text : String}
    (unmarked : text.toList.head? ≠ some '\uFEFF') :
    detector.decodeFile (Utf8.encode text) = detector.decoder (Utf8.encode text) (Utf8.encode text) := by
  unfold decodeFile
  split
  · rename_i spelled
    exact absurd (Utf8.head_of_encode_eq spelled) unmarked
  · rename_i spelled
    have small := Utf8.lt_of_mem_encode (spelled ▸ List.mem_cons_self ..)
    exact absurd small (by decide)
  · rename_i spelled
    have small := Utf8.lt_of_mem_encode (spelled ▸ List.mem_cons_self ..)
    exact absurd small (by decide)
  · rfl

/-- A byte order mark is left out and what was encoded behind it comes back, in each of the three
encodings and whatever detection finds. A text without a mark in front comes back from UTF-8 if
detection leaves it at that. -/
theorem decodeFile_encoded (detector : Detector) (text : String) :
    detector.decodeFile (Utf8.mark ++ Utf8.encode text) = text ∧
    (∀ order, detector.decodeFile (Utf16.mark order ++ Utf16.encode order text) = text) ∧
    (text.toList.head? ≠ some '\uFEFF' → detector.LeavesUtf8 (Utf8.encode text) →
      detector.decodeFile (Utf8.encode text) = text) := by
  refine ⟨Utf8.decode_encode text, fun order => ?_, fun unmarked leaves => ?_⟩
  · cases order with
    | little => exact Utf16.decode_encode .little text
    | big => exact Utf16.decode_encode .big text
  · rw [decodeFile_unmarked detector unmarked, decoder_of_leavesUtf8 leaves, Utf8.decode_encode]

/-- Finds in every file the label of a character set that does not exist. -/
private def bogus : Detector :=
  { standard with candidates? := fun _ => some ["bogus"] }

theorem decodeFile_encoded_bogus :
    standard.decodeFile (Utf8.mark ++ Utf8.encode "<meta charset=\x22latin1\x22>é💡") =
      "<meta charset=\x22latin1\x22>é💡" ∧
    standard.decodeFile ([0xFF, 0xFE] ++ Utf16.encode .little "\u0000\uFEFF💡") =
      "\u0000\uFEFF💡" ∧
    bogus.LeavesUtf8 (Utf8.encode "<meta charset=\x22bogus\x22>é💡") ∧
    bogus.decodeFile (Utf8.encode "<meta charset=\x22bogus\x22>é💡") =
      "<meta charset=\x22bogus\x22>é💡" := by
  have leaves : bogus.LeavesUtf8 (Utf8.encode "<meta charset=\x22bogus\x22>é💡") := by
    intro labels found label first decode known
    cases found
    cases first
    have unknown : bogus.decoder? "bogus" = none := by rfl
    rw [unknown] at known
    cases known
  exact ⟨(decodeFile_encoded standard _).1, (decodeFile_encoded standard _).2.1 .little, leaves,
    (decodeFile_encoded bogus _).2.2 (by decide) leaves⟩

end Detector

end HtmlTree.Charset
