import HtmlTree.Charset.Label
import HtmlTree.Text.Word

/-! Which character set a file is in: what its byte order mark says, what its first four bytes show,
what the text after them declares, and last of all UTF-8. -/

namespace HtmlTree.Charset

open Text

/-- What the first four bytes show: how many bytes a character takes, which of them holds the
low half of ASCII, and a name where these bytes are a mark rather than text. -/
structure Signature where
  width : Nat
  offset : Nat
  name : Option String

namespace Signature

/-- The order of the bytes of one character, where there are several. -/
def order? (signature : Signature) : Option ByteOrder :=
  if signature.width ≤ 1 then none
  else if signature.offset = 0 then some .little
  else if signature.offset + 1 = signature.width then some .big
  else none

def ofBytes : UInt8 → UInt8 → UInt8 → UInt8 → Signature
  | 0x00, 0x00, 0xFE, 0xFF => ⟨4, 3, some "ucs-4be"⟩
  | 0xFF, 0xFE, 0x00, 0x00 => ⟨4, 0, some "ucs-4le"⟩
  | 0x00, 0x00, 0xFF, 0xFE => ⟨4, 2, none⟩
  | 0xFE, 0xFF, 0x00, 0x00 => ⟨4, 1, none⟩
  | 0xFE, 0xFF, _, _ => ⟨2, 1, some "utf-16be"⟩
  | 0xFF, 0xFE, _, _ => ⟨2, 0, some "utf-16le"⟩
  | 0xEF, 0xBB, 0xBF, _ => ⟨1, 0, some "utf-8"⟩
  | 0x00, 0x00, 0x00, 0x3C => ⟨4, 3, none⟩
  | 0x3C, 0x00, 0x00, 0x00 => ⟨4, 0, none⟩
  | 0x00, 0x00, 0x3C, 0x00 => ⟨4, 2, none⟩
  | 0x00, 0x3C, 0x00, 0x00 => ⟨4, 1, none⟩
  | 0x00, 0x3C, 0x00, 0x3F => ⟨2, 1, none⟩
  | 0x3C, 0x00, 0x3F, 0x00 => ⟨2, 0, none⟩
  | 0x4C, 0x6F, 0xA7, 0x94 => ⟨1, 0, some "ebcdic"⟩
  | _, _, _, _ => ⟨1, 0, none⟩

end Signature

/-- Every `width`-th byte, beginning after `skip` of them. -/
def everyNth (width : Nat) : Nat → List UInt8 → List UInt8
  | _, [] => []
  | 0, byte :: rest => byte :: everyNth width (width - 1) rest
  | skip + 1, _ :: rest => everyNth width skip rest

def isQuote (c : Char) : Bool := c == '\x22' || c == '\x27'

/-- The label that a text declares, quoted or not. An unquoted one runs to the next quote. -/
def declared? (text : List Char) : Option String :=
  (afterFirst? "encoding=".toList text <|> afterFirst? "charset=".toList text).map fun rest =>
    String.ofList ((rest.dropWhile isQuote).takeWhile (!isQuote ·))

/-- Lower case, as far as a label can tell: besides the ASCII capitals, only the Kelvin sign has a
lower case in ASCII. -/
def lowerLabel (label : String) : String :=
  String.ofList (label.toList.map fun c => if c = '\u212A' then 'k' else c.toLower)

/-- Spellings that are put right wherever they stand in a label, first to last. -/
def corrections : List (String × String) :=
  [("us-ascii", "ascii"), ("utf8", "utf-8"), ("shift-jis", "shift_jis")]

/-- A label in lower case, with its spelling put right. -/
def corrected (label : String) : String :=
  corrections.foldl (fun spelled (wrong, right) => replaceWord wrong right spelled)
    (lowerLabel label)

/-- A label as it is meant: UTF-16 goes with the byte order that the file shows. -/
def qualified (signature : Signature) (label : String) : String :=
  match corrected label, signature.order? with
  | "utf-16", some .little => "utf-16le"
  | "utf-16", some .big => "utf-16be"
  | spelled, _ => spelled

/-- How many bytes after the first four are searched for a declaration. -/
def windowSize : Nat := 512

/-- The bytes searched, filled up with zeros. -/
def window (bytes : List UInt8) : List UInt8 :=
  let seen := bytes.take windowSize
  seen ++ List.replicate (windowSize - seen.length) 0

/-- The labels found for a file, the one that it declares before the one that its first bytes show;
nothing for a file of fewer than four bytes. -/
def candidates? : List UInt8 → Option (List String)
  | first :: second :: third :: fourth :: rest =>
    if rest.isEmpty then some ["utf-8"]
    else
      let signature := Signature.ofBytes first second third fourth
      let text := Utf8.decode (everyNth signature.width signature.offset (window rest))
      some (((declared? text.toList).map (qualified signature)).toList ++ signature.name.toList)
  | _ => none

/-- A way to find out how a file without a byte order mark is to be decoded: the labels found for its
bytes, the likeliest first, unless the search for them fails, and the decoders of the labels known. -/
structure Detector where
  candidates? : List UInt8 → Option (List String)
  decoder? : String → Option (List UInt8 → String)
  decoder_utf8 : decoder? "UTF-8" = some Utf8.decode

namespace Detector

def standard : Detector where
  candidates? := Charset.candidates?
  decoder? label := (ofLabel? label).map Charset.decode
  decoder_utf8 := rfl

/-- The decoder of the likeliest label, and the one for UTF-8 where the search fails or the label is
not known. A search that finds no label stands for the label of UTF-8. -/
def decoder (detector : Detector) (bytes : List UInt8) : List UInt8 → String :=
  ((detector.candidates? bytes).bind fun labels =>
    detector.decoder? (labels.headD "UTF-8")).getD Utf8.decode

/-- The text of a file. A byte order mark decides and is left out; otherwise detection does. -/
def decodeFile (detector : Detector) (bytes : List UInt8) : String :=
  match bytes with
  | 0xEF :: 0xBB :: 0xBF :: rest => Utf8.decode rest
  | 0xFE :: 0xFF :: rest => Utf16.decode .big rest
  | 0xFF :: 0xFE :: rest => Utf16.decode .little rest
  | _ => detector.decoder bytes bytes

end Detector

end HtmlTree.Charset
