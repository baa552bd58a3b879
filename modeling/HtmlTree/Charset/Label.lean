import HtmlTree.Charset.CodePage
import HtmlTree.Charset.Utf16
import HtmlTree.Text.AsciiCase

/-! Names of character sets, as files declare them. -/

namespace HtmlTree

open Text

inductive Charset where
  | utf8
  | utf16 (order : Charset.ByteOrder)
  | codePage (page : Charset.CodePage)
  /-- Decodes to nothing but one U+FFFD, being unsafe to decode. -/
  | replacement
  deriving DecidableEq

namespace Charset

def labels : List (Charset × List String) :=
  [(.utf8, ["unicode-1-1-utf-8", "unicode11utf8", "unicode20utf8", "utf-8", "utf8",
      "x-unicode20utf8"]),
   (.utf16 .little, ["csunicode", "iso-10646-ucs-2", "ucs-2", "unicode", "unicodefeff", "utf-16",
      "utf-16le"]),
   (.utf16 .big, ["unicodefffe", "utf-16be"]),
   (.codePage .windows1252, ["ansi_x3.4-1968", "ascii", "cp1252", "cp819", "csisolatin1",
      "ibm819", "iso-8859-1", "iso-ir-100", "iso8859-1", "iso88591", "iso_8859-1",
      "iso_8859-1:1987", "l1", "latin1", "us-ascii", "windows-1252", "x-cp1252"]),
   (.codePage .latin2, ["csisolatin2", "iso-8859-2", "iso-ir-101", "iso8859-2", "iso88592",
      "iso_8859-2", "iso_8859-2:1987", "l2", "latin2"]),
   (.codePage .latin9, ["csisolatin9", "iso-8859-15", "iso8859-15", "iso885915", "iso_8859-15",
      "l9"]),
   (.codePage .windows1251, ["cp1251", "windows-1251", "x-cp1251"]),
   (.codePage .koi8r, ["cskoi8r", "koi", "koi8", "koi8-r", "koi8_r"]),
   (.codePage .userDefined, ["x-user-defined"]),
   (.replacement, ["csiso2022kr", "hz-gb-2312", "iso-2022-cn", "iso-2022-cn-ext", "iso-2022-kr",
      "replacement"])]

/-- Tab, line feed, form feed, carriage return and space. -/
def isAsciiBlank (c : Char) : Bool :=
  c == '\t' || c == '\n' || c == '\x0C' || c == '\r' || c == ' '

/-- A label without regard to ASCII case and to ASCII blanks at its ends. -/
def normalLabel (label : String) : String :=
  let start := label.toList.dropWhile isAsciiBlank
  asciiLower (String.ofList (start.reverse.dropWhile isAsciiBlank).reverse)

def ofLabel? (label : String) : Option Charset :=
  (labels.find? fun (_, names) => names.contains (normalLabel label)).map (·.1)

def decode (charset : Charset) (bytes : List UInt8) : String :=
  match charset with
  | utf8 => Utf8.decode bytes
  | utf16 order => Utf16.decode order bytes
  | codePage page => page.decode bytes
  | replacement => if bytes.isEmpty then "" else replacementChar.toString

end Charset

end HtmlTree
