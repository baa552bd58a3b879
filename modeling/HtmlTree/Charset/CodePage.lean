/-! Character sets with one byte for each character. The lower half is ASCII in all of them; each
table gives the characters of the upper half from its first byte on. -/

namespace HtmlTree.Charset

/-- The character sets with one byte for each character. -/
inductive CodePage where
  | windows1252
  | latin2
  | latin9
  | windows1251
  | koi8r
  | userDefined
  deriving DecidableEq

namespace CodePage

/-- Bytes 80 to 9F; the bytes after these are their own code points. -/
def windows1252Upper : Array Char :=
  ("€\u0081‚ƒ„…†‡ˆ‰Š‹Œ\u008dŽ\u008f" ++
    "\u0090‘’“”•–—˜™š›œ\u009džŸ").toList.toArray

/-- Bytes A0 to FF. -/
def latin2Upper : Array Char :=
  ("\u00a0Ą˘Ł¤ĽŚ§¨ŠŞŤŹ\u00adŽŻ" ++
    "°ą˛ł´ľśˇ¸šşťź˝žż" ++
    "ŔÁÂĂÄĹĆÇČÉĘËĚÍÎĎ" ++
    "ĐŃŇÓÔŐÖ×ŘŮÚŰÜÝŢß" ++
    "ŕáâăäĺćçčéęëěíîď" ++
    "đńňóôőö÷řůúűüýţ˙").toList.toArray

/-- Bytes 80 to FF. -/
def windows1251Upper : Array Char :=
  ("ЂЃ‚ѓ„…†‡€‰Љ‹ЊЌЋЏ" ++
    "ђ‘’“”•–—\u0098™љ›њќћџ" ++
    "\u00a0ЎўЈ¤Ґ¦§Ё©Є«¬\u00ad®Ї" ++
    "°±Ііґµ¶·ё№є»јЅѕї" ++
    "АБВГДЕЖЗИЙКЛМНОП" ++
    "РСТУФХЦЧШЩЪЫЬЭЮЯ" ++
    "абвгдежзийклмноп" ++
    "рстуфхцчшщъыьэюя").toList.toArray

/-- Bytes 80 to FF. -/
def koi8rUpper : Array Char :=
  ("─│┌┐└┘├┤┬┴┼▀▄█▌▐" ++
    "░▒▓⌠■∙√≈≤≥\u00a0⌡°²·÷" ++
    "═║╒ё╓╔╕╖╗╘╙╚╛╜╝╞" ++
    "╟╠╡Ё╢╣╤╥╦╧╨╩╪╫╬©" ++
    "юабцдефгхийклмно" ++
    "пярстужвьызшэщчъ" ++
    "ЮАБЦДЕФГХИЙКЛМНО" ++
    "ПЯРСТУЖВЬЫЗШЭЩЧЪ").toList.toArray

/-- The characters of ISO 8859-15 that are not their own code points. -/
def latin9Upper : List (Nat × Char) :=
  [(0xA4, '€'), (0xA6, 'Š'), (0xA8, 'š'), (0xB4, 'Ž'), (0xB8, 'ž'),
   (0xBC, 'Œ'), (0xBD, 'œ'), (0xBE, 'Ÿ')]

/-- The character that a table of the bytes from `first` on has for a byte. Bytes that the table
does not cover are their own code points. -/
def fromTable (table : Array Char) (first byte : Nat) : Char :=
  if byte < first then Char.ofNat byte else table.getD (byte - first) (Char.ofNat byte)

def decodeByte (page : CodePage) (byte : Nat) : Char :=
  if byte < 0x80 then Char.ofNat byte
  else
    match page with
    | windows1252 => fromTable windows1252Upper 0x80 byte
    | latin2 => fromTable latin2Upper 0xA0 byte
    | latin9 => (latin9Upper.lookup byte).getD (Char.ofNat byte)
    | windows1251 => fromTable windows1251Upper 0x80 byte
    | koi8r => fromTable koi8rUpper 0x80 byte
    | userDefined => Char.ofNat (0xF700 + byte)

def decode (page : CodePage) (bytes : List UInt8) : String :=
  bytes.foldl (fun text byte => text.push (page.decodeByte byte.toNat)) ""

end CodePage

end HtmlTree.Charset
