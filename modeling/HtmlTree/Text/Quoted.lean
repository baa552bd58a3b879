import HtmlTree.Text.Printable

/-! Quoted text for diagnostics: one line, between quotation marks, with every character that
cannot be shown written by its code point. -/

namespace HtmlTree.Text

/-- The escape of one character, or the character itself. -/
def quotedChar (c : Char) : String :=
  match c with
  | '\x00' => "\\0"
  | '\t' => "\\t"
  | '\n' => "\\n"
  | '\r' => "\\r"
  | '\x22' => "\\\""
  | '\\' => "\\\\"
  | c =>
    if isPrintable c then c.toString
    else "\\u\x7b" ++ String.ofList (Nat.toDigits 16 c.toNat) ++ "\x7d"

def quoted (text : String) : String :=
  "\"" ++ text.toList.foldl (fun line c => line ++ quotedChar c) "" ++ "\""

end HtmlTree.Text
