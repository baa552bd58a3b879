/-! Character references: how text is written so that no character of it is read as markup. -/

namespace HtmlTree.Text

/-- The reference written for a character that markup gives a meaning of its own. -/
def reference? : Char → Option String
  | '&' => some "&amp;"
  | '<' => some "&lt;"
  | '>' => some "&gt;"
  | '\x22' => some "&quot;"
  | '\x27' => some "&#x27;"
  | _ => none

/-- Escaped text, and whether it is the very text that was given. -/
structure Escaped where
  text : String
  unchanged : Bool

namespace Escaped

/-- What has been written so far, and whether a reference has been written in it. -/
structure Progress where
  written : String
  replaced : Bool

def Progress.step (progress : Progress) (c : Char) : Progress :=
  match reference? c with
  | some reference => ⟨progress.written ++ reference, true⟩
  | none => ⟨progress.written.push c, progress.replaced⟩

/-- Writes a reference for each character that needs one; a text that needs none is handed back. -/
def ofText (text : String) : Escaped :=
  let progress := text.toList.foldl Progress.step ⟨"", false⟩
  if progress.replaced then ⟨progress.written, false⟩ else ⟨text, true⟩

end Escaped

/-- Safe both between tags and inside a quoted attribute value. -/
def escape (text : String) : String :=
  (Escaped.ofText text).text

end HtmlTree.Text
