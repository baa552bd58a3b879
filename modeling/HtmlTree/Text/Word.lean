/-! Words inside a text, found from the left: what follows the first of them, and the text with
another word in the place of each. -/

namespace HtmlTree.Text

/-- What follows the first occurrence of a word. -/
def afterFirst? (word : List Char) : List Char → Option (List Char)
  | [] => if word.isEmpty then some [] else none
  | c :: rest =>
    if word.isPrefixOf (c :: rest) then some ((c :: rest).drop word.length)
    else afterFirst? word rest

/-- Passes over the characters that are left of an occurrence, and from then on puts another word
in the place of each occurrence. Nothing is looked for inside what has been put in. -/
def replaceFrom (word other : List Char) : Nat → List Char → List Char
  | _, [] => []
  | left + 1, _ :: rest => replaceFrom word other left rest
  | 0, c :: rest =>
    if word.isPrefixOf (c :: rest) then other ++ replaceFrom word other (word.length - 1) rest
    else c :: replaceFrom word other 0 rest

/-- The text with another word in the place of each occurrence of a word that is not empty. -/
def replaceWord (word other text : String) : String :=
  String.ofList (replaceFrom word.toList other.toList 0 text.toList)

end HtmlTree.Text
