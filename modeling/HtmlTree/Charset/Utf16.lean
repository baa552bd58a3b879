import HtmlTree.Charset.Utf8

/-! UTF-16 in either byte order, with surrogates that have no partner replaced by U+FFFD. -/

namespace HtmlTree.Charset

inductive ByteOrder where
  | little
  | big
  deriving DecidableEq

namespace Utf16

/-- The number that two bytes make. -/
def unit (order : ByteOrder) (first second : UInt8) : Nat :=
  match order with
  | .little => second.toNat * 256 + first.toNat
  | .big => first.toNat * 256 + second.toNat

def isLead (unit : Nat) : Bool := 0xD800 ≤ unit && unit ≤ 0xDBFF

def isTrail (unit : Nat) : Bool := 0xDC00 ≤ unit && unit ≤ 0xDFFF

/-- The character that a pair of surrogates stands for. -/
def pair (lead trail : Nat) : Char :=
  Char.ofNat (0x10000 + (lead - 0xD800) * 0x400 + (trail - 0xDC00))

/-- The pending lead surrogate after a unit with none pending, and the characters completed. -/
def begin (unit : Nat) : Option Nat × List Char :=
  if isLead unit then (some unit, [])
  else if isTrail unit then (none, [replacementChar])
  else (none, [Char.ofNat unit])

def step (state : Option Nat) (unit : Nat) : Option Nat × List Char :=
  match state with
  | none => begin unit
  | some lead =>
    if isTrail unit then (none, [pair lead unit])
    else
      let (next, completed) := begin unit
      (next, replacementChar :: completed)

/-- Reads the bytes two by two. Whatever the end leaves unfinished, a surrogate or half of a unit,
is malformed, and both together are so only once. -/
def run (order : ByteOrder) (state : Option Nat) (text : String) : List UInt8 → String
  | first :: second :: rest =>
    let (next, completed) := step state (unit order first second)
    run order next (completed.foldl String.push text) rest
  | [] =>
    match state with
    | none => text
    | some _ => text.push replacementChar
  | [_] => text.push replacementChar

def decode (order : ByteOrder) (bytes : List UInt8) : String :=
  run order none "" bytes

end Utf16

end HtmlTree.Charset
