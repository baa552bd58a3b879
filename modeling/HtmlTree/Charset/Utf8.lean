/-! UTF-8, with every malformed stretch replaced by U+FFFD. A stretch ends before the first byte
that cannot continue it, and that byte is read afresh. -/

namespace HtmlTree.Charset

/-- What stands for input that cannot be decoded. -/
def replacementChar : Char := '\uFFFD'

namespace Utf8

/-- A character of which some bytes are still to come. The next of them lies in a range, which is
narrower after some first bytes: it leaves out surrogates, numbers above the last code point, and
forms that are longer than needed. -/
structure Pending where
  value : Nat
  missing : Nat
  lower : Nat
  upper : Nat

/-- The state after the first byte of a character, and the characters that it completes. -/
def begin (byte : Nat) : Option Pending × List Char :=
  if byte < 0x80 then (none, [Char.ofNat byte])
  else if byte < 0xC2 then (none, [replacementChar])
  else if byte < 0xE0 then (some ⟨byte - 0xC0, 1, 0x80, 0xBF⟩, [])
  else if byte < 0xF0 then
    (some ⟨byte - 0xE0, 2, if byte = 0xE0 then 0xA0 else 0x80,
      if byte = 0xED then 0x9F else 0xBF⟩, [])
  else if byte < 0xF5 then
    (some ⟨byte - 0xF0, 3, if byte = 0xF0 then 0x90 else 0x80,
      if byte = 0xF4 then 0x8F else 0xBF⟩, [])
  else (none, [replacementChar])

/-- The state after one more byte, and the characters that it completes. -/
def step (state : Option Pending) (byte : Nat) : Option Pending × List Char :=
  match state with
  | none => begin byte
  | some pending =>
    if pending.lower ≤ byte ∧ byte ≤ pending.upper then
      let value := pending.value * 64 + (byte - 0x80)
      if pending.missing = 1 then (none, [Char.ofNat value])
      else (some ⟨value, pending.missing - 1, 0x80, 0xBF⟩, [])
    else
      let (next, completed) := begin byte
      (next, replacementChar :: completed)

/-- The state and the text after all of the bytes. -/
def run (state : Option Pending) (text : String) : List UInt8 → Option Pending × String
  | [] => (state, text)
  | byte :: rest =>
    let (next, completed) := step state byte.toNat
    run next (completed.foldl String.push text) rest

/-- A character cut short by the end counts as malformed. -/
def decode (bytes : List UInt8) : String :=
  match run none "" bytes with
  | (none, text) => text
  | (some _, text) => text.push replacementChar

end Utf8

end HtmlTree.Charset
