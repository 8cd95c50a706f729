/-!
# Character sets

Encodings that spell every character with one byte. They agree with ASCII on the bytes below 128 and differ
from there on.
-/

namespace ScriptGlue.Text

/-- A character set in which every byte spells one character or none. -/
structure Charset where
  /-- The characters of the bytes from 128 on, in order; U+FFFD stands for a byte that spells none. -/
  high : String
  /-- Characters of ASCII that are not in the set. -/
  missing : List Char := []
  deriving DecidableEq, Repr

namespace Charset

/-- The control characters of the bytes 128 to 159. -/
def controls : String := String.ofList ((List.range 32).map fun n => Char.ofNat (128 + n))

/-- The characters of the first 256 code points. -/
def latin1 : Charset where
  high := String.ofList ((List.range 128).map fun n => Char.ofNat (128 + n))

/-- The characters of ASCII alone. -/
def ascii : Charset where
  high := String.ofList (List.replicate 128 '\ufffd')

/-- The characters that bytes spell, if every byte spells one. -/
def decode? (set : Charset) (bytes : List UInt8) : Option (List Char) :=
  let high := set.high.toList.toArray
  bytes.mapM fun b =>
    let c := if b < 128 then Char.ofNat b.toNat else high.getD (b.toNat - 128) '\ufffd'
    if c == '\ufffd' || set.missing.contains c then none else some c

end Charset

end ScriptGlue.Text
