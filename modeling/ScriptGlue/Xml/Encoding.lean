import ScriptGlue.Text.Charset.Name
import ScriptGlue.Xml.Document

/-!
# Encodings of files

A file is a sequence of bytes, and its preamble may name the encoding in which the bytes after it spell
text. Files are held as the text that their bytes spell in UTF-8; a file that names another encoding is read
as what the same bytes spell there.
-/

namespace ScriptGlue.Xml

open ScriptGlue.Text

/-- Why a named encoding cannot be used. -/
inductive CodingFault where
  /-- No encoding has the name. -/
  | unknown (name : String)
  /-- The encoding spells no text. -/
  | noText (name : String)
  /-- The encoding spells characters with several bytes. -/
  | wide
  /-- The encoding refuses bytes that spell nothing. -/
  | refused (name reason : String)
  /-- The encoding refuses bytes from 128 on. -/
  | strict
  deriving DecidableEq, Repr

/-- What is said about the fault. -/
def CodingFault.message : CodingFault → String
  | unknown name => "unknown encoding: " ++ name
  | noText name => "'" ++ name ++ "' is not a text encoding; use codecs.decode() to handle arbitrary codecs"
  | wide => "multi-byte encodings are not supported"
  | refused name reason => "decoding with '" ++ name ++ "' codec failed (UnicodeError: " ++ reason ++ ")"
  | strict => "'ascii' codec can't decode byte 0x80 in position 82: ordinal not in range(128)"

/-- Why a file cannot be read. -/
inductive Unreadable where
  /-- It holds no well-formed document. -/
  | malformed
  /-- Its encoding cannot be used. -/
  | coding (fault : CodingFault)
  deriving DecidableEq, Repr

/-- The characters that bytes spell in the encoding of a name that has no meaning of its own for documents. -/
def decodeNamed (name : String) (bytes : List UInt8) : Except Unreadable (List Char) :=
  match Coding.ofName? name with
  | none => .error (.coding (.unknown name))
  | some .transform => .error (.coding (.noText name))
  | some .wide => .error (.coding .wide)
  | some (.refusing reason) => .error (.coding (.refused name reason))
  | some .strict => .error (.coding .strict)
  | some .foreign => .error .malformed
  | some (.charset set) => (set.decode? bytes).elim (.error .malformed) .ok

/-- The characters that the text after a preamble spells in the encoding that this names, and how. A text of
16-bit units must be named as such; one of bytes must not. -/
def decodeRest (form : Form) (name : String) (rest : List Char) : Except Unreadable (Spelling × List Char) :=
  let fits (b : Bool) : Except Unreadable (Spelling × List Char) :=
    if b then .ok (form.spelling, rest) else .error .malformed
  let bytes := (String.ofList rest).toUTF8.toList
  match String.ofList (name.toList.map Char.toUpper) with
  | "UTF-8" => fits (form == .bytes)
  | "UTF-16" => fits (form != .bytes)
  | "UTF-16LE" => fits (form == .littleEndian)
  | "UTF-16BE" => fits (form == .bigEndian)
  | "US-ASCII" => fits (form == .bytes && bytes.all (· < 128))
  | "ISO-8859-1" =>
    if form == .bytes then .ok ({ alphabet := .latin, width := fun _ => 1 }, bytes.map fun b => Char.ofNat b.toNat)
    else .error .malformed
  | _ => do
    let decoded ← decodeNamed name bytes
    if form == .bytes then pure ({ width := fun _ => 1 }, decoded) else throw .malformed

/-- The root element of the document in a file. -/
def readFile (text : String) : Except Unreadable Element := do
  let malformed {α : Type} : Option α → Except Unreadable α := (·.elim (.error .malformed) .ok)
  let (form, chars) ← malformed (charsOf? text)
  let (preamble, rest) ← malformed (takePreamble? chars)
  let (spelling, decoded) ← match preamble.encoding? with
    | some name => decodeRest form (String.ofList name) rest
    | none => pure (form.spelling, rest)
  malformed (readContent? spelling preamble.standalone text.utf8ByteSize decoded)

end ScriptGlue.Xml
