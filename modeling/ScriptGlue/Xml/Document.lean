import ScriptGlue.Xml.Doctype
import ScriptGlue.Xml.Namespace

/-!
# Documents

Reading a whole document. The pieces of its text are turned into tokens, with entities and attribute
defaults put in, then into a tree, and the names of the tree are written out with their namespaces. A
document that is not well-formed has no tree.
-/

namespace ScriptGlue.Xml

open ScriptGlue.Text

/-- A part of a document once its references are replaced. -/
inductive Token where
  /-- Character data. -/
  | text (s : String)
  /-- The beginning of an element. -/
  | start (name : String) (attributes : List (String × String))
  /-- The end of an element. -/
  | stop (name : String)
  deriving DecidableEq, Repr

/-! ### Tokens -/

/-- The attributes of an element: those written, then those that only the declarations give. -/
def elementAttributes? (abc : Alphabet) (d : Declarations) (element : List Char)
    (written : List (List Char × List Char)) : Option (List (String × String)) := do
  let declared := (d.attributes.filter (·.1 == element)).map (·.2)
  let given ← written.mapM fun (name, value) => do
    let value ← attributeValue? abc d value
    match declared.lookup name with
    | some (true, _) => some (name, tokenize value)
    | _ => some (name, value)
  let added := declared.foldl (fun (found : List (List Char × List Char)) (name, _, value?) =>
    match value?, declared.lookup name with
    | some value, some (_, some _) => if (found.lookup name).isNone then found ++ [(name, value)] else found
    | _, _ => found) given
  if (given.map (·.1)).Nodup then
    some (added.map fun (name, value) => (String.ofList name, String.ofList value))
  else none

/-- Every end in the tokens comes after its start, and every start has an end. -/
def isBalanced : Nat → List Token → Bool
  | depth, [] => depth == 0
  | depth, .text _ :: tokens => isBalanced depth tokens
  | depth, .start _ _ :: tokens => isBalanced (depth + 1) tokens
  | depth, .stop _ :: tokens => match depth with
    | 0 => false
    | depth + 1 => isBalanced depth tokens

/-- The tokens of a piece, entities being replaced at most `depth` deep. The text of an entity holds
whole elements only, and has the standard alphabet in every document. -/
def tokensOf? (abc : Alphabet) (d : Declarations) (depth : Nat) (piece : Piece) : Option (List Token) :=
  match piece with
  | .text s | .marked s => some [.text (String.ofList s)]
  | .aside => some []
  | .stop name => some [.stop (String.ofList name)]
  | .start name written closed => do
    let attributes ← elementAttributes? abc d name written
    let token := Token.start (String.ofList name) attributes
    some (if closed then [token, .stop (String.ofList name)] else [token])
  | .reference (.char c) => some [.text (String.singleton c)]
  | .reference (.entity name) =>
    match predefined? name, d.entities.lookup name, depth with
    | some c, _, _ => some [.text (String.singleton c)]
    | none, some (.internal text), depth + 1 => do
      let inner ← pieces? .standard text
      let tokens ← inner.mapM (tokensOf? .standard d depth)
      if isBalanced 0 tokens.flatten then some tokens.flatten else none
    | _, _, _ => none

/-! ### The tree -/

/-- Puts a token before what is already read; the frames are the elements that still lack their start,
innermost first, each with its name. The last frame is the document itself. -/
def prepend? (token : Token) : List (String × Content) → Option (List (String × Content))
  | [] => none
  | (name, content) :: outer =>
    match token with
    | .text s => some ((name, .text s content) :: outer)
    | .stop s => some ((s, .empty) :: (name, content) :: outer)
    | .start s attributes =>
      match outer with
      | [] => none
      | (around, rest) :: outer =>
        if s == name then some ((around, .element s attributes content rest) :: outer) else none

/-- The content that the tokens spell. -/
def contentOf? (tokens : List Token) : Option Content :=
  match tokens.foldr (fun token frames => frames.bind (prepend? token)) (some [("", .empty)]) with
  | some [(_, content)] => some content
  | _ => none

/-! ### Forms -/

/-- How the bytes of a text spell characters before any encoding is named. -/
inductive Form where
  /-- Byte by byte, in UTF-8. -/
  | bytes
  /-- In units of two bytes, the lower first. -/
  | littleEndian
  /-- In units of two bytes, the higher first. -/
  | bigEndian
  deriving DecidableEq, Repr

/-- The units of two bytes. -/
def units? (lowerFirst : Bool) : List UInt8 → Option (List Nat)
  | [] => some []
  | [_] => none
  | a :: b :: rest =>
    (units? lowerFirst rest).map ((if lowerFirst then a.toNat + 256 * b.toNat else 256 * a.toNat + b.toNat) :: ·)

/-- The characters of units; a unit that opens a pair makes one character with the next. -/
def ofUnits? : List Nat → Option (List Char)
  | [] => some []
  | u :: rest =>
    if 0xDC00 ≤ u && u < 0xE000 then none
    else if 0xD800 ≤ u && u < 0xDC00 then
      match rest with
      | v :: rest => (ofUnits? rest).map (Char.ofNat (0x10000 + (u % 0x400) * 0x400 + v % 0x400) :: ·)
      | [] => none
    else (ofUnits? rest).map (Char.ofNat u :: ·)

/-- The form of a text and its characters without a byte order mark. A null byte among the first two shows
units of two bytes. -/
def charsOf? (text : String) : Option (Form × List Char) :=
  match text.toList with
  | '\x00' :: _ :: _ => ((units? false text.toUTF8.toList).bind ofUnits?).map (.bigEndian, ·)
  | '\ufeff' :: rest => some (.bytes, rest)
  | c :: '\x00' :: rest =>
    if c.toNat < 0x80 then ((units? true text.toUTF8.toList).bind ofUnits?).map (.littleEndian, ·)
    else some (.bytes, c :: '\x00' :: rest)
  | chars => some (.bytes, chars)

/-! ### Preambles -/

/-- What a document says about itself at its start. -/
structure Preamble where
  /-- The name of its encoding. -/
  encoding? : Option (List Char) := none
  /-- It does not need anything outside. -/
  standalone : Bool := false
  deriving DecidableEq, Repr

/-- A value that a preamble may have. -/
def isPreambleValue (s : List Char) : Bool :=
  s.all fun c => c.isAlphanum || c == '.' || c == '-' || c == '_'

/-- What the attributes of a preamble say, if they are right: a version, then an encoding if any, then whether
the document stands alone if told. -/
def Preamble.ofAttributes? (attributes : List (List Char × List Char)) : Option Preamble :=
  let keyed := attributes.map fun (name, value) => (String.ofList name, value)
  if !(keyed.all fun (_, value) => isPreambleValue value) then none
  else
    match keyed with
    | ("version", _) :: ("encoding", value) :: rest =>
      if value.head?.any Char.isAlpha then ofRest? { encoding? := some value } rest else none
    | ("version", _) :: rest => ofRest? {} rest
    | _ => none
where
  /-- What is said with the rest of the attributes. -/
  ofRest? (p : Preamble) : List (String × List Char) → Option Preamble
    | [] => some p
    | [("standalone", value)] =>
      if value == "yes".toList then some { p with standalone := true }
      else if value == "no".toList then some p else none
    | _ => none

/-- What the preamble of a document says, if there is one, and what follows it. -/
def takePreamble? (s : List Char) : Option (Preamble × List Char) :=
  if "<?xml".toList.isPrefixOf s && (s.drop 5).head?.any isSpace then do
    let (inner, rest) ← cutFirst ['?', '>'] (s.drop 5)
    let (attributes, closed, after) ← takeAttributes? .standard (inner ++ ['>'])
    if closed || !after.isEmpty then none
    some (← Preamble.ofAttributes? attributes, rest)
  else some ({}, s)

/-! ### The document -/

/-- The declarations known after the comment, instruction or document type that a text begins with, whether a
document type has been met, and what follows. A document has one document type. -/
def takeProlog? (abc : Alphabet) (d : Declarations) (typed : Bool) (s : List Char) :
    Option (Declarations × Bool × List Char) :=
  match s with
  | '<' :: '!' :: '-' :: '-' :: rest => (skipComment? rest).map (d, typed, ·)
  | '<' :: '?' :: rest => (skipInstruction? abc rest).map (d, typed, ·)
  | '<' :: '!' :: rest =>
    if "DOCTYPE".toList.isPrefixOf rest && !typed then
      (takeDoctype? abc d (rest.drop 7)).map fun (d, rest) => (d, true, rest)
    else none
  | _ => none

theorem takeProlog?_length {abc : Alphabet} {d d' : Declarations} {typed typed' : Bool} {s rest : List Char}
    (h : takeProlog? abc d typed s = some (d', typed', rest)) : rest.length < s.length := by
  unfold takeProlog? at h
  split at h
  · simp only [Option.map_eq_some_iff, Prod.mk.injEq] at h
    obtain ⟨after, hskip, -, -, rfl⟩ := h
    have := skipComment?_length hskip
    simp only [List.length_cons]
    omega
  · simp only [Option.map_eq_some_iff, Prod.mk.injEq] at h
    obtain ⟨after, hskip, -, -, rfl⟩ := h
    have := skipInstruction?_length hskip
    simp only [List.length_cons]
    omega
  · split at h
    · simp only [Option.map_eq_some_iff, Prod.exists, Prod.mk.injEq] at h
      obtain ⟨d, after, htype, -, -, rfl⟩ := h
      have := takeDoctype?_length htype
      simp only [List.length_drop, List.length_cons] at *
      omega
    · simp at h
  · simp at h

/-- The declarations before the root element and the text from the root on. -/
def skipProlog? (abc : Alphabet) (d : Declarations) (typed : Bool) (s : List Char) :
    Option (Declarations × List Char) :=
  match skipSpace s with
  | '<' :: '!' :: _ | '<' :: '?' :: _ =>
    match h : takeProlog? abc d typed (skipSpace s) with
    | none => none
    | some (d, typed, rest) =>
      have := takeProlog?_length h
      have := length_skipSpace_le s
      skipProlog? abc d typed rest
  | rest => some (d, rest)
termination_by s.length

/-- Only white space and asides stand outside the first element of the pieces. -/
def isRootOnly : Nat → Bool → List Piece → Bool
  | depth, seen, [] => depth == 0 && seen
  | 0, seen, piece :: pieces => match piece with
    | .text s => s.all isSpace && isRootOnly 0 seen pieces
    | .aside => isRootOnly 0 seen pieces
    | .start _ _ closed => !seen && isRootOnly (if closed then 0 else 1) true pieces
    | _ => false
  | depth + 1, seen, piece :: pieces => match piece with
    | .start _ _ false => isRootOnly (depth + 2) seen pieces
    | .stop _ => isRootOnly depth seen pieces
    | _ => isRootOnly (depth + 1) seen pieces

/-- How the bytes of a document spell characters once its encoding is known. -/
structure Spelling where
  /-- The letters of names. -/
  alphabet : Alphabet := .standard
  /-- The number of bytes of a character. -/
  width : Char → Nat

/-- How a document in the given form is spelled if it names no encoding. -/
def Form.spelling : Form → Spelling
  | bytes => { width := Char.utf8Size }
  | littleEndian | bigEndian => { alphabet := .latin, width := fun c => if c.toNat < 0x10000 then 2 else 4 }

/-- The root element of a document of `size` bytes, if what follows its preamble is well-formed. -/
def readContent? (spelling : Spelling) (standalone : Bool) (size : Nat) (chars : List Char) : Option Element := do
  if !chars.all isDocumentChar then none
  let abc := spelling.alphabet
  let widths := lineWidths spelling.width chars
  let remaining := widths.foldr (fun n sums => sums.push (sums.back?.getD 0 + n)) #[0]
  let (d, rest) ← skipProlog? abc { standalone, size, remaining } false (normalizeLines chars)
  let pieces ← pieces? abc rest
  if !isRootOnly 0 false pieces then none
  let written := rest.zip (widths.drop (widths.length - rest.length))
  if !d.entities.isEmpty &&
      !staysTolerable d [] ⟨d.bytesBefore rest.length, d.added⟩ (readings abc written pieces) then none
  let tokens ← pieces.mapM (tokensOf? abc d d.entities.length)
  let content ← contentOf? tokens.flatten
  (← content.expand? .initial).elements.head?

/-- The root element of a document, if the document is well-formed. The encoding that it declares has no
meaning for a text. -/
def readDocument? (text : String) : Option Element := do
  let (form, chars) ← charsOf? text
  let (preamble, rest) ← takePreamble? chars
  readContent? form.spelling preamble.standalone text.utf8ByteSize rest

end ScriptGlue.Xml
