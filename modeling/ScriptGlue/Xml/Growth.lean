import ScriptGlue.Xml.Markup

/-!
# Growth by entities

Entities that hold references to other entities can make a small document very large. A document is refused
as soon as what has been read of it, the texts of entities included, is both large and out of proportion to
what is written. What is read is a list of steps: bytes, and references whose texts are read in turn. The value
of an attribute is read with its tag, and once more for itself if it does not stand as it is written.
-/

namespace ScriptGlue.Xml

open ScriptGlue.Text

/-! ### Proportion -/

/-- The bytes that have been read. -/
structure Tally where
  /-- Those of the document. -/
  written : Nat := 0
  /-- Those of the texts of entities, counted at every reference. -/
  added : Nat := 0
  deriving DecidableEq, Repr

/-- The bytes that can be read whatever their proportion. -/
def freeBytes : Nat := 8388608

/-- Few bytes have been read, or no more than a hundred for each one that is written. -/
def Tally.isTolerable (t : Tally) : Bool :=
  t.written + t.added < freeBytes || t.written + t.added ≤ 100 * t.written

/-- The bytes of the document before its last `left` characters. -/
def Declarations.bytesBefore (d : Declarations) (left : Nat) : Nat := d.size - (d.remaining[left]?).getD 0

/-- What has been read when `rest` follows is tolerable. -/
def Declarations.isTolerableBefore (d : Declarations) (rest : List Char) : Bool :=
  d.added == 0 || Tally.isTolerable ⟨d.bytesBefore rest.length, d.added⟩

/-! ### Steps of reading -/

/-- A text as it is written: its characters with their numbers of bytes. -/
abbrev Written := List (Char × Nat)

/-- The number of bytes of a text. -/
def byteCount (s : Written) : Nat := s.foldl (fun n c => n + c.2) 0

/-- A step of reading. -/
inductive Reading where
  /-- So many bytes are read at once. -/
  | bytes (n : Nat)
  /-- What a reference stands for is read. -/
  | reference (r : Reference)
  deriving DecidableEq, Repr

/-- The reference of a step. -/
def Reading.reference? : Reading → Option Reference
  | bytes _ => none
  | reference r => some r

/-- Character data is read line by line, and the ends of lines on their own. -/
def lineReadings : Written → List Reading
  | [] => []
  | (c, n) :: s =>
    match s, lineReadings s with
    | (d, _) :: _, .bytes m :: later =>
      if c == '\n' || d == '\n' then .bytes n :: .bytes m :: later else .bytes (n + m) :: later
    | _, later => .bytes n :: later

/-- A value is read word by word; white space and references stand on their own. -/
def valueReadings : Written → List ValuePart → List Reading
  | _, [] => []
  | s, .reference r :: parts =>
    let length := (s.takeWhile (·.1 != ';')).length + 1
    .bytes (byteCount (s.take length)) :: .reference r :: valueReadings (s.drop length) parts
  | s, .literal c :: parts =>
    match parts, valueReadings s.tail parts with
    | .literal d :: _, .bytes m :: later =>
      if isSpace c || isSpace d then .bytes (byteCount (s.take 1)) :: .bytes m :: later
      else .bytes (byteCount (s.take 1) + m) :: later
    | _, later => .bytes (byteCount (s.take 1)) :: later

/-- The value stands as it is written: it has no references, and of white space only single spaces between
words. -/
def isPlainValue (s : List Char) : Bool :=
  s.all (fun c => c != '&' && (c == ' ' || !isSpace c)) && tokenize s == s

/-- The values between the quotes of a tag; `quote?` is the quote of the one that is open. -/
def quotedValues (quote? : Option Char) : Written → List Written
  | [] => []
  | (c, _) :: s =>
    match quote? with
    | some q => quotedValues (if c == q then none else some q) s
    | none =>
      if c == '"' || c == '\'' then s.takeWhile (·.1 != c) :: quotedValues (some c) s else quotedValues none s

/-- What is read of a value once its tag has been read. In a tag that ends its element too, only references are
followed. -/
def innerReadings (abc : Alphabet) (closed : Bool) (value : Written) : List Reading :=
  let chars := value.map (·.1)
  let steps := valueReadings value ((valueParts? abc chars).getD [])
  if closed then steps.filter (·.reference?.isSome)
  else if isPlainValue chars then [] else steps

/-- What is read of a piece that is written as `s`. -/
def Piece.readings (abc : Alphabet) (s : Written) : Piece → List Reading
  | .text _ => lineReadings s
  | .marked _ =>
    let (inner, close) := (s.drop 9).splitAt (s.length - 12)
    .bytes (byteCount (s.take 9)) :: lineReadings inner ++ [.bytes (byteCount close)]
  | .reference r => [.bytes (byteCount s), .reference r]
  | .start _ _ closed => .bytes (byteCount s) :: (quotedValues none s).flatMap (innerReadings abc closed)
  | .stop _ | .aside => [.bytes (byteCount s)]

/-- The number of characters up to the end of a tag, `quote?` being the quote of the value that is open. -/
def tagLength (quote? : Option Char) : Written → Nat
  | [] => 0
  | (c, _) :: s =>
    match quote? with
    | none => if c == '>' then 1 else 1 + tagLength (if c == '"' || c == '\'' then some c else none) s
    | some q => 1 + tagLength (if c == q then none else some q) s

/-- The number of characters up to the first occurrence of `p` and its end. -/
def lengthThrough (p : List Char) : Written → Nat
  | [] => 0
  | c :: s => if ((c :: s).take p.length).map (·.1) == p then p.length else 1 + lengthThrough p s

/-- The number of characters of the piece that a text begins with. -/
def writtenLength (s : Written) : Nat :=
  match s with
  | ('<', _) :: ('!', _) :: ('-', _) :: ('-', _) :: rest => 4 + lengthThrough "-->".toList rest
  | ('<', _) :: ('!', _) :: rest => 2 + lengthThrough "]]>".toList rest
  | ('<', _) :: ('?', _) :: rest => 2 + lengthThrough "?>".toList rest
  | ('<', _) :: rest => 1 + tagLength none rest
  | ('&', _) :: rest => 1 + lengthThrough [';'] rest
  | _ => (s.takeWhile fun c => isPlain c.1).length

/-- What is read of the pieces that a text is made of. -/
def readings (abc : Alphabet) (s : Written) : List Piece → List Reading
  | [] => []
  | piece :: pieces =>
    let length := writtenLength s
    piece.readings abc (s.take length) ++ readings abc (s.drop length) pieces

/-- What is read of the text of an entity. -/
def textReadings (text : List Char) : List Reading :=
  let s : Written := text.map fun c => (c, c.utf8Size)
  if text.contains '<' then ((pieces? .standard text).map (readings .standard s)).getD []
  else valueReadings s ((valueParts? .standard text).getD [])

/-! ### Weights of references -/

/-- The weights of entities as far as they are known. -/
abbrev Weights := List (List Char × Nat)

/-- The bytes that a reference adds, with entities looked into at most `depth` deep, and the weights known
then: what is read of the text of the entity and what the references in that add. An entity that is always
there adds the one character that it stands for. -/
def weigh (d : Declarations) : Nat → Weights → Reference → Nat × Weights
  | _, known, .char _ => (0, known)
  | depth, known, .entity name =>
    match predefined? name, known.lookup name, d.entities.lookup name, depth with
    | some _, _, _, _ => (1, known)
    | none, some n, _, _ => (n, known)
    | none, none, some (.internal text), depth + 1 =>
      let (n, known) := (textReadings text).foldl (fun (n, known) step =>
        match step with
        | .bytes m => (n + m, known)
        | .reference r =>
          let (m, known) := weigh d depth known r
          (n + m, known)) (0, known)
      (n, (name, n) :: known)
    | none, none, _, _ => (0, known)

/-- The tally stays tolerable through all steps. -/
def staysTolerable (d : Declarations) (known : Weights) (t : Tally) : List Reading → Bool
  | [] => true
  | .bytes n :: steps =>
    let t := { t with written := t.written + n }
    t.isTolerable && staysTolerable d known t steps
  | .reference r :: steps =>
    let (n, known) := weigh d d.entities.length known r
    let t := { t with added := t.added + n }
    t.isTolerable && staysTolerable d known t steps

/-- The declarations once the references in a value are counted that ends where `rest` begins, if what has been
read stays tolerable. -/
def Declarations.count? (abc : Alphabet) (d : Declarations) (value rest : List Char) : Option Declarations :=
  let steps := innerReadings abc true (value.map fun c => (c, 0))
  let (n, _) := (steps.filterMap Reading.reference?).foldl (fun (n, known) r =>
    let (m, known) := weigh d d.entities.length known r
    (n + m, known)) (0, [])
  let d := { d with added := d.added + n }
  if d.isTolerableBefore rest then some d else none

end ScriptGlue.Xml
