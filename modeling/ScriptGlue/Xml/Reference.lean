import ScriptGlue.Xml.Name
import ScriptGlue.Text.Search

/-!
# References and attribute values

Character references, the five entities that are always there, entities that a document declares, and
the value that an attribute has once its references are replaced. Entities that are declared to refer to
themselves are refused: a replacement can only go as deep as there are entities.
-/

namespace ScriptGlue.Xml

open ScriptGlue.Text

/-- What an entity that a document declares stands for. -/
inductive Entity where
  /-- A text written in the document. -/
  | internal (text : List Char)
  /-- Something outside the document, which is never read. -/
  | external
  deriving DecidableEq, Repr

/-- A reference: to a character by its number or to an entity by its name. -/
inductive Reference where
  /-- A character. -/
  | char (c : Char)
  /-- A named entity. -/
  | entity (name : List Char)
  deriving DecidableEq, Repr

/-- The number with the given digits, if they are digits of the base; large numbers are cut short
above every character. -/
def characterNumber? (base : Nat) : List Char → Nat → Option Nat
  | [], n => some n
  | c :: s, n =>
    let digit? :=
      if '0' ≤ c && c ≤ '9' then some (c.toNat - '0'.toNat)
      else if base == 16 && 'a' ≤ c && c ≤ 'f' then some (10 + c.toNat - 'a'.toNat)
      else if base == 16 && 'A' ≤ c && c ≤ 'F' then some (10 + c.toNat - 'A'.toNat)
      else none
    match digit? with
    | some d => characterNumber? base s (min (n * base + d) 0x110000)
    | none => none

/-- The character with the given number, if a document may hold it. -/
def characterOf? (n : Nat) : Option Char :=
  if n < 0x110000 && !(0xD800 ≤ n && n ≤ 0xDFFF) && isDocumentChar (Char.ofNat n) then some (Char.ofNat n)
  else none

/-- The reference after an ampersand, and what follows its semicolon. -/
def takeReference? (abc : Alphabet) (s : List Char) : Option (Reference × List Char) := do
  let (body, rest) ← cutFirst [';'] s
  match body with
  | '#' :: 'x' :: digits =>
    if digits.isEmpty then none
    else some (.char (← characterOf? (← characterNumber? 16 digits 0)), rest)
  | '#' :: digits =>
    if digits.isEmpty then none
    else some (.char (← characterOf? (← characterNumber? 10 digits 0)), rest)
  | _ =>
    let (name, later) ← takeName? abc body
    if later.isEmpty then some (.entity name, rest) else none

theorem takeReference?_length {abc : Alphabet} {s rest : List Char} {r : Reference}
    (h : takeReference? abc s = some (r, rest)) : rest.length < s.length := by
  simp only [takeReference?, Option.bind_eq_bind, Option.bind_eq_some_iff, Prod.exists] at h
  obtain ⟨body, later, hcut, h⟩ := h
  have := cutFirst_length hcut
  simp only [List.length_cons, List.length_nil] at this
  have key : later = rest := by
    split at h
    · split at h
      · simp at h
      · simp only [Option.bind_eq_some_iff, Option.some.injEq, Prod.mk.injEq] at h
        obtain ⟨_, _, _, _, _, h⟩ := h
        exact h
    · split at h
      · simp at h
      · simp only [Option.bind_eq_some_iff, Option.some.injEq, Prod.mk.injEq] at h
        obtain ⟨_, _, _, _, _, h⟩ := h
        exact h
    · simp only [Option.bind_eq_some_iff, Prod.exists] at h
      obtain ⟨_, _, _, h⟩ := h
      split at h
      · simp only [Option.some.injEq, Prod.mk.injEq] at h
        exact h.2
      · simp at h
  subst key
  omega

/-- The character that an entity stands for in every document. -/
def predefined? (name : List Char) : Option Char :=
  if name == "lt".toList then some '<'
  else if name == "gt".toList then some '>'
  else if name == "amp".toList then some '&'
  else if name == "quot".toList then some '"'
  else if name == "apos".toList then some '\''
  else none

/-- What the declarations of a document say about entities and attributes. -/
structure Declarations where
  /-- The entities by name; the first declaration of a name counts. -/
  entities : List (List Char × Entity) := []
  /-- Attributes declared for an element: its name, theirs, whether their value is a list of tokens,
  and their value where the document leaves them out. -/
  attributes : List (List Char × List Char × Bool × Option (List Char)) := []
  /-- Some declarations stand outside the document, so an unknown entity may be declared there. -/
  incomplete : Bool := false
  /-- The document says that it does not need anything outside. -/
  standalone : Bool := false
  /-- The number of bytes of the document. -/
  size : Nat := 0
  /-- The numbers of bytes of its last characters: none, one, two and so on. -/
  remaining : Array Nat := #[]
  /-- The number of bytes that entities have added to the values of attributes that are left out. -/
  added : Nat := 0

/-! ### Attribute values -/

/-- A part of an attribute value as it is written. -/
inductive ValuePart where
  /-- A character that stands for itself. -/
  | literal (c : Char)
  /-- A reference to be replaced. -/
  | reference (r : Reference)
  deriving DecidableEq, Repr

/-- The parts of a value as it is written; a value has no `<` in it. -/
def valueParts? (abc : Alphabet) (s : List Char) : Option (List ValuePart) :=
  match s with
  | [] => some []
  | '<' :: _ => none
  | '&' :: rest =>
    match h : takeReference? abc rest with
    | some (r, later) =>
      have := takeReference?_length h
      (valueParts? abc later).map (.reference r :: ·)
    | none => none
  | c :: rest => (valueParts? abc rest).map (.literal c :: ·)
termination_by s.length
decreasing_by all_goals simp_all; try omega

/-- A value with its references replaced, entities at most `depth` deep; white space that is written
out becomes spaces. The texts of entities have the standard alphabet in every document. -/
def expandValue? (abc : Alphabet) (d : Declarations) : Nat → List Char → Option (List Char)
  | depth, s => do
    let parts ← valueParts? abc s
    let pieces ← parts.mapM fun
      | .literal c => some [if isSpace c then ' ' else c]
      | .reference (.char c) => some [c]
      | .reference (.entity name) =>
        match predefined? name, d.entities.lookup name, depth with
        | some c, _, _ => some [c]
        | none, some (.internal text), depth + 1 => expandValue? .standard d depth text
        | none, none, _ => if d.incomplete then some [] else none
        | _, _, _ => none
    some pieces.flatten

/-- The value of an attribute. -/
def attributeValue? (abc : Alphabet) (d : Declarations) (s : List Char) : Option (List Char) :=
  expandValue? abc d d.entities.length s

/-- A value that is a list of tokens, with single spaces between them. -/
def tokenize (s : List Char) : List Char :=
  [' '].intercalate ((splitAtChar ' ' s).filter (!·.isEmpty))

end ScriptGlue.Xml
