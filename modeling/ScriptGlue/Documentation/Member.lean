import ScriptGlue.Cpp.IntegerLiteral
import ScriptGlue.Cpp.Qualified
import ScriptGlue.Documentation.Description

/-!
# Members of a documented compound

The members that the elements of a compound describe. An unnamed member is left out; a member without an
identifier gets one from its compound and its position, and an enumerator one from its enumeration.
-/

namespace ScriptGlue

open ScriptGlue.Text ScriptGlue.Cpp ScriptGlue.Xml

/-! ### Enumerators -/

/-- The text of an initializer, without the sign that introduces it. -/
def initializerOf (e : Element) : String :=
  let text := lineOf (e.find? "initializer")
  if startsWith text "=" then trim (dropStart text 1) else text

/-- The values of enumerators with the given initializers, `last` being the number before them. An
initializer is kept as it is, and counts from there on if it is a number; the others are numbered on. A
number that cannot be spelled ends the list. -/
def enumeratorValues (last : Int) : List String → List String
  | [] => []
  | initializer :: rest =>
    if initializer.isEmpty then
      match spell? (last + 1) with
      | some value => value :: enumeratorValues (last + 1) rest
      | none => []
    else initializer :: enumeratorValues ((readLiteral? initializer).getD last) rest

/-- An enumerator of the enumeration `owner` at a position, with its value. -/
def readEnumerator (owner : String) (position : Nat) (e : Element) (value : String) : Symbol :=
  let id := e.valueOf "id"
  let s : Symbol := {
    id := if id.isEmpty then owner ++ "_" ++ toString position else id
    kind := "enumvalue"
    name := lineOf (e.find? "name")
    visibility := .ofName (e.valueOf? "prot")
    value }
  s.describe e

/-- The enumerators of an enumeration, up to the first whose number cannot be spelled. -/
def readEnumerators (owner : String) (e : Element) : List Symbol :=
  let items := e.named "enumvalue"
  (items.zip (enumeratorValues (-1) (items.map initializerOf))).mapIdx fun i (item, value) =>
    readEnumerator owner i item value

/-- Every enumerator of an enumeration has a value. -/
def spellsEnumerators (e : Element) : Bool :=
  let items := e.named "enumvalue"
  (enumeratorValues (-1) (items.map initializerOf)).length == items.length

/-! ### Places -/

/-- The whole number that an attribute spells, or `fallback`. -/
def numberOf (value : Option String) (fallback : Int) : Int := (value.bind readInteger?).getD fallback

/-- The first value that says something. -/
def firstOf (value fallback : Option String) : Option String :=
  match value.filter (!·.isEmpty) with
  | some v => some v
  | none => fallback

/-- The symbol with the place where it is found. -/
def Symbol.locate (s : Symbol) (e : Element) : Symbol :=
  match e.find? "location" with
  | none => s
  | some place =>
    let lineStart := numberOf (firstOf (place.valueOf? "bodystart") (place.valueOf? "line")) 0
    let lineEnd := numberOf (place.valueOf? "bodyend") (-1)
    { s with
      sourceFile := (firstOf (place.valueOf? "bodyfile") (place.valueOf? "file")).getD ""
      lineStart
      lineEnd := if lineEnd == -1 then lineStart else lineEnd }

/-! ### Members -/

/-- The type without the ignored words, with single blanks. -/
def removeWords (words : List String) (type : String) : String :=
  let bare := words.foldl (fun s word => removeWord word.toList s) type.toList
  String.ofList (collapseChars bare)

/-- The parameter that an element describes; those of a macro have a name only. -/
def readParameter (isMacro : Bool) (e : Element) : Parameter :=
  if isMacro then { name := lineOf (e.find? "defname") }
  else
    { type := lineOf (e.find? "type")
      name := lineOf (e.find? "declname")
      defaultValue := lineOf (e.find? "defval") }

/-- What a macro stands for. -/
def macroBodyOf (e : Element) : String :=
  ((e.find? "initializer").map fun i => trim i.content.allText).getD ""

/-- The attribute says yes. -/
def isMarked (e : Element) (name : String) : Bool := e.valueOf? name == some "yes"

/-- The member of the compound `owner` at a position; an unnamed one has no name or one that begins with
an at sign, and only the latter is left out. -/
def readMember? (ignored : List String) (owner : String) (position : Nat) (e : Element) : Option Member :=
  let name := lineOf (e.find? "name")
  if startsWith name "@" then none
  else
    let id := e.valueOf "id"
    let kind := e.valueOf "kind"
    let isMacro := kind == "define"
    let type := lineOf (e.find? "type")
    let s : Symbol := {
      id := if id.isEmpty then owner ++ "_" ++ toString position else id
      kind
      name
      type := if kind == "function" then removeWords ignored type else type
      visibility := .ofName (e.valueOf? "prot")
      virtualness := .ofName (e.valueOf? "virt")
      isStatic := isMarked e "static"
      isConst := isMarked e "const"
      isMutable := isMarked e "mutable"
      isExplicit := isMarked e "explicit"
      fullDefinition := lineOf (e.find? "definition")
      argList := lineOf (e.find? "argsstring")
      parameters := (e.named "param").map (readParameter isMacro)
      macroBody := if isMacro then macroBodyOf e else "" }
    let s := if isMacro && !s.parameters.isEmpty then { s with argList := s.parameterNames } else s
    let s := (s.describe e).locate e
    some { s with enumerators := if kind == "enum" then readEnumerators s.id e else [] }

/-- The members that the elements describe, `position` members being before them. -/
def readMembers (ignored : List String) (owner : String) : Nat → List Element → List Member
  | _, [] => []
  | position, e :: rest =>
    match readMember? ignored owner position e with
    | some m => m :: readMembers ignored owner (position + 1) rest
    | none => readMembers ignored owner position rest

end ScriptGlue
