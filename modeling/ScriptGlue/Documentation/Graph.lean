import ScriptGlue.Documentation.Member
import ScriptGlue.Failure
import ScriptGlue.Log
import ScriptGlue.Symbol.Directive
import ScriptGlue.Xml.Encoding

/-!
# The symbol graph

All that the documentation holds: its compounds in order, every symbol by identifier, the groups of
overloads and the pages of remarks. Documents are added one after the other; where two define one
identifier or one name, the later definition counts and keeps the place of the first.
-/

namespace ScriptGlue

open ScriptGlue.Text ScriptGlue.Xml

/-- Something that has an identifier in the graph, with that of its owner. -/
inductive Entity where
  /-- A compound, which nothing owns. -/
  | compound (c : Compound)
  /-- A member of a compound. -/
  | member (m : Member) (owner : String)
  /-- An enumerator of an enumeration. -/
  | enumerator (s : Symbol) (owner : String)
  deriving DecidableEq, Repr

namespace Entity

/-- What the documentation says about the entity. -/
def symbol : Entity → Symbol
  | compound c => c.toSymbol
  | member m _ => m.toSymbol
  | enumerator s _ => s

/-- The identifier of the owner. -/
def owner? : Entity → Option String
  | compound _ => none
  | member _ owner | enumerator _ owner => some owner

end Entity

/-- The documentation that has been read. -/
structure Graph where
  /-- Every symbol by its identifier. -/
  symbols : OrderedMap Entity := ∅
  /-- The compounds by name. -/
  byName : OrderedMap Compound := ∅
  /-- The enumerations by name, as identifiers. -/
  enums : OrderedMap String := ∅
  /-- All compounds in document order. -/
  compounds : List Compound := []
  /-- Which members are shown together. -/
  groups : OverloadGroups := {}
  /-- The page of things that remain to be done. -/
  todos : List PageEntry := []
  /-- The page of known faults. -/
  bugs : List PageEntry := []
  /-- Words that are taken out of the return types of functions. -/
  ignoredTokens : List String := []

/-! ### Compounds -/

/-- The compound that an element describes, without its members. -/
def readCompound (e : Element) : Compound :=
  let kind := e.valueOf "kind"
  let name := lineOf (e.find? "compoundname")
  let id := e.valueOf "id"
  let s : Symbol := {
    id := if id.isEmpty then kind ++ "_" ++ name else id
    kind
    name
    visibility := .ofName (e.valueOf? "prot") }
  let s := (s.describe e).locate e
  { s with
    baseClasses := (e.named "basecompoundref").map fun base => lineOf (some base)
    includes := if kind == "file" then (e.named "includes").map fun i => lineOf (some i) else [] }

/-- The elements that describe the members of a compound. -/
def memberElements (e : Element) : List Element := (e.named "sectiondef").flatMap (·.named "memberdef")

/-- The element describes an enumeration with a number that cannot be spelled. -/
def isUnspellable (e : Element) : Bool :=
  e.valueOf "kind" == "enum" && !startsWith (lineOf (e.find? "name")) "@" && !spellsEnumerators e

/-- The enumerators of a member and the member, as entities of the graph. -/
def Member.entities (m : Member) (owner : String) : List Entity :=
  m.enumerators.map (Entity.enumerator · m.id) ++ [.member m owner]

/-- A compound and all its members, as entities of the graph. -/
def Compound.entities (c : Compound) : List Entity := .compound c :: c.members.flatMap (·.entities c.id)

namespace Graph

/-- The symbol of the given identifier. -/
def symbol? (g : Graph) (id : String) : Option Entity := g.symbols.get? id

/-- The compound of the given name. -/
def find? (g : Graph) (name : String) : Option Compound := g.byName.get? name

/-- The graph with an entity under its identifier. -/
def register (g : Graph) (e : Entity) : Logged Graph := do
  let id := e.symbol.id
  if g.symbols.contains id then
    .say .debug ("Duplicate symbol id " ++ id ++ ", keeping the latest definition")
  pure { g with symbols := g.symbols.insert id e }

/-- The graph with the entities in order. -/
def registerAll (g : Graph) : List Entity → Logged Graph
  | [] => pure g
  | e :: rest => do (← g.register e).registerAll rest

/-- The graph with a compound, whose directives have been applied, and its members. -/
def insertCompound (g : Graph) (c : Compound) : Logged Graph := do
  let g ← g.registerAll c.entities
  let enums := (c.members.filter (·.kind == "enum")).foldl (fun enums m => enums.insert m.name m.id) g.enums
  pure { g with byName := g.byName.insert c.name c, enums, compounds := g.compounds ++ [c] }

/-- The graph with the compound that an element describes. Where the numbers of an enumeration cannot be
spelled, only what stands before the enumerator is kept, and no directive takes effect. -/
def addCompound (g : Graph) (e : Element) : Logged (Graph × Option Failure) := do
  let c := readCompound e
  let described := memberElements e
  let sound := described.takeWhile (!isUnspellable ·)
  let c := { c with members := readMembers g.ignoredTokens c.id 0 sound }
  match described.drop sound.length with
  | [] =>
    let (c, groups) := Directive.applyCompound c g.groups
    pure (← { g with groups }.insertCompound c, none)
  | faulty :: _ =>
    let g ← g.insertCompound c
    let partly := (readMember? g.ignoredTokens c.id c.members.length faulty).elim [] (·.entities c.id)
    pure (← g.registerAll partly.dropLast, some .numberTooLong)

/-! ### Pages -/

/-- The entries of a list of remarks: each term with the text that follows it, if any. -/
def pageEntries : List Element → List PageEntry
  | [] => []
  | term :: rest =>
    if term.tag == "varlistentry" then
      let value := match rest with
        | item :: _ => if item.tag == "listitem" then proseOf item.content else ""
        | [] => ""
      ⟨lineOf (some term), value⟩ :: pageEntries rest
    else pageEntries rest

/-- The graph with the remarks of a page; pages of other kinds are passed over. -/
def addPage (g : Graph) (e : Element) : Logged Graph := do
  let entries := (e.content.everyNamed "variablelist").flatMap fun list => pageEntries list.content.elements
  match e.valueOf "id" with
  | "todo" => pure { g with todos := g.todos ++ entries }
  | "bug" => pure { g with bugs := g.bugs ++ entries }
  | id => do
    .say .debug ("Skipping documentation page " ++ id)
    pure g

/-! ### Documents -/

/-- The graph with what the elements describe in order, up to the first failure. -/
def addElements (g : Graph) : List Element → Logged (Graph × Option Failure)
  | [] => pure (g, none)
  | e :: rest => do
    if e.valueOf "kind" == "page" then (← g.addPage e).addElements rest
    else
      match ← g.addCompound e with
      | (g, none) => g.addElements rest
      | (g, some failure) => pure (g, some failure)

/-- The elements of a document that describe compounds. -/
def compoundElements (root : Element) : List Element :=
  if root.tag == "compounddef" then [root] else root.named "compounddef"

/-- The graph with a documentation text added. -/
def addText (g : Graph) (text : String) : Logged (Graph × Option Failure) :=
  match readDocument? text with
  | some root => g.addElements (compoundElements root)
  | none => pure (g, some .malformedText)

/-- The graph with the documentation in the file of the given path and text added. -/
def addFile (g : Graph) (path text : String) : Logged (Graph × Option Failure) :=
  match readFile text with
  | .ok root => g.addElements (compoundElements root)
  | .error .malformed => pure (g, some (.malformedFile path))
  | .error (.coding fault) => pure (g, some (.coding fault))

/-- The graph with the overloads of its classes grouped, and the number of links made. -/
def groupOverloads (g : Graph) : Logged (Graph × Nat) := do
  let (groups, linked) := OverloadGroups.groupAll g.compounds g.groups
  .say .debug ("Grouped " ++ toString linked ++ " undocumented overloads")
  pure ({ g with groups }, linked)

end Graph

end ScriptGlue
