import ScriptGlue.Cpp.Descriptor
import ScriptGlue.Text.Quoted

/-!
# Documented symbols

What the documentation says about a class, a member or a constant. Every symbol carries the same record;
a member holds its enumerators besides, and a compound its members.
-/

namespace ScriptGlue

open ScriptGlue.Text

/-- Who may use a symbol. -/
inductive Visibility where
  | «public»
  | «protected»
  | «private»
  deriving DecidableEq, Repr

namespace Visibility

/-- The visibility that a document names; whatever is not restricted is public. -/
def ofName : Option String → Visibility
  | some "protected" => .protected
  | some "private" => .private
  | _ => .public

/-- The name of the visibility. -/
def name : Visibility → String
  | .public => "public"
  | .protected => "protected"
  | .private => "private"

end Visibility

/-- Whether a function can be overridden. -/
inductive Virtualness where
  | none
  | virtual
  | pure
  deriving DecidableEq, Repr

namespace Virtualness

/-- The virtualness that a document names. -/
def ofName : Option String → Virtualness
  | some "virtual" => .virtual
  | some "pure-virtual" => .pure
  | _ => .none

/-- The name of the virtualness. -/
def name : Virtualness → String
  | .none => "non-virtual"
  | .virtual => "virtual"
  | .pure => "pure-virtual"

end Virtualness

/-! ### Parameters -/

/-- A parameter of a function or a macro. -/
structure Parameter where
  /-- The type as it is spelled. -/
  type : String := ""
  /-- The name, empty if it has none. -/
  name : String := ""
  /-- The default value, empty if it has none. -/
  defaultValue : String := ""
  /-- What the documentation says about it. -/
  comment : String := ""
  deriving DecidableEq, Repr

namespace Parameter

/-- The spelling without a leading `const`. -/
def dropLeadingConst (s : String) : String := if startsWith s "const" then trim (dropStart s 5) else s

/-- The spelling without a trailing `const`. -/
def dropTrailingConst (s : String) : String := if endsWith s "const" then trim (dropEnd s 5) else s

/-- The parameter can be left out in a call. -/
def hasDefault (p : Parameter) : Bool := !p.defaultValue.isEmpty

/-- The type without its reference mark and outer constness: `const float3 &` gives `float3`, and
`float3 * const` gives `float3 *`. -/
def basicType (p : Parameter) : String :=
  let s := trim p.type
  dropTrailingConst (if endsWith s "&" then dropLeadingConst (trim (dropEnd s 1)) else s)

/-- The type without a leading and a trailing `const`, any reference or pointer mark kept. -/
def readType (p : Parameter) : String := dropTrailingConst (dropLeadingConst (trim p.type))

/-- The parameter is a pointer. -/
def isPointer (p : Parameter) : Bool := endsWith p.basicType "*"

/-- The parameter is a reference. -/
def isReference (p : Parameter) : Bool := endsWith (trim p.type) "&"

end Parameter

/-! ### Symbols -/

/-- An entry of a page that lists remarks of one kind. -/
structure PageEntry where
  /-- What the remark is about. -/
  item : String
  /-- The remark. -/
  value : String
  deriving DecidableEq, Repr

/-- What the documentation says about one entity. -/
structure Symbol where
  /-- The identifier by which others refer to it. -/
  id : String := ""
  /-- The kind, such as `class`, `function` or `variable`. -/
  kind : String := ""
  /-- The name, qualified for a compound. -/
  name : String := ""
  /-- The type of a variable or of what a function returns. -/
  type : String := ""
  /-- Who may use it. -/
  visibility : Visibility := .public
  /-- Whether it can be overridden. -/
  virtualness : Virtualness := .none
  /-- It belongs to the class and not to its objects. -/
  isStatic : Bool := false
  /-- It is marked as constant. -/
  isConst : Bool := false
  /-- It is marked as mutable. -/
  isMutable : Bool := false
  /-- It is marked as explicit. -/
  isExplicit : Bool := false
  /-- What follows the name in its declaration. -/
  argList : String := ""
  /-- The declaration in full. -/
  fullDefinition : String := ""
  /-- The parameters in order. -/
  parameters : List Parameter := []
  /-- The short description. -/
  brief : String := ""
  /-- The long description. -/
  detailed : String := ""
  /-- The description inside its body. -/
  inbody : String := ""
  /-- What is said about the returned value. -/
  returnComment : String := ""
  /-- What is referred to. -/
  seeAlso : String := ""
  /-- Who is named as the author. -/
  author : String := ""
  /-- The notes in order. -/
  notes : List String := []
  /-- What remains to be done, in order. -/
  todos : List String := []
  /-- The known faults, in order. -/
  bugs : List String := []
  /-- The file that holds its body or declaration. -/
  sourceFile : String := ""
  /-- The first line there. -/
  lineStart : Int := 0
  /-- The last line there. -/
  lineEnd : Int := 0
  /-- The value of an enumerator. -/
  value : String := ""
  /-- What a macro stands for. -/
  macroBody : String := ""
  /-- The category it is listed under. -/
  category : String := ""
  /-- The title it is listed by, if one is set; empty if it is not listed. -/
  indexTitle : Option String := none
  /-- It is shown together with the overloads before it. -/
  groupSyntax : Bool := false
  /-- The base classes of a class. -/
  baseClasses : List String := []
  /-- The includes of a file. -/
  includes : List String := []
  deriving DecidableEq, Repr

/-- A member of a compound, with its enumerators if it is an enumeration. -/
structure Member extends Symbol where
  /-- The enumerators in order. -/
  enumerators : List Symbol := []
  deriving DecidableEq, Repr

/-- A class, namespace, file or other unit of the documentation with its members. -/
structure Compound extends Symbol where
  /-- The members in order. -/
  members : List Member := []
  deriving DecidableEq, Repr

namespace Symbol

/-- The descriptions that say something: short, long, inside the body. -/
def comments (s : Symbol) : List String := [s.brief, s.detailed, s.inbody].filter (!·.isEmpty)

/-- The symbol is described. -/
def hasComments (s : Symbol) : Bool := !s.comments.isEmpty

/-- The short description, or the long one up to its first period. -/
def briefComment (s : Symbol) : String :=
  if !s.brief.isEmpty then s.brief
  else
    match cutFirst ['.'] s.detailed.toList with
    | some (before, _) => String.ofList before
    | none => s.detailed

/-- The first parameter of the given name. -/
def findParameter? (s : Symbol) (name : String) : Option Parameter := s.parameters.find? (·.name == name)

/-- The symbol cannot be assigned to, or does not change its object. -/
def isConstQualified (s : Symbol) : Bool :=
  s.isConst ||
    (if s.kind == "function" then endsWith (trim s.argList) "const"
    else if s.kind == "variable" then occursIn "const" s.type
    else false)

/-- The symbol has array bounds. -/
def isArray (s : Symbol) : Bool := occursIn "[" s.argList

/-- What stands before the last `::` of the name. -/
def nameSpace (s : Symbol) : String := Cpp.namespaceOf [] s.name

/-- What stands after the last `::` of the name. -/
def bareName (s : Symbol) : String := Cpp.stripNamespace [] s.name

/-- The names of the parameters in parentheses. -/
def parameterNames (s : Symbol) : String := "(" ++ ",".intercalate (s.parameters.map (·.name)) ++ ")"

/-- The symbol as it is shown in a message. -/
def display (s : Symbol) : String :=
  "Symbol(" ++ s.kind ++ " " ++ quoted s.name ++ ", id=" ++ quoted s.id ++ ")"

end Symbol

end ScriptGlue
