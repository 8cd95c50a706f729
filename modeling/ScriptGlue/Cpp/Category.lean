import ScriptGlue.Config.Basic
import ScriptGlue.Cpp.Descriptor

/-!
# Type categories

How a C++ type is carried to the script side and back. A type is classified by its bare name, the
classes that are registered and the tables of the configuration; what has no category is unsupported.
-/

namespace ScriptGlue.Cpp

open ScriptGlue.Text

/-- How the objects of a class are owned. -/
inductive Ownership where
  /-- Copied by value and owned by the script side. -/
  | value
  /-- Counted references, held weakly by the script side. -/
  | weak
  deriving DecidableEq, Repr

/-- The string classes. -/
inductive StringKind where
  /-- The string of the standard library. -/
  | standard
  /-- The string of the framework. -/
  | framework
  deriving DecidableEq, Repr

/-- What a vector holds. -/
inductive VectorElement where
  /-- Strings. -/
  | string (kind : StringKind)
  /-- Objects of a registered class. -/
  | object (ownership : Ownership)
  deriving DecidableEq, Repr

/-- The way a type is carried. -/
inductive Category where
  | void
  | bool
  | number
  | string (kind : StringKind)
  | variant
  /-- A vector, with the name of its elements. -/
  | vector (element : String) (holds : VectorElement)
  /-- A map to objects of a registered class. -/
  | map (element : String) (ownership : Ownership)
  /-- A shared pointer to an object of a registered class that counts references. -/
  | sharedPtr (element : String)
  /-- An object of a registered class. -/
  | object (ownership : Ownership)
  /-- No way; for a container, with the name of its elements. -/
  | unsupported (element : String)
  deriving DecidableEq, Repr

/-- A type with its category. -/
structure TypeInfo where
  /-- The reduced spelling. -/
  descriptor : Descriptor
  /-- How it is carried. -/
  category : Category
  deriving DecidableEq, Repr

namespace TypeInfo

/-- The bare name of the type. -/
def name (info : TypeInfo) : String := info.descriptor.name

/-- The type can be carried. -/
def isSupported (info : TypeInfo) : Bool :=
  match info.category with
  | .unsupported _ => false
  | _ => true

/-- The type is an object or a shared pointer to one. -/
def isObject (info : TypeInfo) : Bool :=
  match info.category with
  | .object _ | .sharedPtr _ => true
  | _ => false

/-- The registered class that the type refers to, empty if it refers to none. -/
def className (info : TypeInfo) : String :=
  match info.category with
  | .object _ => info.name
  | .vector element (.object _) | .map element _ | .sharedPtr element => element
  | _ => ""

end TypeInfo

/-! ### Classification -/

/-- The string class of a bare name. -/
def StringKind.ofName? (name : String) : Option StringKind :=
  if name == "string" then some .standard
  else if name == "String" then some .framework
  else none

/-- Bare names that have a category of their own, numbers apart. -/
def isPrimitive (name : String) : Bool := ["void", "bool", "Variant", "string", "String"].contains name

/-- The types a generator knows: its tables, the registered classes, and who counts references. -/
structure Vocabulary where
  /-- The tables. -/
  config : Config
  /-- The names of the registered classes. -/
  classes : List String
  /-- The class of the given name counts references. -/
  isRefcounted : String → Bool

namespace Vocabulary

/-- The bare name is that of a number. -/
def isNumber (v : Vocabulary) (name : String) : Bool := v.config.numberTypes.contains name

/-- The bare name is that of a value without parts: a number or a truth value. -/
def isPlain (v : Vocabulary) (name : String) : Bool := v.isNumber name || name == "bool"

/-- The bare name is that of a registered class. -/
def isRegistered (v : Vocabulary) (name : String) : Bool := v.classes.contains name

/-- The class that an element name of a container stands for. -/
def substitute (v : Vocabulary) (element : String) : String :=
  v.config.templateSubstitutions.getD element element

/-- The spelling matches the deny-list; strings are always allowed. -/
def isDenied (v : Vocabulary) (text : String) : Bool :=
  (StringKind.ofName? (Descriptor.nameOf text)).isNone && v.config.deniedTypes.any (·.denies (trim text))

/-- How the objects of a class are owned. -/
def ownership (v : Vocabulary) (name : String) : Ownership :=
  if v.isRefcounted name then .weak else .value

/-- The element name of a container whose bare name ends in `suffix`. -/
def containerElement? (v : Vocabulary) (suffix name : String) : Option String :=
  if endsWith name suffix then some (v.substitute (dropEnd name suffix.length)) else none

/-- The category of a vector of the given elements. -/
def vectorOf (v : Vocabulary) (element : String) : Category :=
  match StringKind.ofName? element with
  | some kind => .vector element (.string kind)
  | none =>
    if v.isRegistered element then .vector element (.object (v.ownership element)) else .unsupported element

/-- The category of a map to the given elements. -/
def mapOf (v : Vocabulary) (element : String) : Category :=
  if v.isRegistered element then .map element (v.ownership element) else .unsupported element

/-- The category of a shared pointer to the given class, which must count references. -/
def sharedPtrOf (v : Vocabulary) (element : String) : Category :=
  if v.isRegistered element && v.isRefcounted element then .sharedPtr element else .unsupported element

/-- The category of a bare name. -/
def categoryOf (v : Vocabulary) (name : String) : Category :=
  if name == "void" then .void
  else if name == "bool" then .bool
  else if v.isNumber name then .number
  else
    match StringKind.ofName? name with
    | some kind => .string kind
    | none =>
      if name == "Variant" then .variant
      else
        match v.containerElement? "Vector" name with
        | some element => v.vectorOf element
        | none =>
          match v.containerElement? "Map" name with
          | some element => v.mapOf element
          | none =>
            match v.containerElement? "Ptr" name with
            | some element => v.sharedPtrOf element
            | none => if v.isRegistered name then .object (v.ownership name) else .unsupported ""

/-- The type of a spelling. Denied spellings and pointers to primitives are unsupported. -/
def classify (v : Vocabulary) (text : String) : TypeInfo :=
  let d := Descriptor.ofText text
  if v.isDenied text || d.isPointer && (isPrimitive d.name || v.isNumber d.name) then
    ⟨d, .unsupported ""⟩
  else ⟨d, v.categoryOf d.name⟩

end Vocabulary

end ScriptGlue.Cpp
