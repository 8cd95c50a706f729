import ScriptGlue.Cpp.Category
import ScriptGlue.Failure

/-!
# Carrying values

The snippets of generated code that take a value from the stack of the script engine, push one to it, or
test an argument. A snippet is a value that names the helper it uses and the class it uses it for; its
text is written from that.
-/

namespace ScriptGlue

open ScriptGlue.Cpp

/-- The constant that identifies a class to the script engine. -/
def classId (className : String) : String := className ++ "_ID"

/-- The function that ends the life of a value of a class. -/
def finalizerName (className : String) : String := className ++ "_Finalizer"

/-! ### Reading -/

/-- How a value is taken from the stack. -/
inductive Fetch where
  /-- A number, converted to the given type. -/
  | number (type : String)
  /-- A truth value. -/
  | boolean
  /-- A string of either class. -/
  | string
  /-- A value of any type. -/
  | variant
  /-- A vector of strings. -/
  | strings
  /-- A vector of values of a class. -/
  | values (className : String)
  /-- A vector of counted objects of a class. -/
  | objects (className : String)
  /-- A shared pointer to a counted object of a class. -/
  | shared (className : String)
  /-- A pointer to a value of a class. -/
  | valuePointer (className : String)
  /-- A reference to a value of a class, which must be there. -/
  | valueReference (className : String)
  /-- A reference to a counted object of a class, which must be there. -/
  | objectReference (className : String)
  /-- A pointer to a counted object of a class. -/
  | objectPointer (className : String)
  deriving DecidableEq, Repr

namespace Fetch

/-- The expression that takes the value at an index. -/
def expression (index : Int) : Fetch → String
  | number type =>
    if type == "double" then s!"duk_require_number(ctx, {index})"
    else if Text.occursIn "::" type then s!"({type})(int)duk_require_number(ctx, {index})"
    else s!"({type})duk_require_number(ctx, {index})"
  | boolean => s!"duk_require_boolean(ctx, {index})"
  | string => s!"duk_require_string(ctx, {index})"
  | variant => s!"GetVariant(ctx, {index})"
  | strings => s!"GetStringVector(ctx, {index})"
  | values c => s!"GetValueObjectVector<{c}>(ctx, {index}, {classId c})"
  | objects c => s!"GetWeakObjectVector<{c}>(ctx, {index})"
  | shared c | objectPointer c => s!"GetWeakObject<{c}>(ctx, {index})"
  | valuePointer c => s!"GetValueObject<{c}>(ctx, {index}, {classId c})"
  | valueReference c => s!"*GetCheckedValueObject<{c}>(ctx, {index}, {classId c})"
  | objectReference c => s!"*GetCheckedWeakObject<{c}>(ctx, {index})"

/-- The value is a pointer. -/
def isPointer : Fetch → Bool
  | valuePointer _ | objectPointer _ => true
  | _ => false

/-- The value is a reference. -/
def isReference : Fetch → Bool
  | valueReference _ | objectReference _ => true
  | _ => false

/-- The value is given to the constructor of its variable. -/
def isDirect : Fetch → Bool
  | shared _ => true
  | _ => false

end Fetch

/-- A variable that takes its value from the stack. -/
structure StackRead where
  /-- The type of the variable. -/
  typeName : String
  /-- The name of the variable. -/
  variableName : String
  /-- Where the value is on the stack. -/
  index : Int
  /-- How it is taken. -/
  fetch : Fetch
  deriving DecidableEq, Repr

namespace StackRead

/-- The expression that takes the value. -/
def expression (r : StackRead) : String := r.fetch.expression r.index

/-- The type and name of the variable. -/
def declarator (r : StackRead) (isReference : Bool) : String :=
  if r.fetch.isPointer then s!"{r.typeName}* {r.variableName}"
  else if isReference then s!"{r.typeName}& {r.variableName}"
  else s!"{r.typeName} {r.variableName}"

/-- The statement that declares the variable. -/
def statement (r : StackRead) : String :=
  if r.fetch.isDirect then s!"{r.typeName} {r.variableName}({r.expression});"
  else s!"{r.declarator r.fetch.isReference} = {r.expression};"

/-- The statement that declares the variable with `fallback` for an argument that is not passed; what
would be a reference becomes a value. -/
def statementOr (r : StackRead) (fallback : String) : String :=
  let wrap (value : String) : String := if r.fetch.isDirect then s!"{r.typeName}({value})" else value
  s!"{r.declarator false} = numArgs > {r.index} ? {wrap r.expression} : {wrap fallback};"

end StackRead

/-! ### Pushing -/

/-- How a value is pushed to the stack. -/
inductive Push where
  /-- A number. -/
  | number
  /-- A truth value. -/
  | boolean
  /-- A string. -/
  | string (kind : StringKind)
  /-- A value of any type. -/
  | variant
  /-- A vector of strings. -/
  | strings
  /-- A vector of values of a class. -/
  | values (className : String)
  /-- A vector of counted objects. -/
  | objects
  /-- A map to objects. -/
  | map
  /-- A counted object. -/
  | object
  /-- A copy of a value of a class. -/
  | copy (className : String)
  /-- A value of a class where it is inside its owner; the source is a pointer already or is taken the
  address of. -/
  | inPlace (className : String) (isPointer : Bool)
  deriving DecidableEq, Repr

/-- The statement that pushes the value of an expression. -/
def Push.statement (source : String) : Push → String
  | number => s!"duk_push_number(ctx, {source});"
  | boolean => s!"duk_push_boolean(ctx, {source});"
  | string .standard => s!"duk_push_string(ctx, {source}.c_str());"
  | string .framework => s!"duk_push_string(ctx, {source}.CString());"
  | variant => s!"PushVariant(ctx, {source});"
  | strings => s!"PushStringVector(ctx, {source});"
  | values c => s!"PushValueObjectVector(ctx, {source}, {classId c}, {finalizerName c});"
  | objects => s!"PushWeakObjectVector(ctx, {source});"
  | map => s!"PushWeakObjectMap(ctx, {source});"
  | object => s!"PushWeakObject(ctx, {source});"
  | copy c => s!"PushValueObjectCopy<{c}>(ctx, {source}, {classId c}, {finalizerName c});"
  | inPlace c isPointer =>
    let address := if isPointer then "" else "&"
    s!"PushValueObject<{c}>(ctx, {address}{source}, {classId c}, nullptr, true);"

/-! ### Testing -/

/-- A test whether an argument can be read. -/
inductive ArgCheck where
  /-- It is a number. -/
  | number
  /-- It is a truth value. -/
  | boolean
  /-- It is a string. -/
  | string
  /-- It is an object of the script side. -/
  | object
  /-- It is a value of a class. -/
  | value (className : String)
  deriving DecidableEq, Repr

/-- The condition that tests the argument at an index. -/
def ArgCheck.condition (index : Int) : ArgCheck → String
  | number => s!"duk_is_number(ctx, {index})"
  | boolean => s!"duk_is_boolean(ctx, {index})"
  | string => s!"duk_is_string(ctx, {index})"
  | object => s!"duk_is_object(ctx, {index})"
  | value c => s!"GetValueObject<{c}>(ctx, {index}, {classId c})"

/-! ### Snippets by type -/

namespace Cpp.Vocabulary

variable (v : Vocabulary)

/-- How a value of a type is taken from the stack. -/
def fetch (text : String) : Except Failure Fetch :=
  let info := v.classify text
  match info.category with
  | .number => .ok (.number info.name)
  | .bool => .ok .boolean
  | .string _ => .ok .string
  | .variant => .ok .variant
  | .vector _ (.string _) => .ok .strings
  | .vector element (.object .value) => .ok (.values element)
  | .vector element (.object .weak) => .ok (.objects element)
  | .sharedPtr element => .ok (.shared element)
  | .object .value => .ok (if info.descriptor.isPointer then .valuePointer info.name else .valueReference info.name)
  | .object .weak =>
    .ok (if info.descriptor.isReference then .objectReference info.name else .objectPointer info.name)
  | .void | .map _ _ | .unsupported _ => .error (.unsupportedType info.name .reading)

/-- The variable of a type that takes the value at an index. -/
def read (text : String) (index : Int) (variableName : String) : Except Failure StackRead :=
  (v.fetch text).map fun fetch =>
    let typeName := match fetch with
      | .shared element => s!"SharedPtr<{element}>"
      | _ => (v.classify text).name
    { typeName, variableName, index, fetch }

/-- How a value of a type is pushed to the stack. -/
def push (text : String) : Except Failure Push :=
  let info := v.classify text
  match info.category with
  | .number => .ok .number
  | .bool => .ok .boolean
  | .string kind => .ok (.string kind)
  | .variant => .ok .variant
  | .vector _ (.string _) => .ok .strings
  | .vector element (.object .value) => .ok (.values element)
  | .vector _ (.object .weak) => .ok .objects
  | .map _ _ => .ok .map
  | .sharedPtr _ | .object .weak => .ok .object
  | .object .value => .ok (.copy info.name)
  | .void | .unsupported _ => .error (.unsupportedType info.name .pushing)

/-- The test whether an argument can be read as a type, nothing if every value can. An object that
counts references may be missing. -/
def argCheck (text : String) : Except Failure (Option ArgCheck) :=
  let info := v.classify text
  match info.category with
  | .number => .ok (some .number)
  | .bool => .ok (some .boolean)
  | .string _ => .ok (some .string)
  | .vector _ _ => .ok (some .object)
  | .object .value => .ok (some (.value info.name))
  | .object .weak | .sharedPtr _ | .variant => .ok none
  | .void | .map _ _ | .unsupported _ => .error (.unsupportedType info.name .checking)

end Cpp.Vocabulary

/-! ### Objects -/

/-- How a function gets at the object it is called on. -/
structure ThisAccess where
  /-- The class of the object. -/
  className : String
  /-- How objects of the class are owned. -/
  ownership : Ownership
  deriving DecidableEq, Repr

namespace ThisAccess

/-- The statement that declares a pointer to the object. -/
def statement (a : ThisAccess) (variableName : String) : String :=
  let c := a.className
  match a.ownership with
  | .weak => s!"{c}* {variableName} = GetThisWeakObject<{c}>(ctx);"
  | .value => s!"{c}* {variableName} = GetThisValueObject<{c}>(ctx, {classId c});"

end ThisAccess

/-- The access to an object of a class. -/
def Cpp.Vocabulary.thisAccess (v : Vocabulary) (className : String) : ThisAccess := ⟨className, v.ownership className⟩

/-- The statement that gives a new object of a class to the script side. -/
def constructorResult (className source : String) : String :=
  s!"PushConstructorResult<{className}>(ctx, {source}, {classId className}, {finalizerName className});"

end ScriptGlue
