import ScriptGlue.Binding.Accessor
import ScriptGlue.Log

/-!
# Bindings units

The bindings of one class: the constants and finalizers of the classes it depends on, the accessors, thunks
and selectors of its members, the lists of its functions, and the function that exposes the class to the
script engine. A unit is built as a value and then written out.
-/

namespace ScriptGlue

open ScriptGlue.Cpp

/-! ### Parts of a unit -/

/-- An entry of a list of functions. -/
structure FunctionEntry where
  /-- The name for scripts. -/
  scriptName : String
  /-- The function that is called. -/
  function : String
  /-- How many arguments it takes. -/
  argCount : ArgCount
  deriving DecidableEq, Repr

/-- A list of functions that the script engine reads. -/
structure FunctionList where
  /-- The name of the list. -/
  name : String
  /-- Its entries. -/
  entries : List FunctionEntry
  deriving DecidableEq, Repr

/-- The lines of a list of functions. -/
def FunctionList.lines (l : FunctionList) : List String :=
  let entries := l.entries.mapIdx fun i e =>
    (if i == 0 then "" else ",") ++ "\x7b\"" ++ e.scriptName ++ "\", " ++ e.function ++ ", " ++
      e.argCount.spelling ++ "\x7d"
  ["static const duk_function_list_entry " ++ l.name ++ "[] = \x7b"] ++ indentedAll 1 entries ++
    [indented 1 ",\x7bnullptr, nullptr, 0\x7d", "\x7d;", ""]

/-- What the objects of a class have in common. -/
structure Prototype where
  /-- The list of its functions, if it has any. -/
  functionList? : Option String
  /-- Its properties. -/
  properties : List Property
  deriving DecidableEq, Repr

/-- The function that exposes a class to the script engine. -/
structure Exposure where
  /-- The class. -/
  className : String
  /-- The function that makes objects, if scripts can make any. -/
  constructor? : Option String
  /-- The list of the functions that need no object, if there are any. -/
  staticList? : Option String
  /-- The enumerators of the class with their values. -/
  constants : List (String × String)
  /-- What its objects have in common, if anything. -/
  prototype? : Option Prototype
  deriving DecidableEq, Repr

namespace Exposure

/-- The name of the function. -/
def name (e : Exposure) : String := "Expose_" ++ e.className

/-- The statement that makes a property known. -/
def propertyStatement (p : Property) : String :=
  let setter := p.setter.getD "nullptr"
  s!"DefineProperty(ctx, \"{p.name}\", {p.getter}, {setter});"

/-- The statement that adds a list of functions to an object. -/
def listStatement (list : String) : String := s!"duk_put_function_list(ctx, -1, {list});"

/-- The statements of the function. -/
def statements (e : Exposure) : List String :=
  [match e.constructor? with
    | some name => s!"duk_push_c_function(ctx, {name}, DUK_VARARGS);"
    | none => "duk_push_object(ctx);"] ++
  e.staticList?.toList.map listStatement ++
  e.constants.flatMap (fun (name, value) =>
    [s!"duk_push_number(ctx, {value});", s!"duk_put_prop_string(ctx, -2, \"{name}\");"]) ++
  e.prototype?.elim [] (fun p =>
    ["duk_push_object(ctx);"] ++ p.functionList?.toList.map listStatement ++
      p.properties.map propertyStatement ++ ["duk_put_prop_string(ctx, -2, \"prototype\");"]) ++
  [s!"duk_put_global_string(ctx, {classId e.className});"]

/-- The lines of the function. -/
def lines (e : Exposure) : List String :=
  ["void " ++ e.name ++ "(duk_context* ctx)", "\x7b"] ++ indentedAll 1 e.statements ++ ["\x7d", ""]

end Exposure

/-- A part of a unit. -/
inductive UnitPart where
  /-- The finalizer of a class. -/
  | finalizer (className : String)
  | getter (g : Getter)
  | setter (s : Setter)
  /-- The classes of a signal. -/
  | signalClasses (s : Signal)
  /-- The functions of a signal. -/
  | signalFunctions (s : Signal)
  | thunk (t : Thunk)
  | selector (s : Selector)
  | functionList (l : FunctionList)
  | exposure (e : Exposure)
  deriving DecidableEq, Repr

/-- The lines of the finalizer of a class. -/
def finalizerLines (className : String) : List String :=
  functionLines (finalizerName className)
    [s!"FinalizeValueObject<{className}>(ctx, {classId className});", "return 0;"]

/-- The lines of a part. -/
def UnitPart.lines : UnitPart → List String
  | finalizer className => finalizerLines className
  | getter g => g.lines
  | setter s => s.lines
  | signalClasses s => s.classLines
  | signalFunctions s => s.connectLines ++ s.disconnectLines ++ s.emitLines ++ s.getterLines
  | thunk t => t.lines
  | selector s => s.lines
  | functionList l => l.lines
  | exposure e => e.lines

/-- The bindings of a class. -/
structure BindingsUnit where
  /-- The class. -/
  className : String
  /-- The header of the class, if one is known. -/
  ownHeader? : Option String
  /-- The headers of the classes it depends on. -/
  dependencyHeaders : List String
  /-- The lines that bring namespaces into scope. -/
  usingLines : List String
  /-- The classes it depends on whose constants are declared. -/
  idClasses : List String
  /-- The classes it depends on whose finalizers are defined. -/
  finalizerClasses : List String
  /-- The other parts in order. -/
  parts : List UnitPart
  deriving DecidableEq, Repr

/-! ### Text of a unit -/

/-- The headers that every unit includes first. -/
def runtimeHeaders : List String := ["StableHeaders.h", "CoreTypes.h", "JavaScriptInstance.h", "LoggingFunctions.h"]

/-- The lines that every unit begins with. -/
def bannerLines : List String :=
  ["// For conditions of distribution and use, see copyright notice in LICENSE",
    "// This file has been autogenerated with BindingsGenerator"]

/-- The line that includes a header. -/
def includeLine (header : String) : String := "#include \"" ++ header ++ "\""

/-- The text of a unit whose declarations (constants, finalizers, the constant of the class itself) and
further parts are given as text. -/
def unitText (ownHeaders dependencyHeaders usingLines : List String) (ids finalizers ownId : String)
    (parts : List String) : String :=
  block (bannerLines ++ [""] ++ (runtimeHeaders ++ ownHeaders).map includeLine ++
    ["", "#ifdef _MSC_VER", "#pragma warning(disable: 4800)", "#endif", ""] ++
    dependencyHeaders.map includeLine ++ [""] ++ (if 1 < usingLines.length then [""] else []) ++ usingLines ++
    ["", "namespace JSBindings", "\x7b", ""]) ++
    ids ++ "\n" ++ finalizers ++ "\n" ++ ownId ++ "\n" ++ String.join parts ++ "\x7d\n"

/-- The line that declares the constant of a class. -/
def classIdLine (className : String) : String := idLine className (classId className)

/-- The declarations of a unit as text: the constants of some classes, the finalizers of some, and the
constant of the class itself. -/
def declarationTexts (idClasses finalizerClasses : List String) (className : String) :
    String × String × String :=
  (block (idClasses.map classIdLine), block (finalizerClasses.flatMap finalizerLines),
    block [classIdLine className])

namespace BindingsUnit

/-- The declarations of the unit. -/
def declarations (u : BindingsUnit) : String × String × String :=
  declarationTexts u.idClasses u.finalizerClasses u.className

/-- The text of the unit. -/
def text (u : BindingsUnit) : String :=
  let (ids, finalizers, ownId) := u.declarations
  unitText u.ownHeader?.toList u.dependencyHeaders u.usingLines ids finalizers ownId
    (u.parts.map fun part => block part.lines)

end BindingsUnit

/-! ### Building a unit -/

namespace Registry

variable (r : Registry)

/-- The finalizer of a class as a part of a unit, unless it is among those already defined. -/
def finalizerPart (defined : List String) (className : String) : List UnitPart :=
  if defined.contains className then [] else [.finalizer className]

/-- The parts and the property of an exposed variable, `defined` being the classes whose finalizers are
already there. -/
def variableParts (c : Compound) (defined : List String) (m : Symbol) :
    Except Failure (List UnitPart × Property) := do
  let setter? ← r.vocabulary.setter? c.className m
  let getter ← r.vocabulary.getter c.className m
  let finalizer := (r.vocabulary.variableFinalizer? m.type).elim [] (finalizerPart defined)
  pure (finalizer ++ setter?.toList.map .setter ++ [.getter getter],
    { name := Text.lowerFirst m.name, getter := getter.name, setter := setter?.map (·.name) })

/-- The parts and the property of a signal. -/
def signalParts (defined : List String) (s : Signal) : List UnitPart × Property :=
  (.signalClasses s :: finalizerPart defined s.wrapper ++ [.signalFunctions s],
    { name := s.member, getter := s.getterName })

/-- The classes whose finalizers are among the parts. -/
def definedBy (parts : List UnitPart) : List String :=
  parts.filterMap fun
    | .finalizer className => some className
    | _ => none

/-- The parts and the property of a member that is a variable or a signal; those that are left out are
reported. -/
def accessor? (c : Compound) (defined : List String) (m : Symbol) :
    Attempt (Option (List UnitPart × Property)) := do
  if m.isSignal then
    if r.isRefcounted c.className && m.visibility == .public && !m.isStatic then
      let types := templateArguments (signalType m.type)
      if types.all r.vocabulary.isSignalType then
        let s ← r.vocabulary.signal c.className m types
        pure (some (signalParts defined s))
      else
        .say .info (m.name ++ " in class " ++ c.name ++ " unsupported signal parameters")
        pure none
    else pure none
  else if m.isCandidateVariable then
    match r.variableRejection? m with
    | some reason =>
      .say .info (m.name ++ " in class " ++ c.name ++ " " ++ reason.message)
      pure none
    | none => do
      let found ← r.variableParts c defined m
      pure (some found)
  else pure none

/-- The parts and properties of the members in order. -/
def accessors (c : Compound) (defined : List String) : List Symbol → Attempt (List UnitPart × List Property)
  | [] => pure ([], [])
  | m :: rest => do
    match ← r.accessor? c defined m with
    | none => accessors c defined rest
    | some (parts, property) => do
      let (later, properties) ← accessors c (defined ++ definedBy parts) rest
      pure (parts ++ later, property :: properties)

/-- The thunks of the sets, then the selectors of those that need one. -/
def dispatchParts (c : Compound) (sets : List OverloadSet) : Except Failure (List UnitPart) := do
  let thunks ← (sets.flatMap (·.overloads)).mapM (r.vocabulary.thunk c.className)
  let selectors ← (sets.filter (·.needsSelector)).mapM r.vocabulary.selector
  pure (thunks.map .thunk ++ selectors.map .selector)

/-- The sets that are listed: constructors are exposed through the class itself. -/
def listed (sets : List OverloadSet) : List OverloadSet :=
  sets.filter fun s => !s.isConstructor && !s.overloads.isEmpty

/-- The list of the functions of some sets, if there are any to list. -/
def functionList? (name : String) (sets : List OverloadSet) : Option FunctionList :=
  match listed sets with
  | [] => none
  | found =>
    some { name, entries := found.map fun s => ⟨s.scriptName, s.entryPoint, s.entryArgCount⟩ }

/-- The function that exposes the class. -/
def exposure (c : Compound) (instances : OrderedMap OverloadSet) (own statics : Option FunctionList)
    (properties : List Property) : Exposure :=
  let properties := properties ++ accessorProperties c.className instances
  { className := c.className
    constructor? := ((instances.get? (c.className ++ "_Ctor")).filter (!·.overloads.isEmpty)).map (·.entryPoint)
    staticList? := statics.map (·.name)
    constants := (c.members.filter (·.kind == "enum")).flatMap fun m => m.enumerators.map fun e => (e.name, e.value)
    prototype? :=
      if properties.isEmpty && own.isNone then none
      else some { functionList? := own.map (·.name), properties } }

/-- The bindings of a compound. -/
def unitOf (c : Compound) : Attempt BindingsUnit := do
  let name := c.className
  let finalizerClasses := r.finalizerDependencies c
  let ownFinalizer :=
    if !r.isRefcounted name && c.kind != "namespace" then finalizerPart finalizerClasses name else []
  let members := c.members.map (·.toSymbol)
  let (accessorParts, properties) ←
    if r.exposesProperties c then
      r.accessors c (finalizerClasses ++ definedBy ownFinalizer) members
    else pure ([], [])
  let instances ← r.resolve c false
  let statics ← r.resolve c true
  let instanceParts ← r.dispatchParts c instances.values
  let staticParts ← r.dispatchParts c statics.values
  let ownList := functionList? (name ++ "_Functions") instances.values
  let staticList := functionList? (name ++ "_StaticFunctions") statics.values
  pure {
    className := name
    ownHeader? := r.ownHeader? c
    dependencyHeaders := r.dependencyHeaders c
    usingLines := c.usingLines
    idClasses := r.idDependencies c
    finalizerClasses
    parts := ownFinalizer ++ accessorParts ++ instanceParts ++ staticParts ++
      ownList.toList.map .functionList ++ staticList.toList.map .functionList ++
      [.exposure (exposure c instances ownList staticList properties)] }

/-- The name of the file that holds the bindings of a class. -/
def fileName (className : String) : String := className ++ "Bindings.cpp"

/-- The files of the bindings of some classes, with their texts. -/
def sourcesOf : List (ClassEntry × Compound) → Attempt (OrderedMap String) :=
  fun classes => classes.foldlM (fun sources (entry, c) => do
    Attempt.say .info ("Generating bindings for " ++ entry.name)
    let u ← r.unitOf c
    pure (sources.insert (fileName entry.name) u.text)) ∅

/-- The files of the bindings of all classes that get any. -/
def sources : Attempt (OrderedMap String) := r.sourcesOf r.bindable

end Registry

end ScriptGlue
