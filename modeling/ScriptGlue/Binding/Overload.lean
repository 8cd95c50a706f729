import ScriptGlue.Binding.Selection
import ScriptGlue.Text.Case
import ScriptGlue.Text.Letter

/-!
# Overloads

The functions of a class that are bound, gathered by the name they have for scripts. Every bound function
gets a name of its own, made of the class, the member and the types of its parameters; of functions that
would get one name the first is bound.
-/

namespace ScriptGlue

open ScriptGlue.Text ScriptGlue.Cpp

/-- How many arguments a function is registered with. -/
inductive ArgCount where
  /-- This many. -/
  | exactly (n : Nat)
  /-- Any number. -/
  | any
  deriving DecidableEq, Repr

/-- The count as it is written in generated code. -/
def ArgCount.spelling : ArgCount → String
  | exactly n => toString n
  | any => "DUK_VARARGS"

/-- A bound function. -/
structure Overload where
  /-- The name of the generated function. -/
  functionName : String
  /-- The member that it calls. -/
  function : Symbol
  /-- Some parameter can be left out. -/
  hasDefaults : Bool := false
  /-- The number of parameters before the first that can be left out. -/
  significant : Int := 0
  /-- It reads a property. -/
  isProperty : Bool := false
  /-- It makes an object. -/
  isConstructor : Bool := false
  /-- It is called without an object. -/
  isStatic : Bool := false
  deriving DecidableEq, Repr

namespace Overload

/-- The parameters of the member. -/
def parameters (o : Overload) : List Parameter := o.function.parameters

/-- How many arguments the function is registered with. -/
def argCount (o : Overload) : ArgCount := if o.hasDefaults then .any else .exactly o.parameters.length

end Overload

/-- The bound functions with one name for scripts. -/
structure OverloadSet where
  /-- The beginning of the names of its functions. -/
  baseName : String
  /-- The name for scripts. -/
  scriptName : String
  /-- Its functions make objects. -/
  isConstructor : Bool := false
  /-- The functions in the order of their declaration. -/
  overloads : List Overload := []
  deriving DecidableEq, Repr

namespace OverloadSet

/-- A call has to be dispatched by its arguments. -/
def needsSelector (s : OverloadSet) : Bool := 2 ≤ s.overloads.length

/-- The name of the function that dispatches calls. -/
def selectorName (s : OverloadSet) : String := s.baseName ++ "_Selector"

/-- The function that scripts call. -/
def entryPoint (s : OverloadSet) : String :=
  if s.needsSelector then s.selectorName else (s.overloads.head?.map (·.functionName)).getD ""

/-- How many arguments the function that scripts call is registered with. -/
def entryArgCount (s : OverloadSet) : ArgCount :=
  if s.needsSelector then .any else (s.overloads.head?.map (·.argCount)).getD .any

/-- The functions with the most significant parameters first, in the order of declaration among equals. -/
def dispatchOrder (s : OverloadSet) : List Overload :=
  s.overloads.mergeSort fun a b => b.significant ≤ a.significant

@[simp] theorem mem_dispatchOrder {s : OverloadSet} {o : Overload} : o ∈ s.dispatchOrder ↔ o ∈ s.overloads :=
  List.mem_mergeSort

/-- A function of the set has the given name. -/
def contains (s : OverloadSet) (functionName : String) : Bool := s.overloads.any (·.functionName == functionName)

end OverloadSet

/-! ### Names -/

/-- The text with an underscore for every character that is not of a word. -/
def identifierOf (s : String) : String := String.ofList (s.toList.map fun c => if isWordChar c then c else '_')

/-- The name of the function that binds an overload: the base name and the bare names of its parameter
types, each after an underscore. -/
def mangle (base : String) (parameters : List Parameter) : String :=
  parameters.foldl (fun name p => name ++ "_" ++ identifierOf (Descriptor.nameOf p.basicType)) base

/-- The beginning of the names of the functions that bind a member. -/
def Compound.baseName (c : Compound) (m : Symbol) (isStatic : Bool) : String :=
  (if c.bindsConstructor m then c.className ++ "_Ctor" else c.className ++ "_" ++ m.name) ++
    (if isStatic then "_Static" else "")

/-! ### Resolution -/

/-- The mark of a function that reads a property. -/
def propertyMark : String := "[property]"

/-- The bound function for a member. -/
def Compound.overloadOf (c : Compound) (m : Symbol) (isStatic : Bool) : Overload where
  functionName := mangle (c.baseName m isStatic) m.parameters
  function := m
  hasDefaults := m.parameters.any (·.hasDefault)
  significant := (m.parameters.findIdx (·.hasDefault) : Nat)
  isProperty := m.comments.any (occursIn propertyMark)
  isConstructor := c.bindsConstructor m
  isStatic

/-- The sets with an accepted member added to its own, unless that has its function already. -/
def Compound.accept (c : Compound) (isStatic : Bool) (sets : OrderedMap OverloadSet) (m : Symbol) :
    OrderedMap OverloadSet :=
  let base := c.baseName m isStatic
  let o := c.overloadOf m isStatic
  let s := sets.getD base { baseName := base, scriptName := m.name, isConstructor := c.bindsConstructor m }
  sets.insert base (if s.contains o.functionName then s else { s with overloads := s.overloads ++ [o] })

namespace Registry

/-- The sets after the members have been considered in order: candidates that are not bound are
reported. -/
def resolveFrom (r : Registry) (c : Compound) (isStatic : Bool) (sets : OrderedMap OverloadSet) :
    List Symbol → Logged (OrderedMap OverloadSet)
  | [] => pure sets
  | m :: rest => do
    if !m.isCandidateFunction || c.bindsStatic m != isStatic then r.resolveFrom c isStatic sets rest
    else
      match r.functionRejection? c m with
      | some reason =>
        .say .info (m.name ++ " in class " ++ c.name ++ " " ++ reason.message)
        r.resolveFrom c isStatic sets rest
      | none => r.resolveFrom c isStatic (c.accept isStatic sets m) rest

/-- The bound functions of a class that are called with or without an object, by base name. -/
def resolve (r : Registry) (c : Compound) (isStatic : Bool) : Logged (OrderedMap OverloadSet) :=
  r.resolveFrom c isStatic ∅ (c.members.map (·.toSymbol))

end Registry

/-! ### Properties -/

/-- A property for scripts, with the functions that read and write it. -/
structure Property where
  /-- The name for scripts. -/
  name : String
  /-- The function that reads it. -/
  getter : String
  /-- The function that writes it; there is none for a property that is only read. -/
  setter : Option String := none
  deriving DecidableEq, Repr

/-- The name without a beginning, if it has it. -/
def dropBeginning (start name : String) : String :=
  if startsWith name start then dropStart name start.length else name

/-- The name of the property that a function of the given base name reads. -/
def propertyName (className base : String) : String :=
  dropBeginning "Get" (dropBeginning "Is" (dropStart base (className.length + 1)))

/-- The function that writes a property: the first of one parameter in the set that is called after
it. -/
def setterOf (className name : String) (sets : OrderedMap OverloadSet) : Option String :=
  let set? := (sets.get? (className ++ "_Set" ++ name)).or (sets.get? (className ++ "_SetIs" ++ name))
  set?.bind fun s => (s.overloads.find? (·.parameters.length == 1)).map (·.functionName)

/-- The property that a function of the given base name reads, if it reads one. -/
def propertyOf? (className base : String) (sets : OrderedMap OverloadSet) (o : Overload) : Option Property :=
  let name := propertyName className base
  if !o.isProperty || 0 < o.significant || name.isEmpty then none
  else some { name := lowerFirst name, getter := o.functionName, setter := setterOf className name sets }

/-- The properties that the functions of a class make up. -/
def accessorProperties (className : String) (sets : OrderedMap OverloadSet) : List Property :=
  sets.toList.flatMap fun (base, s) => s.overloads.filterMap (propertyOf? className base sets)

end ScriptGlue
