import ScriptGlue.Binding.Lines
import ScriptGlue.Binding.Marshal
import ScriptGlue.Binding.Overload
import ScriptGlue.Cpp.Qualified

/-!
# Thunks and selectors

The generated functions that stand between a script and a bound function. A thunk reads the arguments,
calls the function and pushes its result; a selector finds the thunk for a call by the number and the
kinds of its arguments.
-/

namespace ScriptGlue

open ScriptGlue.Cpp

/-! ### Thunks -/

/-- An argument of a call. -/
structure Argument where
  /-- The variable that takes it from the stack. -/
  read : StackRead
  /-- What stands for it when it is not passed. -/
  fallback? : Option String
  deriving DecidableEq, Repr

/-- The statement that declares the variable of an argument. -/
def Argument.statement (a : Argument) : String :=
  match a.fallback? with
  | some fallback => a.read.statementOr fallback
  | none => a.read.statement

/-- What a thunk calls. -/
inductive Callee where
  /-- The constructor of its class. -/
  | constructor
  /-- A function of its class that needs no object. -/
  | static (name : String)
  /-- A function of the object it is called on. -/
  | method (this : ThisAccess) (name : String)
  deriving DecidableEq, Repr

/-- The function that binds an overload. -/
structure Thunk where
  /-- Its name. -/
  name : String
  /-- The class of the bound function. -/
  className : String
  /-- The number of passed arguments is needed. -/
  countsArguments : Bool
  /-- What is called. -/
  callee : Callee
  /-- The arguments in order. -/
  arguments : List Argument
  /-- The type that is declared for the result and how it is pushed, if there is one. -/
  result? : Option (String × Push)
  deriving DecidableEq, Repr

/-- Names that generated functions use for themselves. -/
def reservedNames : List String := ["ctx", "numArgs", "thisObj", "ret", "newObj", "wrapper"]

/-- The variable for a parameter at a position: its name, one made from the position if it has none,
and with an underscore if the name is reserved. -/
def parameterVariable (p : Parameter) (position : Int) : String :=
  let name := if p.name.isEmpty then s!"param{position}" else p.name
  if reservedNames.contains name then name ++ "_" else name

/-- The names of the variables of the arguments, as they are passed on. -/
def Thunk.passed (t : Thunk) : String := ", ".intercalate (t.arguments.map (·.read.variableName))

/-- The statements of a thunk. -/
def Thunk.statements (t : Thunk) : List String :=
  let c := t.className
  let reads := t.arguments.map (·.statement)
  let call (target : String) : List String :=
    let call := s!"{target}({t.passed})"
    match t.result? with
    | none => [s!"{call};", "return 0;"]
    | some (type, push) => [s!"{type} ret = {call};", push.statement "ret", "return 1;"]
  (if t.countsArguments then ["int numArgs = duk_get_top(ctx);"] else []) ++
    match t.callee with
    | .constructor =>
      reads ++ [s!"{c}* newObj = new {c}({t.passed});", constructorResult c "newObj", "return 0;"]
    | .static name => reads ++ call s!"{c}::{name}"
    | .method access name => access.statement "thisObj" :: reads ++ call s!"thisObj->{name}"

/-- The lines of a thunk. -/
def Thunk.lines (t : Thunk) : List String := functionLines t.name t.statements

/-! ### Selectors -/

/-- When a thunk is chosen: the number of passed arguments and the kinds of some. -/
structure Guard where
  /-- More arguments may be passed. -/
  orMore : Bool
  /-- The number of arguments. -/
  count : Int
  /-- The tests of arguments, with their positions. -/
  checks : List (Nat × ArgCheck)
  deriving DecidableEq, Repr

/-- The condition of a guard. -/
def Guard.condition (g : Guard) : String :=
  let comparison := if g.orMore then ">=" else "=="
  " && ".intercalate
    (s!"numArgs {comparison} {g.count}" :: g.checks.map fun (position, check) => check.condition position)

/-- The function that finds the thunk for a call. -/
structure Selector where
  /-- Its name. -/
  name : String
  /-- The thunks in the order in which they are tried, with their guards. -/
  cases : List (Guard × String)
  deriving DecidableEq, Repr

/-- The lines of a selector. -/
def Selector.lines (s : Selector) : List String :=
  [functionHeader s.name, "\x7b", indented 1 "int numArgs = duk_get_top(ctx);"] ++
    s.cases.flatMap (fun (guard, target) =>
      [indented 1 s!"if ({guard.condition})", indented 2 s!"return {target}(ctx);"]) ++
    [indented 1 "duk_error(ctx, DUK_ERR_ERROR, \"Could not select function overload\");", "\x7d", ""]

/-! ### From overloads -/

namespace Cpp.Vocabulary

variable (v : Vocabulary)

/-- The argument for a parameter at a position. -/
def argument (p : Parameter) (position : Nat) : Except Failure Argument :=
  (v.read p.readType position (parameterVariable p position)).map fun read =>
    { read, fallback? := if p.hasDefault then some p.defaultValue else none }

/-- The arguments for parameters from a position on. -/
def arguments (position : Nat) : List Parameter → Except Failure (List Argument)
  | [] => .ok []
  | p :: rest => do
    let a ← v.argument p position
    let later ← arguments (position + 1) rest
    pure (a :: later)

/-- What is done with the result of a function, if it has one. -/
def result (type : String) : Except Failure (Option (String × Push)) :=
  if (v.classify type).category == .void then .ok none
  else do
    let declared ← (v.declaration type).mapError .qualification
    let push ← v.push type
    pure (some (declared, push))

/-- The thunk of an overload. -/
def thunk (className : String) (o : Overload) : Except Failure Thunk := do
  let arguments ← v.arguments 0 o.parameters
  let result? ← if o.isConstructor then pure none else v.result o.function.type
  pure {
    name := o.functionName
    className
    countsArguments := o.hasDefaults
    callee :=
      if o.isConstructor then .constructor
      else if o.isStatic then .static o.function.name
      else .method (v.thisAccess className) o.function.name
    arguments
    result? }

/-- The tests of arguments for parameters from a position on. -/
def checks (position : Nat) : List Parameter → Except Failure (List (Nat × ArgCheck))
  | [] => .ok []
  | p :: rest => do
    let check? ← v.argCheck p.basicType
    let later ← checks (position + 1) rest
    pure (check?.elim later fun check => (position, check) :: later)

/-- When the thunk of an overload is chosen: by its parameters that cannot be left out. -/
def guard (o : Overload) : Except Failure Guard := do
  let checks ← v.checks 0 (o.parameters.take o.significant.toNat)
  pure { orMore := o.hasDefaults, count := o.significant, checks }

/-- The selector of a set. -/
def selector (s : OverloadSet) : Except Failure Selector := do
  let cases ← s.dispatchOrder.mapM fun o => do
    let guard ← v.guard o
    pure (guard, o.functionName)
  pure { name := s.selectorName, cases }

end Cpp.Vocabulary

end ScriptGlue
