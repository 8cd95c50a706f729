import ScriptGlue.Binding.Context
import ScriptGlue.Binding.Thunk

/-!
# Accessors of variables and signals

The generated functions behind the properties of a class. A variable has a getter and, unless it is
constant, a setter. A signal has a wrapper that scripts connect to, a receiver that calls back into the
script, and a getter that makes a wrapper.
-/

namespace ScriptGlue

open ScriptGlue.Cpp

/-! ### Variables -/

/-- The function that reads a variable of an object. -/
structure Getter where
  /-- Its name. -/
  name : String
  /-- How it gets at the object. -/
  this : ThisAccess
  /-- The variable. -/
  member : String
  /-- How its value is pushed. -/
  push : Push
  deriving DecidableEq, Repr

/-- The lines of a getter. -/
def Getter.lines (g : Getter) : List String :=
  functionLines g.name [g.this.statement "thisObj", g.push.statement ("thisObj->" ++ g.member), "return 1;"]

/-- The function that writes a variable of an object. -/
structure Setter where
  /-- Its name. -/
  name : String
  /-- How it gets at the object. -/
  this : ThisAccess
  /-- The variable. -/
  member : String
  /-- The variable that takes the new value, which has the name of the member. -/
  read : StackRead
  deriving DecidableEq, Repr

/-- The lines of a setter. -/
def Setter.lines (s : Setter) : List String :=
  functionLines s.name
    [s.this.statement "thisObj", s.read.statement, s!"thisObj->{s.member} = {s.member};", "return 0;"]

/-! ### Signals -/

/-- A parameter of a signal. -/
structure SignalParameter where
  /-- The type as it is spelled. -/
  type : String
  /-- How a value is pushed when the signal is emitted. -/
  push : Push
  /-- How a value is read when a script emits the signal. -/
  read : StackRead
  deriving DecidableEq, Repr

/-- A signal of a class. -/
structure Signal where
  /-- The class that has the signal. -/
  className : String
  /-- The member. -/
  member : String
  /-- The type of the signal without annotations. -/
  type : String
  /-- How the getter gets at the object. -/
  this : ThisAccess
  /-- The parameters in order. -/
  parameters : List SignalParameter
  deriving DecidableEq, Repr

namespace Signal

/-- The class of the wrapper. -/
def wrapper (s : Signal) : String := s!"SignalWrapper_{s.className}_{s.member}"

/-- The class of the receiver. -/
def receiver (s : Signal) : String := s!"SignalReceiver_{s.className}_{s.member}"

/-- The function that connects a script to the signal. -/
def connectName (s : Signal) : String := s.wrapper ++ "_Connect"

/-- The function that disconnects a script from the signal. -/
def disconnectName (s : Signal) : String := s.wrapper ++ "_Disconnect"

/-- The function that emits the signal. -/
def emitName (s : Signal) : String := s.wrapper ++ "_Emit"

/-- The function that makes a wrapper. -/
def getterName (s : Signal) : String := s!"{s.className}_Get_{s.member}"

/-- The constant of the wrapper and the classes of wrapper and receiver. -/
def classLines (s : Signal) : List String :=
  let wrapper := s.wrapper
  let parameters := s.parameters.mapIdx fun i p => s!"{p.type} param{i}"
  let signature := ", ".intercalate parameters
  let pushes := (s.parameters.mapIdx fun i p =>
    [p.push.statement s!"param{i}", s!"duk_put_prop_index(ctx, -2, {i});"]).flatten
  [idLine wrapper (classId wrapper), "", s!"class {wrapper}", "\x7b", "public:",
    indented 1 s!"{wrapper}(Object* owner, {s.type}* signal) :",
    indented 2 "owner_(owner),", indented 2 "signal_(signal)", indented 1 "\x7b", indented 1 "\x7d", "",
    indented 1 "WeakPtr<Object> owner_;", indented 1 s!"{s.type}* signal_;", "\x7d;", "",
    s!"class {s.receiver} : public SignalReceiver", "\x7b", "public:",
    indented 1 s!"void OnSignal({signature})", indented 1 "\x7b"] ++
  indentedAll 2 (["duk_context* ctx = ctx_;", "duk_push_global_object(ctx);",
    "duk_get_prop_string(ctx, -1, \"_OnSignal\");", "duk_remove(ctx, -2);",
    "duk_push_number(ctx, (size_t)key_);", "duk_push_array(ctx);"] ++ pushes ++
    ["bool success = duk_pcall(ctx, 2) == 0;",
      "if (!success) LogError(\"[JavaScript] OnSignal: \" + String(duk_safe_to_string(ctx, -1)));",
      "duk_pop(ctx);"]) ++
  [indented 1 "\x7d", "\x7d;", ""]

/-- The statements that get at the wrapper a function is called on. -/
def wrapperStatements (s : Signal) : List String :=
  let wrapper := s.wrapper
  [s!"{wrapper}* wrapper = GetThisValueObject<{wrapper}>(ctx, {classId wrapper});",
    "if (!wrapper->owner_) return 0;"]

/-- The lines of the function that connects. -/
def connectLines (s : Signal) : List String :=
  let receiver := s.receiver
  functionLines s.connectName (s.wrapperStatements ++
    ["HashMap<void*, SharedPtr<SignalReceiver> >& signalReceivers = " ++
        "JavaScriptInstance::InstanceFromContext(ctx)->SignalReceivers();",
      "if (signalReceivers.Find(wrapper->signal_) == signalReceivers.End())", "\x7b"] ++
    indentedAll 1 [s!"{receiver}* receiver = new {receiver}();", "receiver->ctx_ = ctx;",
      "receiver->key_ = wrapper->signal_;", s!"wrapper->signal_->Connect(receiver, &{receiver}::OnSignal);",
      "signalReceivers[wrapper->signal_] = receiver;"] ++
    ["\x7d", "CallConnectSignal(ctx, wrapper->signal_);", "return 0;"])

/-- The lines of the function that disconnects. -/
def disconnectLines (s : Signal) : List String :=
  functionLines s.disconnectName
    (s.wrapperStatements ++ ["CallDisconnectSignal(ctx, wrapper->signal_);", "return 0;"])

/-- The lines of the function that emits. -/
def emitLines (s : Signal) : List String :=
  let arguments := ", ".intercalate (s.parameters.mapIdx fun i _ => s!"param{i}")
  functionLines s.emitName (s.wrapperStatements ++ s.parameters.map (·.read.statement) ++
    [s!"wrapper->signal_->Emit({arguments});", "return 0;"])

/-- The lines of the function that makes a wrapper. -/
def getterLines (s : Signal) : List String :=
  let wrapper := s.wrapper
  functionLines s.getterName
    [s.this.statement "thisObj", s!"{wrapper}* wrapper = new {wrapper}(thisObj, &thisObj->{s.member});",
      s!"PushValueObject(ctx, wrapper, {classId wrapper}, {finalizerName wrapper}, false);",
      s!"duk_push_c_function(ctx, {s.connectName}, DUK_VARARGS);",
      "duk_put_prop_string(ctx, -2, \"Connect\");",
      s!"duk_push_c_function(ctx, {s.disconnectName}, DUK_VARARGS);",
      "duk_put_prop_string(ctx, -2, \"Disconnect\");",
      s!"duk_push_c_function(ctx, {s.emitName}, {s.parameters.length});",
      "duk_put_prop_string(ctx, -2, \"Emit\");", "return 1;"]

end Signal

/-! ### From members -/

/-- The type of a signal without annotations and with single blanks. -/
def signalType (type : String) : String := Text.collapse (removeAnnotations type)

namespace Cpp.Vocabulary

variable (v : Vocabulary)

/-- How the value of a variable is pushed: a value object stays where it is in its owner. -/
def pushVariable (type : String) : Except Failure Push :=
  let info := v.classify type
  if info.category == .object .value then .ok (.inPlace info.name info.descriptor.isPointer)
  else v.push type

/-- The function that reads a variable. -/
def getter (className : String) (m : Symbol) : Except Failure Getter :=
  (v.pushVariable m.type).map fun push =>
    { name := s!"{className}_Get_{Text.lowerFirst m.name}", this := v.thisAccess className, member := m.name, push }

/-- The variable can be written. -/
def isWritable (m : Symbol) : Bool :=
  !m.isConstQualified &&
    match (v.classify m.type).category with
    | .map _ _ => false
    | _ => true

/-- The function that writes a variable, if it can be written. -/
def setter? (className : String) (m : Symbol) : Except Failure (Option Setter) :=
  if v.isWritable m then
    (v.read m.type 0 m.name).map fun read =>
      some { name := s!"{className}_Set_{Text.lowerFirst m.name}", this := v.thisAccess className,
             member := m.name, read }
  else .ok none

/-- The class whose finalizer the getter of a variable needs. -/
def variableFinalizer? (type : String) : Option String :=
  match (v.classify type).category with
  | .vector element (.object .value) => some element
  | _ => none

/-- A value of the type can be passed to a script and back. -/
def isSignalType (type : String) : Bool :=
  match (v.classify type).category with
  | .unsupported _ | .void | .map _ _ => false
  | _ => true

/-- The signal that a member is, its parameters being of the given types. -/
def signal (className : String) (m : Symbol) (types : List String) : Except Failure Signal := do
  let pushes ← types.mapM v.push
  let reads ← types.zipIdx.mapM fun (type, i) => v.read type i s!"param{i}"
  pure {
    className
    member := m.name
    type := signalType m.type
    this := v.thisAccess className
    parameters := (types.zip (pushes.zip reads)).map fun (type, push, read) => { type, push, read } }

end Cpp.Vocabulary

end ScriptGlue
