import ScriptGlue.Binding.Registry

/-!
# Selection of members

Which members of a class reach the script side. A member that cannot be bound has a reason, which is
reported; members that are not candidates at all are passed over in silence.
-/

namespace ScriptGlue

open ScriptGlue.Text ScriptGlue.Cpp

/-- Why a candidate is not bound. -/
inductive Rejection where
  /-- Its types or its documentation forbid it. -/
  | notScriptable
  /-- The tables leave it out. -/
  | excluded
  /-- It would construct an object that counts references. -/
  | refcountedConstructor
  /-- The returned type cannot be carried. -/
  | unsupportedReturn (type : String)
  /-- A pointer to a value is returned. -/
  | pointerReturn (type : String)
  /-- The type of a parameter cannot be carried. -/
  | unsupportedParameter (type : String)
  /-- A map cannot be read. -/
  | mapParameter (type : String)
  /-- A pointer is read of a class that does not count references or is not registered. -/
  | pointerParameter (type : String)
  /-- The type of a variable cannot be carried. -/
  | unsupportedVariable (type : String)
  deriving DecidableEq, Repr

namespace Rejection

/-- The reason in words, after the member it is about. -/
def message : Rejection → String
  | notScriptable => "is not scriptable"
  | excluded => "is excluded by configuration"
  | refcountedConstructor => "is a constructor of a reference-counted class"
  | unsupportedReturn type => "unsupported return value type " ++ type
  | pointerReturn type => "unsupported pointer return value " ++ type
  | unsupportedParameter type => "unsupported parameter type " ++ type
  | mapParameter type => "map parameter " ++ type ++ " can not be read from script"
  | pointerParameter type => "unsupported pointer parameter " ++ type
  | unsupportedVariable type => "unsupported variable type " ++ type

end Rejection

/-- The name under which a compound is registered. -/
def Compound.className (c : Compound) : String := Descriptor.nameOf c.name

/-- The mark that keeps a member from the script side. -/
def hiddenMark : String := "[noscript]"

namespace Registry

variable (r : Registry)

/-- Neither the types of the member nor its documentation keep it from the script side. -/
def isScriptable (m : Symbol) : Bool :=
  !m.isArray && !r.vocabulary.isDenied m.type &&
    m.parameters.all (fun p => !r.vocabulary.isDenied p.type && !r.vocabulary.isDenied p.basicType) &&
    !m.comments.any (occursIn hiddenMark) && !occursIn hiddenMark m.returnComment

end Registry

/-! ### Functions -/

/-- The member is a function that may be bound. -/
def Symbol.isCandidateFunction (m : Symbol) : Bool :=
  m.kind == "function" && !occursIn "operator" m.name && m.visibility == .public

/-- The member is called without an object; so are the functions of a namespace. -/
def Compound.bindsStatic (c : Compound) (m : Symbol) : Bool := m.isStatic || c.kind == "namespace"

/-- The member makes an object of the class. -/
def Compound.bindsConstructor (c : Compound) (m : Symbol) : Bool := !c.bindsStatic m && m.name == c.className

namespace Registry

variable (r : Registry)

/-- Why the returned type keeps a function from being bound. -/
def returnRejection? (type : String) : Option Rejection :=
  let info := r.vocabulary.classify type
  if !info.isSupported then some (.unsupportedReturn info.name)
  else if info.category == .object .value && info.descriptor.isPointer then some (.pointerReturn info.name)
  else none

/-- Why a parameter keeps a function from being bound. -/
def parameterRejection? (p : Parameter) : Option Rejection :=
  let type := p.basicType
  let info := r.vocabulary.classify type
  if !info.isSupported || info.category == .void then some (.unsupportedParameter info.name)
  else
    match info.category with
    | .map _ _ => some (.mapParameter info.name)
    | _ =>
      if occursIn "*" type && !(r.isRefcounted info.name && r.contains info.name) then
        some (.pointerParameter info.name)
      else none

/-- Why a candidate function is not bound. -/
def functionRejection? (c : Compound) (m : Symbol) : Option Rejection :=
  if !r.isScriptable m then some .notScriptable
  else if r.config.excludes c.className m.name (m.parameters.map (·.basicType)) then some .excluded
  else
    let rejection? :=
      if c.bindsConstructor m then
        if r.isRefcounted c.className then some .refcountedConstructor else none
      else r.returnRejection? m.type
    rejection?.or (m.parameters.findSome? r.parameterRejection?)

end Registry

/-! ### Variables -/

/-- The member is an event that scripts can connect to. -/
def Symbol.isSignal (m : Symbol) : Bool := m.kind == "variable" && startsWith m.type "Signal"

/-- The member is a variable that may be exposed. -/
def Symbol.isCandidateVariable (m : Symbol) : Bool :=
  m.kind == "variable" && !m.isStatic && m.visibility == .public && !m.isSignal

namespace Registry

variable (r : Registry)

/-- Why a candidate variable is not exposed. -/
def variableRejection? (m : Symbol) : Option Rejection :=
  if !r.isScriptable m then some .notScriptable
  else
    let info := r.vocabulary.classify m.type
    if info.isSupported then none else some (.unsupportedVariable info.name)

/-- The member is exposed as a property. -/
def isProperty (m : Symbol) : Bool := m.isCandidateVariable && (r.variableRejection? m).isNone

/-- The variables of the class are exposed. -/
def exposesProperties (c : Compound) : Bool := !r.config.skipPropertyClasses.contains c.className

end Registry

end ScriptGlue
