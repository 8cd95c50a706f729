import ScriptGlue.Binding.Selection
import ScriptGlue.Cpp.TemplateArguments

/-!
# Dependencies of a class

The registered classes that the bindings of a class refer to, in the order in which its members first
mention them. Values that are pushed back to scripts need the finalizer of their class besides.
-/

namespace ScriptGlue

open ScriptGlue.Cpp

/-- A type that the bindings of a member mention, and whether values of it are pushed to scripts. -/
structure Mention where
  /-- The spelling of the type. -/
  type : String
  /-- Values of it are pushed. -/
  isPushed : Bool
  deriving DecidableEq, Repr

/-- The framework's own namespace, which is always brought into scope. -/
def frameworkNamespace : String := "Tundra"

/-- The namespace a compound is declared in. -/
def Compound.nameSpace (c : Compound) : String := namespaceOf scopedNames c.name

/-- The lines that bring the namespaces into scope. -/
def Compound.usingLines (c : Compound) : List String :=
  let own := c.nameSpace
  let opened := if own.isEmpty then [] else if own == frameworkNamespace then [own] else [own, frameworkNamespace]
  (opened ++ ["std"]).map fun name => "using namespace " ++ name ++ ";"

/-- The arguments of a signal type. -/
def signalArguments (type : String) : List String := templateArguments (removeAnnotations type)

namespace Registry

variable (r : Registry)

/-- The types that the bindings of a member mention. -/
def mentions (m : Symbol) : List Mention :=
  if !r.isScriptable m then []
  else if m.isCandidateFunction then ⟨m.type, true⟩ :: m.parameters.map fun p => ⟨p.basicType, false⟩
  else if r.isProperty m then [⟨m.type, true⟩]
  else if m.isSignal && m.visibility == .public then (signalArguments m.type).map (⟨·, true⟩)
  else []

/-- The other registered classes that the members of a compound mention, with whether they are pushed. -/
def mentionedClasses (c : Compound) : List (String × Bool) :=
  ((c.members.flatMap fun m => r.mentions m.toSymbol).map fun mention =>
    ((r.vocabulary.classify mention.type).className, mention.isPushed)).filter fun (name, _) =>
      !name.isEmpty && name != c.className

/-- The classes that the bindings of a compound refer to. -/
def dependencies (c : Compound) : List String := ((r.mentionedClasses c).map (·.1)).eraseDups

/-- The classes whose finalizers the bindings of a compound need. -/
def finalizerDependencies (c : Compound) : List String :=
  (((r.mentionedClasses c).filter fun (name, isPushed) => isPushed && !r.isRefcounted name).map (·.1)).eraseDups

/-- The classes whose constants the bindings of a compound need. -/
def idDependencies (c : Compound) : List String := (r.dependencies c).filter (!r.isRefcounted ·)

/-- The header of the class itself, if one is known. -/
def ownHeader? (c : Compound) : Option String := some (r.includeFor c.className) |>.filter (!·.isEmpty)

/-- The headers of the dependencies, each once and without that of the class itself. -/
def dependencyHeaders (c : Compound) : List String :=
  let own := r.includeFor c.className
  (((r.dependencies c).map r.includeFor).filter fun header => !header.isEmpty && header != own).eraseDups

end Registry

end ScriptGlue
