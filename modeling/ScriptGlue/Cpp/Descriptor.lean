import ScriptGlue.Text.Blank
import ScriptGlue.Text.Search

/-!
# Type spellings

A C++ type as it is spelled in documentation, reduced step by step to a bare name. Constness, one
reference or pointer mark and the namespace are taken off; `Vector<T>` and `SharedPtr<T>` become the name
of `T` with a suffix.
-/

namespace ScriptGlue.Cpp

open ScriptGlue.Text

/-- A type spelling on its way to a bare name. -/
structure Descriptor where
  /-- The spelling as it was given. -/
  raw : String
  /-- What is left of it. -/
  name : String
  /-- A leading `const` was taken off. -/
  isConst : Bool := false
  /-- A pointer mark was taken off. -/
  isPointer : Bool := false
  /-- A reference mark was taken off. -/
  isReference : Bool := false
  deriving DecidableEq, Repr

/-! ### Namespaces -/

/-- Names that begin so keep their qualification. -/
def scopedNames : List String := ["AttributeChange"]

/-- The qualification before the last `::` and the name after it, unless nothing stands before it or the
name begins with one of `keep`. -/
def cutNamespace? (keep : List String) (name : String) : Option (String × String) :=
  match cutLast "::".toList name.toList with
  | some (before, after) =>
    if before.isEmpty || keep.any (startsWith name) then none
    else some (String.ofList before, String.ofList after)
  | none => none

/-- The name without its qualification. -/
def stripNamespace (keep : List String) (name : String) : String :=
  match cutNamespace? keep name with
  | some (_, after) => after
  | none => name

/-- The qualification of the name, empty if it has none. -/
def namespaceOf (keep : List String) (name : String) : String :=
  match cutNamespace? keep name with
  | some (before, _) => before
  | none => ""

/-! ### Template spacing -/

/-- The text with the space after each `<` left out. -/
def tightenOpening : List Char → List Char
  | '<' :: ' ' :: s => '<' :: tightenOpening s
  | c :: s => c :: tightenOpening s
  | [] => []

/-- The text with the space before each `>` left out. -/
def tightenClosing : List Char → List Char
  | ' ' :: '>' :: s => '>' :: tightenClosing s
  | c :: s => c :: tightenClosing s
  | [] => []

/-- The text without a space just inside angle brackets. -/
def tighten (s : List Char) : List Char := tightenClosing (tightenOpening s)

/-! ### Rules -/

/-- A step of the reduction; a rule that does not apply gives nothing. -/
abbrev Rule := Descriptor → Option Descriptor

namespace Rule

/-- Outer blanks and the spaces just inside angle brackets go. -/
def templateSpacing : Rule := fun d =>
  let name := String.ofList (tighten (trimChars d.name.toList))
  if name != d.name then some { d with name } else none

/-- A leading `const` goes and is noted. -/
def leadingConst : Rule := fun d =>
  if startsWith d.name "const" then
    some { d with name := trim (dropStart d.name 5), isConst := true }
  else none

/-- One trailing reference or pointer mark goes and is noted. -/
def indirection : Rule := fun d =>
  if endsWith d.name "&" then some { d with name := trim (dropEnd d.name 1), isReference := true }
  else if endsWith d.name "*" then some { d with name := trim (dropEnd d.name 1), isPointer := true }
  else none

/-- A trailing `const` goes. -/
def trailingConst : Rule := fun d =>
  if endsWith d.name "const" then some { d with name := trim (dropEnd d.name 5) } else none

/-- The short name for a vector of the platform stands for `float3`. -/
def platformVector : Rule := fun d => if d.name == "vec" then some { d with name := "float3" } else none

/-- The argument of a spelling `outer<…>`. -/
def templateArgument? (outer name : String) : Option String :=
  if startsWith name (outer ++ "<") && endsWith name ">" then
    some (dropEnd (dropStart name (outer.length + 1)) 1)
  else none

/-- The template `outer` becomes the name of its argument, by `nameOf`, with a suffix. -/
def template (outer suffix : String) (nameOf : String → String) : Rule := fun d =>
  (templateArgument? outer d.name).map fun argument => { d with name := nameOf argument ++ suffix }

/-- The qualification goes. -/
def qualification : Rule := fun d =>
  let name := stripNamespace scopedNames d.name
  if name != d.name then some { d with name } else none

/-- Keys of the keyboard are numbers. -/
def keyCode : Rule := fun d =>
  if d.name == "Key" || d.name == "KeySequence" then some { d with name := "int" } else none

/-- The rules in order; the arguments of templates are named by `nameOf`. -/
def all (nameOf : String → String) : List Rule :=
  [templateSpacing, leadingConst, indirection, trailingConst, platformVector,
    template "Vector" "Vector" nameOf, template "SharedPtr" "Ptr" nameOf, qualification, keyCode]

/-- The descriptor after a rule, unchanged if the rule does not apply. -/
def step (d : Descriptor) (rule : Rule) : Descriptor := (rule d).getD d

end Rule

namespace Descriptor

/-- A spelling before any rule. -/
def start (text : String) : Descriptor := { raw := text, name := trim text }

/-- The descriptor of a spelling: each rule is tried once, in order. The argument of a template is
shorter than the spelling it stands in, so it is named in the same way. -/
def ofText (text : String) : Descriptor :=
  (Rule.all fun argument =>
    if argument.length < text.length then (ofText argument).name else argument).foldl Rule.step (start text)
termination_by text.length

/-- The bare name of a spelling. -/
def nameOf (text : String) : String := (ofText text).name

/-- Each rule with what it makes of the descriptor so far. -/
def trace (text : String) : List (Option Descriptor) :=
  ((Rule.all nameOf).foldl (fun (d, seen) rule => (Rule.step d rule, seen ++ [rule d])) (start text, [])).2

end Descriptor

end ScriptGlue.Cpp
