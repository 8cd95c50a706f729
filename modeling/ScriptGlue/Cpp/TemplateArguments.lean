import ScriptGlue.Cpp.Descriptor

/-!
# Template arguments

The arguments of a template type, and the annotations `ARG(name)` that a signal type may carry beside
its arguments.
-/

namespace ScriptGlue.Cpp

open ScriptGlue.Text

/-! ### Annotations -/

/-- The text without its annotations. Each runs up to the first closing parenthesis; what is joined by
taking one out may make up another. -/
def removeAnnotationChars (s : List Char) : List Char :=
  match h : cutFirst "ARG(".toList s with
  | none => s
  | some (before, rest) =>
    match h' : cutFirst [')'] rest with
    | none => s
    | some (_, after) =>
      have := cutFirst_length h
      have := cutFirst_length h'
      removeAnnotationChars (before ++ after)
termination_by s.length
decreasing_by simp_all; omega

/-- The type without its annotations. -/
def removeAnnotations (type : String) : String := String.ofList (removeAnnotationChars type.toList)

/-! ### Arguments -/

/-- The pieces between the commas that stand in no angle brackets, `depth` brackets being open. -/
def splitArguments (depth : Int) : List Char → List (List Char)
  | [] => [[]]
  | c :: s =>
    if c == ',' && depth == 0 then [] :: splitArguments depth s
    else
      match splitArguments (if c == '<' then depth + 1 else if c == '>' then depth - 1 else depth) s with
      | piece :: later => (c :: piece) :: later
      | [] => [[c]]

/-- What stands between the first `<` and the last `>`. -/
def betweenBrackets? (s : List Char) : Option (List Char) :=
  (cutFirst ['<'] s).bind fun (_, rest) => (cutLast ['>'] rest).map (·.1)

/-- The arguments of a template type, with single blanks and none just inside angle brackets. A sole
`void` means that there are none. -/
def templateArguments (type : String) : List String :=
  match betweenBrackets? type.toList with
  | none => []
  | some inner =>
    let arguments := (splitArguments 0 inner).map fun a => String.ofList (tighten (collapseChars a))
    if arguments == ["void"] || arguments == [""] then [] else arguments

end ScriptGlue.Cpp
