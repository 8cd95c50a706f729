/-!
# Lines of generated code

Generated code as a list of lines, each indented by some levels.
-/

namespace ScriptGlue

/-- The line at a level of indentation. -/
def indented (level : Nat) (line : String) : String := String.join (List.replicate level "    ") ++ line

/-- The lines at a level of indentation. -/
def indentedAll (level : Nat) (lines : List String) : List String := lines.map (indented level)

/-- The text of some lines, each ended. -/
def block (lines : List String) : String := String.join (lines.map (· ++ "\n"))

/-- The head of a function that scripts can call. -/
def functionHeader (name : String) : String := "static duk_ret_t " ++ name ++ "(duk_context* ctx)"

/-- The lines of a function that scripts can call, with an empty line after it. -/
def functionLines (name : String) (body : List String) : List String :=
  [functionHeader name, "\x7b"] ++ indentedAll 1 body ++ ["\x7d", ""]

/-- The line that declares the constant for a class. -/
def idLine (className id : String) : String := s!"static const char* {id} = \"{className}\";"

end ScriptGlue
