import ScriptGlue.Log
import ScriptGlue.Text.Replacement
import ScriptGlue.Xml.Encoding

/-!
# Failures

Why a run of the generator can come to nothing, and what is said about it.
-/

namespace ScriptGlue

open ScriptGlue.Text ScriptGlue.Xml

/-- A refusal of the file system, with the path it is about. -/
inductive FileError where
  /-- There is no such file. -/
  | notFound (path : String)
  /-- Something of that name is there already. -/
  | exists (path : String)
  /-- A part of the path is no directory. -/
  | notDirectory (path : String)
  /-- A file was expected. -/
  | isDirectory (path : String)
  /-- The path or the name of one of its parts has too many bytes. -/
  | nameTooLong (path : String)
  /-- The path has a null character in it, which no path can have. -/
  | nullCharacter
  deriving DecidableEq, Repr

namespace FileError

/-- What is said about the refusal. -/
def message : FileError → String
  | notFound path => "[Errno 2] No such file or directory: " ++ quoted path
  | .exists path => "[Errno 17] File exists: " ++ quoted path
  | notDirectory path => "[Errno 20] Not a directory: " ++ quoted path
  | isDirectory path => "[Errno 21] Is a directory: " ++ quoted path
  | nameTooLong path => "[Errno 36] File name too long: " ++ quoted path
  | nullCharacter => "embedded null byte"

end FileError

/-- What generated code does with a value. -/
inductive TypeUse where
  /-- Reads it from the stack. -/
  | reading
  /-- Pushes it to the stack. -/
  | pushing
  /-- Tests an argument for it. -/
  | checking
  deriving DecidableEq, Repr

namespace TypeUse

/-- The use in words. -/
def phrase : TypeUse → String
  | reading => "for reading from the stack"
  | pushing => "for pushing to the stack"
  | checking => "for argument checks"

end TypeUse

/-- Why a run comes to nothing. -/
inductive Failure where
  /-- Code is asked for a type that cannot be carried. -/
  | unsupportedType (name : String) (use : TypeUse)
  /-- A documentation text is not well-formed. -/
  | malformedText
  /-- A documentation file is not well-formed. -/
  | malformedFile (path : String)
  /-- The encoding of a documentation file cannot be used. -/
  | coding (fault : CodingFault)
  /-- The directory with the documentation is not there. -/
  | missingDirectory (path : String)
  /-- A name is qualified by a text with an escape that cannot be read. -/
  | qualification (escape : BadEscape)
  /-- An enumerator has a number that is too long to be spelled. -/
  | numberTooLong
  /-- No documentation has been loaded. -/
  | notLoaded
  /-- No registry has been built. -/
  | noRegistry
  /-- The file system refuses. -/
  | file (error : FileError)
  deriving DecidableEq, Repr

namespace Failure

/-- What is said about the failure. -/
def message : Failure → String
  | unsupportedType name use => "Unsupported type " ++ name ++ " " ++ use.phrase
  | malformedText => "Failed to parse XML text"
  | malformedFile path => "Failed to parse " ++ path
  | coding fault => fault.message
  | missingDirectory path => "XML input directory not found: " ++ path
  | qualification escape => escape.message
  | numberTooLong => "Exceeds the limit (4300 digits) for integer string conversion; " ++
      "use sys.set_int_max_str_digits() to increase the limit"
  | notLoaded => "Documentation must be loaded before building the class registry"
  | noRegistry => "Class registry must be built before generating bindings"
  | file error => error.message

end Failure

/-- A computation that may fail; its messages are kept either way. -/
abbrev Attempt := ExceptT Failure Logged

/-- A message made on the way. -/
def Attempt.say (level : Level) (text : String) : Attempt Unit := ExceptT.lift (Logged.say level text)

end ScriptGlue
