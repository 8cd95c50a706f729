import ScriptGlue.Text.Search

/-!
# Paths

Names of files as sequences of parts. Empty parts and single dots have no meaning and are left out. A path
that begins at the root has one slash or exactly two before its parts; the two are kept apart.
-/

namespace ScriptGlue.Files

open ScriptGlue.Text

/-- The name of a file or directory. -/
structure Path where
  /-- The slashes before the parts: none if the path begins at the current directory. -/
  root : String
  /-- The names of the parts, outermost first. -/
  parts : List String
  deriving DecidableEq, Repr

namespace Path

/-- The path begins at the root and not at the current directory. -/
def isAbsolute (p : Path) : Bool := p.root != ""

/-- The path that a text spells. -/
def ofString (s : String) : Path where
  root := match (s.toList.takeWhile (· == '/')).length with
    | 0 => ""
    | 2 => "//"
    | _ => "/"
  parts := ((splitAtChar '/' s.toList).map String.ofList).filter fun part => part != "" && part != "."

/-- The spelling of a path; a path without parts is the directory it begins at. -/
def toString (p : Path) : String :=
  if !p.isAbsolute && p.parts.isEmpty then "." else p.root ++ "/".intercalate p.parts

instance : ToString Path := ⟨toString⟩

/-- The path of something inside a directory. -/
def append (p : Path) (parts : List String) : Path := { p with parts := p.parts ++ parts }

/-- The path of what `q` leads to from the directory `p`. -/
def join (p q : Path) : Path := if q.isAbsolute then q else p.append q.parts

/-- The parts from the root of what a path leads to from the directory `here`; `..` leads to the directory
around. -/
def placeFrom (here : List String) (p : Path) : List String :=
  p.parts.foldl (fun place part => if part == ".." then place.dropLast else place ++ [part])
    (if p.isAbsolute then [] else here)

/-- The path of a file whose name ends in a name for its kind, without that name; a name that is nothing
else is kept. -/
def stem (suffix name : String) : String :=
  if endsWith name suffix && name != suffix then dropEnd name suffix.length else name

end Path

/-- The order of paths: part by part, and a directory before what is in it. -/
def precedes : List String → List String → Bool
  | [], _ => true
  | _ :: _, [] => false
  | a :: as, b :: bs => a < b || a == b && precedes as bs

end ScriptGlue.Files
