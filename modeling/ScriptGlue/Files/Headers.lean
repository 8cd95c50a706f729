import ScriptGlue.Files.Tree
import ScriptGlue.OrderedMap

/-!
# Header files

The headers below a source directory, by the name of the class that each is called after.
-/

namespace ScriptGlue.Files

open ScriptGlue.Text

/-- The headers that are known. -/
structure Headers where
  /-- Beginnings of header paths that are preferred, best first. -/
  preferred : List String
  /-- The paths of the headers called after a class, in order. -/
  candidates : OrderedMap (List String) := ∅

namespace Headers

/-- The class that a header is called after. -/
def className (parts : List String) : String := Path.stem ".h" (parts.getLastD "")

/-- The headers by the classes they are called after. -/
def group (paths : List (List String)) : OrderedMap (List String) :=
  paths.foldl (fun m parts =>
    m.insert (className parts) (m.getD (className parts) [] ++ ["/".intercalate parts])) ∅

/-- The headers below the source directory; without a directory there are none. -/
def scan (t : Tree) (root : Option String) (preferred : List String) : Attempt Headers := do
  match root.filter (!·.isEmpty) with
  | none => pure { preferred }
  | some root =>
    let path := Path.ofString root
    match ← (t.directory? path).mapError Failure.file with
    | none =>
      .say .warning ("Source root " ++ path.toString ++ " not found, headers will not be included")
      pure { preferred }
    | some here =>
      let found := t.matching here true ".h"
      .say .debug ("Indexed " ++ toString found.length ++ " headers under " ++ path.toString)
      pure { preferred, candidates := group found }

/-- The header of a class: of those called after it the first that begins in the most preferred way, or
the first of all; empty if there is none. -/
def lookup (h : Headers) (name : String) : String :=
  let found := h.candidates.getD name []
  (h.preferred.findSome? fun start => found.find? (startsWith · start)).getD (found.headD "")

/-- A header is called after the class. -/
def contains (h : Headers) (name : String) : Bool := h.candidates.contains name

/-- The number of classes that headers are called after. -/
def size (h : Headers) : Nat := h.candidates.size

end Headers

end ScriptGlue.Files
