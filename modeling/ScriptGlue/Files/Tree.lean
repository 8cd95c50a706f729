import ScriptGlue.Failure
import ScriptGlue.Files.Path

/-!
# File trees

Directories and files as a value: what a run reads from and writes to. Relative paths are taken from the
current directory of the tree.
-/

namespace ScriptGlue.Files

open ScriptGlue.Text

/-- What stands at a path. -/
inductive Entry where
  /-- A directory. -/
  | directory
  /-- A file with its text. -/
  | file (text : String)
  deriving DecidableEq, Repr

/-- A file tree, as the entries with their paths. The directory around an entry has an entry of its own,
apart from the root. -/
structure Tree where
  /-- The entries with their paths from the root, each path once. -/
  entries : List (List String × Entry) := []
  /-- The path of the current directory. -/
  current : List String := []
  deriving DecidableEq, Repr

namespace Tree

/-- What stands at a path without parts that lead outwards. -/
def at? (t : Tree) (parts : List String) : Option Entry :=
  if parts.isEmpty then some .directory else t.entries.lookup parts

/-- The tree with an entry at a path, in the place of the one that was there. -/
def set (t : Tree) (parts : List String) (entry : Entry) : Tree :=
  if t.entries.any (·.1 == parts) then
    { t with entries := t.entries.map fun (p, e) => if p == parts then (p, entry) else (p, e) }
  else { t with entries := t.entries ++ [(parts, entry)] }

/-! ### Limits -/

/-- The most bytes of the name of an entry. -/
def maxNameBytes : Nat := 255

/-- The most bytes of a path. -/
def maxPathBytes : Nat := 4095

/-- Why nothing can be named that way, if it cannot. -/
def misspelling? (name : String) : Option FileError :=
  if name.isEmpty then some (.notFound name)
  else if name.toList.contains '\x00' then some .nullCharacter
  else if name.utf8ByteSize > maxPathBytes then some (.nameTooLong name)
  else none

/-! ### Finding -/

/-- The entry that the parts lead to from the directory `here`, with its place; `.` leads to the directory
itself and `..` to the directory around, and the root is around itself. -/
def walk? (t : Tree) (here : List String) : List String → Except (String → FileError) (List String × Entry)
  | [] =>
    match t.at? here with
    | some entry => .ok (here, entry)
    | none => .error .notFound
  | part :: rest =>
    match t.at? here with
    | some .directory =>
      if part.utf8ByteSize > maxNameBytes then .error .nameTooLong
      else t.walk? (if part == "." then here else if part == ".." then here.dropLast else here ++ [part]) rest
    | some (.file _) => .error .notDirectory
    | none => .error .notFound

/-- The parts of a name as they are walked. Dots are kept, as only a directory can be walked further, and a
slash at the end stands for one. -/
def steps (name : String) : List String :=
  (((splitAtChar '/' name.toList).map String.ofList).filter (· != "")) ++ if endsWith name "/" then ["."] else []

/-- The entry of the given name, with its place. -/
def find? (t : Tree) (name : String) : Except FileError (List String × Entry) :=
  match misspelling? name with
  | some refusal => .error refusal
  | none => (t.walk? (if startsWith name "/" then [] else t.current) (steps name)).mapError (· name)

/-- The place of a directory, if it is there. Of all refusals only that of a long name counts. -/
def directory? (t : Tree) (path : Path) : Except FileError (Option (List String)) :=
  match t.find? path.toString with
  | .ok (here, .directory) => .ok (some here)
  | .error (.nameTooLong name) => .error (.nameTooLong name)
  | _ => .ok none

/-- The text of the file of the given name. -/
def read (t : Tree) (name : String) : Except FileError String :=
  match t.find? name with
  | .ok (_, .file text) => .ok text
  | .ok (_, .directory) => .error (.isDirectory name)
  | .error refusal => .error refusal

/-- The path of an entry inside a directory. -/
def below? (here parts : List String) : Option (List String) :=
  if here.isPrefixOf parts && here.length < parts.length then some (parts.drop here.length) else none

/-- The paths inside a directory of the entries whose names end in `suffix`, in order; those in
directories inside it too if `recursive`. -/
def matching (t : Tree) (here : List String) (recursive : Bool) (suffix : String) : List (List String) :=
  let found := t.entries.filterMap fun (parts, _) =>
    (below? here parts).filter fun inner =>
      (recursive || inner.length == 1) && inner.getLast?.any (endsWith · suffix)
  found.mergeSort precedes

/-! ### Changing -/

/-- The tree with the directory that the parts lead to from `here`; directories that are missing on the way
are made, and those that have been made stay when something is in the way of the rest. `done` leads to `here`,
and `made` tells whether a directory has been made: a file or a long name is in the way of the whole path
before that, and of its own part afterwards. -/
def makeFrom (t : Tree) (path : Path) (made : Bool) (done here : List String) :
    List String → Tree × Option FileError
  | [] => (t, none)
  | part :: rest =>
    let done := done ++ [part]
    if part == ".." then t.makeFrom path made done here.dropLast rest
    else if part.utf8ByteSize > maxNameBytes then
      (t, some (.nameTooLong (Path.toString (if made then { path with parts := done } else path))))
    else
      let next := here ++ [part]
      match t.at? next with
      | some .directory => t.makeFrom path made done next rest
      | some (.file _) =>
        (t, some (if made || rest.isEmpty then .exists (Path.toString { path with parts := done })
          else .notDirectory path.toString))
      | none => (t.set next .directory).makeFrom path true done next rest

/-- The tree with a directory at a path, or with as much of the way to it as can be made. -/
def makeDirectory (t : Tree) (path : Path) : Tree × Option FileError :=
  match misspelling? path.toString with
  | some refusal => (t, some refusal)
  | none => t.makeFrom path false [] (if path.isAbsolute then [] else t.current) path.parts

/-- The tree with a file at a path; the directory around it must be there. -/
def write (t : Tree) (path : Path) (text : String) : Except FileError Tree :=
  match misspelling? path.toString, path.parts.getLast? with
  | some refusal, _ => .error refusal
  | none, none => .error (.isDirectory path.toString)
  | none, some name =>
    match t.walk? (if path.isAbsolute then [] else t.current) path.parts.dropLast with
    | .error refusal => .error (refusal path.toString)
    | .ok (_, .file _) => .error (.notDirectory path.toString)
    | .ok (here, .directory) =>
      if name == ".." then .error (.isDirectory path.toString)
      else if name.utf8ByteSize > maxNameBytes then .error (.nameTooLong path.toString)
      else
        match t.at? (here ++ [name]) with
        | some .directory => .error (.isDirectory path.toString)
        | _ => .ok (t.set (here ++ [name]) (.file text))

/-- The places and texts of the files that are not in the tree `old` or differ there. -/
def changesSince (t old : Tree) : List (List String × String) :=
  t.entries.filterMap fun (parts, entry) =>
    match entry with
    | .file text => if old.at? parts == some (.file text) then none else some (parts, text)
    | .directory => none

/-- The paths and texts of the files inside the current directory that are not in the tree `old` or differ
there, in order. -/
def changedSince (t old : Tree) : List (String × String) :=
  let files := (t.changesSince old).filterMap fun (parts, text) =>
    (below? t.current parts).map fun inner => ("/".intercalate inner, text)
  files.mergeSort fun a b => a.1 ≤ b.1

/-- The tree with a file or, for a path that ends in a slash, a directory, and the directories around
it. -/
def place (t : Tree) (name text : String) : Tree :=
  let parts := (Path.ofString name).placeFrom t.current
  let outer := (List.range parts.length).map parts.take
  let t := outer.foldl (fun (t : Tree) p => if (t.at? p).isSome then t else t.set p .directory) t
  if endsWith name "/" then
    if (t.at? parts).isSome then t else t.set parts .directory
  else t.set parts (.file text)

/-- The tree with the given files and directories in and below the directory at `current`. -/
def ofFiles (current : List String) (files : List (String × String)) : Tree :=
  (("./", "") :: files).foldl (fun t (name, text) => t.place name text) { current }

end Tree

end ScriptGlue.Files
