import ScriptGlue.Binding.Unit
import ScriptGlue.Files.Headers

/-!
# Runs of the generator

The steps of a run over a file tree: reading the documentation, building the registry of classes, and
writing the bindings. Each step uses what the steps before it have left behind, and what a step that fails
has reached stays.
-/

namespace ScriptGlue

open ScriptGlue.Files

/-! ### Reading a directory -/

namespace Graph

/-- The graph with the files at the given paths inside a directory added in order, up to the first
failure; `shown` is the path of the directory in messages. -/
def addFiles (t : Tree) (here : List String) (shown : Path) (g : Graph) :
    List (List String) → Logged (Graph × Option Failure)
  | [] => pure (g, none)
  | inner :: rest => do
    let name := (shown.append inner).toString
    match t.at? (here ++ inner) with
    | some (.file text) =>
      match ← g.addFile name text with
      | (g, none) => addFiles t here shown g rest
      | (g, some failure) => pure (g, some failure)
    | some .directory => pure (g, some (.file (.isDirectory name)))
    | none => pure (g, some (.file (.notFound name)))

/-- The graph with the documentation in a directory, its overloads grouped. -/
def addDirectory (g : Graph) (t : Tree) (directory : String) (recursive : Bool) :
    Logged (Graph × Option Failure) := do
  let path := Path.ofString directory
  match t.directory? path with
  | .error refusal => pure (g, some (.file refusal))
  | .ok none => pure (g, some (.missingDirectory path.toString))
  | .ok (some here) =>
    let files := t.matching here recursive ".xml"
    .say .info ("Parsing Doxygen XML from " ++ path.toString ++ " (" ++ toString files.length ++ " files)")
    match ← g.addFiles t here path files with
    | (g, some failure) => pure (g, some failure)
    | (g, none) =>
      let (g, _) ← g.groupOverloads
      .say .info ("Parsed " ++ toString g.symbols.size ++ " symbols from " ++ toString g.compounds.length ++
        " compounds")
      pure (g, none)

end Graph

/-! ### Steps -/

/-- What a run has at hand. -/
structure Workspace where
  /-- The tables. -/
  config : Config
  /-- The files. -/
  tree : Tree
  /-- The documentation that was read last, even if only in part. -/
  graph? : Option Graph := none
  /-- The registry that was built last. -/
  built? : Option Registry := none

/-- A step of a run: it may fail, and what it has changed by then stays. -/
abbrev Step := ExceptT Failure (StateT Workspace Logged)

namespace Step

/-- A message made by a step. -/
def say (level : Level) (text : String) : Step Unit := fun w => do
  Logged.say level text
  pure (.ok (), w)

/-- A computation that does not change what is at hand. -/
def ofAttempt {α : Type} (x : Attempt α) : Step α := fun w => do
  let result ← x.run
  pure (result, w)

/-- A result of the file system. -/
def ofFiles {α : Type} (x : Except FileError α) : Step α :=
  match x with
  | .ok a => pure a
  | .error e => throw (.file e)

/-- The documentation in a directory is read into a fresh graph. -/
def load (directory : String) : Step Graph := do
  let w ← get
  let (g, failure?) ← ofAttempt (ExceptT.lift (Graph.addDirectory
    { ignoredTokens := w.config.ignoredTypeTokens } w.tree directory true))
  set { w with graph? := some g }
  match failure? with
  | none => pure g
  | some failure => throw failure

/-- The registry is built from the documentation and the headers below a source directory. -/
def buildRegistry (requested : List String) (sourceRoot : Option String) : Step Registry := do
  let w ← get
  match w.graph? with
  | none => throw .notLoaded
  | some g =>
    let r ← ofAttempt do
      let headers ← Headers.scan w.tree sourceRoot w.config.headerPrefixes
      ExceptT.lift (Registry.build w.config headers g.compounds requested)
    set { w with built? := some r }
    pure r

/-- The bindings of all classes that get any, as file names with texts. -/
def sources : Step (OrderedMap String) := do
  match (← get).built? with
  | none => throw .noRegistry
  | some r => ofAttempt r.sources

/-- The texts are written to files in a directory. -/
def writeAll (directory : Path) : List (String × String) → Step Unit
  | [] => pure ()
  | (name, text) :: rest => do
    let target := directory.join (Path.ofString name)
    let w ← get
    let tree ← ofFiles (w.tree.write target text)
    set { w with tree }
    say .info ("Generated bindings: " ++ target.toString)
    writeAll directory rest

/-- All steps of a run: the documentation of one directory becomes the bindings in another. -/
def generate (documentation output : String) (sourceRoot : Option String) (requested : List String) :
    Step (OrderedMap String) := do
  let _ ← load documentation
  let _ ← buildRegistry requested sourceRoot
  let directory := Path.ofString output
  let w ← get
  let (tree, refusal?) := w.tree.makeDirectory directory
  set { w with tree }
  ofFiles (refusal?.elim (.ok ()) .error)
  let made ← sources
  writeAll directory made.toList
  say .info ("Generated " ++ toString made.size ++ " bindings files in " ++ directory.toString)
  pure made

end Step

end ScriptGlue
