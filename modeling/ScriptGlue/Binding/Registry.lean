import ScriptGlue.Cpp.Category
import ScriptGlue.Documentation.Graph
import ScriptGlue.Files.Headers

/-!
# The class registry

The classes that generated code may refer to, and those that get bindings of their own. Classes are
registered because they are asked for by name or because the documentation has them; a name asked for
with a leading underscore is registered for the sake of other classes only.
-/

namespace ScriptGlue

open ScriptGlue.Text ScriptGlue.Cpp ScriptGlue.Files

/-- A registered class. -/
structure ClassEntry where
  /-- The name without namespace. -/
  name : String
  /-- Its objects count references. -/
  isRefcounted : Bool
  /-- It gets no bindings of its own. -/
  isDependencyOnly : Bool
  /-- The path of its header, empty if none is known. -/
  header : String
  /-- What the documentation says about it, if anything. -/
  compound? : Option Compound := none

/-- The registered classes. -/
structure Registry where
  /-- The tables. -/
  config : Config
  /-- All classes by name. -/
  entries : OrderedMap ClassEntry := ∅
  /-- The classes that get bindings, with what the documentation says about them. -/
  bindable : List (ClassEntry × Compound) := []

/-! ### Ownership -/

/-- The name alone says that objects of the class count references. -/
def Config.isRefcountedName (config : Config) (name : String) : Bool :=
  config.refcountedBases.contains name || config.refcountedFragments.any (occursIn · name)

/-- The name or a member says that objects of the class count references. -/
def Config.isRefcountedClass (config : Config) (c : Compound) : Bool :=
  config.isRefcountedName (Descriptor.nameOf c.name) ||
    c.members.any fun m => config.refcountedMarkers.contains m.name

namespace Registry

/-- The entry of a class. -/
def get? (r : Registry) (name : String) : Option ClassEntry := r.entries.get? name

/-- The class is registered. -/
def contains (r : Registry) (name : String) : Bool := r.entries.contains name

/-- The names of the registered classes. -/
def names (r : Registry) : List String := r.entries.keys

/-- Objects of the class count references; of a class that is not registered its name tells. -/
def isRefcounted (r : Registry) (name : String) : Bool :=
  match r.get? name with
  | some entry => entry.isRefcounted
  | none => r.config.isRefcountedName name

/-- The types known through the registered classes. -/
def vocabulary (r : Registry) : Vocabulary where
  config := r.config
  classes := r.names
  isRefcounted := r.isRefcounted

/-- The header to include for a class, empty if none is known. -/
def includeFor (r : Registry) (name : String) : String :=
  let name := Descriptor.nameOf name
  let header := ((r.get? name).map (·.header)).getD ""
  if header.isEmpty then r.config.fallbackIncludes.getD name "" else header

end Registry

/-! ### Requested classes -/

/-- The names that are asked for, each once, and those asked for with a leading underscore. -/
def requestedClasses (requested : List String) : List String × List String :=
  requested.foldl (fun (names, dependencies) argument =>
    let isDependency := startsWith argument "_"
    let name := if isDependency then dropStart argument 1 else argument
    (if name.isEmpty || names.contains name then names else names ++ [name],
      if isDependency && !dependencies.contains name then dependencies ++ [name] else dependencies)) ([], [])

/-! ### Building -/

/-- The header of a class, looked up under another name where the tables give one. -/
def resolveHeader (config : Config) (headers : Headers) (name : String) : Logged String := do
  match config.headerAliases.get? name with
  | some header => if endsWith header ".h" then pure header else search header
  | none => search name
where
  /-- The header found, with a message if there are headers but none for the class. -/
  search (name : String) : Logged String := do
    let header := headers.lookup name
    if header.isEmpty && 0 < headers.size then .say .debug ("No header found for " ++ name)
    pure header

/-- A compound of this kind can be bound. -/
def isBindableKind (kind : String) : Bool := kind == "class" || kind == "struct" || kind == "namespace"

namespace Registry

/-- The registry and the classes found in the documentation after a class has been asked for. -/
def request (config : Config) (headers : Headers) (dependencies : List String) (r : Registry) :
    List String → Logged Registry
  | [] => pure r
  | name :: rest => do
    let header ← resolveHeader config headers name
    let entry : ClassEntry := {
      name
      isRefcounted := config.isRefcountedName name
      isDependencyOnly := dependencies.contains name
      header }
    request config headers dependencies { r with entries := r.entries.insert name entry } rest

/-- The compound is one of those to register: of a kind that can be bound, and asked for if anything
is. -/
def isWanted (names : List String) (c : Compound) : Bool :=
  isBindableKind c.kind && (names.isEmpty || names.contains (stripNamespace scopedNames c.name))

/-- The entries and the classes found in the documentation after some compounds. Of two compounds with
one name the later replaces the earlier, in the later place. -/
def find (config : Config) (headers : Headers) (names dependencies : List String)
    (entries : OrderedMap ClassEntry) (found : OrderedMap (ClassEntry × Compound)) :
    List Compound → Logged (OrderedMap ClassEntry × OrderedMap (ClassEntry × Compound))
  | [] => pure (entries, found)
  | c :: rest => do
    if !isWanted names c then find config headers names dependencies entries found rest
    else if config.deniedNamespaces.contains (namespaceOf scopedNames c.name) then
      .say .debug ("Skipping " ++ c.name ++ ", namespace is not bound")
      find config headers names dependencies entries found rest
    else
      let name := Descriptor.nameOf c.name
      if found.contains name then
        .say .debug (c.name ++ " replaces an earlier class named " ++ name)
      let header ← resolveHeader config headers name
      let entry : ClassEntry := {
        name
        isRefcounted := config.isRefcountedClass c
        isDependencyOnly := dependencies.contains name
        header
        compound? := some c }
      find config headers names dependencies (entries.insert name entry)
        ((found.erase name).insert name (entry, c)) rest

/-- The registry of the classes asked for and of those that the documentation has. -/
def build (config : Config) (headers : Headers) (compounds : List Compound) (requested : List String) :
    Logged Registry := do
  let (names, dependencies) := requestedClasses requested
  let r ← request config headers dependencies { config } names
  let (entries, found) ← find config headers names dependencies r.entries ∅ compounds
  let bindable := found.values.filter (!·.1.isDependencyOnly)
  .say .info ("Registered " ++ toString entries.size ++ " classes, " ++ toString bindable.length ++ " to generate")
  pure { config, entries, bindable }

end Registry

end ScriptGlue
