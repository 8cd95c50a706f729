import ScriptGlue.Files.CommandLine

/-!
# The program

Runs the command line over the files of the machine: the files that the arguments name are read into a
tree, and what the run changes in the tree is written back.
-/

namespace ScriptGlue

open ScriptGlue.Files

/-- The tree with a directory or file of the machine and everything below it. The texts of files are read
where `wanted` holds of their names; another file is new to the tree with an empty text, or stays as it is. -/
def snapshot (wanted : String → Bool) (t : Tree) (name : String) : IO Tree := do
  let place := "/" ++ "/".intercalate ((Path.ofString name).placeFrom t.current)
  let path := (← IO.currentDir) / place
  if ← path.isDir then
    let mut t := t.place (path.toString ++ "/") ""
    for inner in ← path.walkDir do
      let name := inner.toString
      if ← inner.isDir then t := t.place (name ++ "/") ""
      else if wanted name then t := t.place name (← try IO.FS.readFile inner catch _ => pure "")
      else if (t.at? (Path.ofString name).parts).isNone then t := t.place name ""
    return t
  else if ← path.pathExists then
    return t.place path.toString (← IO.FS.readFile path)
  else return t

/-- The part of the machine's files that the arguments name. -/
def gather (a : CommandLine.Arguments) : IO Tree := do
  let here ← IO.currentDir
  let mut t : Tree := { current := (Path.ofString here.toString).parts }
  t := t.place (here.toString ++ "/") ""
  t ← a.documentation.toList.foldlM (snapshot (Text.endsWith · ".xml")) t
  (a.config.toList ++ a.sourceRoot.toList ++ a.output.toList).foldlM (snapshot fun _ => false) t

/-- What the run has changed in the tree is written to the machine. -/
def writeBack (old new : Tree) : IO Unit := do
  for (parts, entry) in new.entries do
    if entry == .directory && (old.at? parts).isNone then
      IO.FS.createDirAll ("/" ++ "/".intercalate parts)
  for (parts, text) in new.changesSince old do
    IO.FS.writeFile ("/" ++ "/".intercalate parts) text

end ScriptGlue

open ScriptGlue in
/-- The program. -/
def main (argv : List String) : IO UInt32 := do
  let tree ← match CommandLine.readArguments argv with
    | .ok a => gather a
    | .error _ => pure {}
  match CommandLine.run tree argv with
  | .ok outcome =>
    IO.print outcome.output
    IO.eprint outcome.errors
    writeBack tree outcome.tree
    return UInt32.ofNat outcome.status
  | .error refusal =>
    IO.eprintln refusal.message
    return 1
