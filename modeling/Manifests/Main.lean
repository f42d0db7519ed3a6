import Manifests.CommandLine

/-!
The program: it gives the files that a command names to a run, and carries out what the run leaves.
-/
namespace Manifests.CommandLine

/-- The tree with the file at a path, or with the directory there and the files in it. -/
def withPath (t : FileTree) (path : String) : IO FileTree := do
  try
    return t.add path (← IO.FS.readFile path)
  catch _ =>
    try
      let mut found := t.add (path ++ "/") ""
      for entry in ← (← IO.FS.realPath path).readDir do
        try
          found := found.add (FileTree.join path entry.fileName) (← IO.FS.readFile entry.path)
        catch _ => pure ()
      return found
    catch _ => return t

/-- The paths of the directories that a path leads through, and the path itself. -/
def pathsTo (path : String) : List String :=
  let names := FileTree.names path
  (List.range names.length).map fun i => FileTree.pathOf (names.take (i + 1))

/-- The files that the options name, and those that the build document names. -/
def filesFor (o : Options) : IO FileTree := do
  let here := FileTree.names (← IO.currentDir).toString
  let named := o.config :: o.resources.toList ++ o.overrides.toList ++
    (o.output.map pathsTo).getD []
  let files ← named.foldlM withPath { FileTree.ofList [] with base := here }
  match (o.build files).outcome with
  | .error _ => return files
  | .ok b =>
    let further := b.resources.envSchema.toList ++ b.enricher.descriptors.map Text.trim
    further.foldlM withPath files

/-- Writes a file after making the directories that lead to it. -/
def save (path content : String) : IO Unit := do
  IO.FS.createDirAll (FileTree.pathOf (FileTree.names path).dropLast)
  IO.FS.writeFile path content

def execute (o : Options) : IO UInt32 := do
  let files ← filesFor o
  let run := o.run files
  for line in run.log do
    IO.eprintln line.show
  match run.outcome with
  | .error e =>
    IO.eprintln ("Error: " ++ e.message)
    return 1
  | .ok done =>
    for (path, content) in files.changes done.files do
      save path content
    IO.print done.printed
    return 0

end Manifests.CommandLine

open Manifests.CommandLine

def main (arguments : List String) : IO UInt32 := do
  match Options.parse arguments with
  | .ok options => execute options
  | .error refusal =>
    if refusal.isAnswer then
      IO.print refusal.message
      return 0
    else
      IO.eprint refusal.message
      return 2
