import Manifests.CommandLine.Arguments
import Manifests.Config.BuildFile
import Manifests.Config.Override
import Manifests.Generation
import Manifests.Summary

/-!
A run of the command line on the files that it can see.
-/
namespace Manifests.CommandLine

/-- What a run leaves: the text that it printed, and the files. -/
structure Outcome where
  printed : String
  files : FileTree

namespace Options

/-- The build document with the properties of the command line. -/
def build (o : Options) (files : FileTree) : Logged Config.Build := do
  match Config.Build.load files o.config with
  | .error cause => throw (.load o.config cause)
  | .ok b => Config.Override.applyAll b (Config.Override.parse o.properties).toList

/-- Prints the manifest, or writes it to the output and prints a summary. -/
def run (o : Options) (files : FileTree) : Logged Outcome := do
  let b ← o.build files
  let generation : Generation := ⟨b, StandardEnricher.registry, o.resources, o.overrides⟩
  let c ← generation.run files
  match o.output with
  | none => return ⟨c.render o.format, files⟩
  | some path =>
    let files ← c.write files path o.format
    let table := Summary.text (c.map Summary.ofResource)
    let line := Icon.success ++ " Wrote " ++ toString c.length ++ " resource(s) to " ++ path
    return ⟨table ++ "\n" ++ line ++ "\n", files⟩

end Options
end Manifests.CommandLine
