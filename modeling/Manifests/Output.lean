import Manifests.Collection
import Manifests.FileTree
import Manifests.Logged
import Manifests.Text.LetterCase
import Manifests.Yaml.Writer

/-!
The list manifest as text, and the file that it is written to.
-/
namespace Manifests

inductive OutputFormat where
  | yaml
  | json
  deriving Repr, DecidableEq, Inhabited

namespace OutputFormat

def name : OutputFormat → String
  | yaml => "yaml"
  | json => "json"

def extension : OutputFormat → String
  | yaml => "yml"
  | json => "json"

/-- The format of a name or extension in any letter case. -/
def parse (s : String) : Except Error OutputFormat :=
  let word := Text.lower s
  if word = "yaml" ∨ word = "yml" then .ok yaml
  else if word = "json" then .ok json
  else .error (.config (.outputFormat s))

end OutputFormat

namespace Collection

/-- The text of the list manifest, with its keys in order. -/
def render (c : Collection) (format : OutputFormat) : String :=
  let list := (toJson c).canonical
  match format with
  | .yaml => Yaml.document list
  | .json => list.prettyText ++ "\n"

/-- The file that an output path stands for; a directory, or a path without an extension, takes a
file of a fixed name. -/
def outputFile (files : FileTree) (path : String) (format : OutputFormat) : String :=
  if files.isDirectory path ∨ (FileTree.extension? path).isNone then
    FileTree.join path ("kubernetes." ++ format.extension)
  else path

/-- Writes the manifest below an output path. -/
def write (c : Collection) (files : FileTree) (path : String) (format : OutputFormat) :
    Logged FileTree := do
  let target := outputFile files path format
  let files ← Logged.ofExcept (files.write target (render c format))
  Logged.info ("Wrote " ++ toString c.length ++ " resource(s) to " ++ target)
  return files

end Collection
end Manifests
