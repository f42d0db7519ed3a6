import Manifests.FileTree
import Manifests.Fragment
import Manifests.Json.Reader
import Manifests.Yaml.Value

/-!
Fragments as files.  The extension says how a file is read, and a directory gives its fragments in
the order of their names.
-/
namespace Manifests.Fragment

/-- The value in the text of a fragment file; what is not JSON by its name is YAML. -/
def valueOfText (file text : String) : Except Error Json :=
  if ".json".toList.isSuffixOf (Text.lower file).toList then
    match Json.parse? text with
    | some value => .ok value
    | none => .error .json
  else
    match (Yaml.Tree.ofText? text).bind Yaml.Tree.value? with
    | some value => .ok value
    | none => .error .yaml

/-- The resource of the fragment file at a path. -/
def read (files : FileTree) (path defaultName : String) : Except Error Resource :=
  match files.read path with
  | .error fault => .error (.config (.unreadableFragment path fault))
  | .ok text => do
    let file := (FileTree.fileName? path).getD ""
    toResource file (← valueOfText file text) defaultName

/-- Whether a directory holds a file of this name as a fragment. -/
def isFragmentName (file : String) : Bool :=
  match FileTree.extension? file with
  | some extension => ["yaml", "yml", "json"].contains (Text.lower extension)
  | none => false

/-- The fragments of a directory by name; a missing directory has none, and a file whose path is
too long is none. -/
def readAll (files : FileTree) (directory defaultName : String) : Except Error (List Resource) :=
  if files.isDirectory directory then
    let names := ((files.filesIn directory).map (·.1)).filter isFragmentName
    let paths := (names.map (FileTree.join directory)).filter files.isFile
    paths.mapM fun path => read files path defaultName
  else .ok []

example : isFragmentName "web-svc.YML" = true := by decide +kernel
example : isFragmentName ".yml" = false := by decide +kernel

end Manifests.Fragment
