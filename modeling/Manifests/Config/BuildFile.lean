import Manifests.Config.Build
import Manifests.Config.Format
import Manifests.FileTree

/-!
Build documents as files, whose extension tells their format.
-/
namespace Manifests.Config

/-- The build document of the file at a path. -/
def Build.load (files : FileTree) (path : String) : Except Error Build :=
  match files.read path with
  | .error fault => .error (.config (.unreadableBuild path fault))
  | .ok text =>
    match (FileTree.extension? path).bind Format.ofExtension? with
    | some format => format.read text
    | none => .error (.config (.buildFormat path))

end Manifests.Config
