import Manifests.Config.Project
import Manifests.ImageReference
import Manifests.Text.Blank

/-!
The images of a build and the names that their references and containers get.
-/
namespace Manifests.Config

/-- How an image is built: its base, the ports it exposes and extra tags. -/
structure ImageBuild where
  base : Option String
  ports : List String
  tags : List String
  deriving DecidableEq, Inhabited

structure Image where
  name : Option String
  containerAlias : Option String
  registry : Option String
  build : Option ImageBuild
  deriving DecidableEq, Inhabited

instance : Setting ImageBuild where
  read? d := do
    let f ← d.fields? ["from", "ports", "tags"]
    return {
      base := ← field? f "from"
      ports := ← field? f "ports"
      tags := ← field? f "tags" }
  toJson b := .object [
    ("from", toJson b.base), ("ports", toJson b.ports), ("tags", toJson b.tags)]

instance : Setting Image where
  read? d := do
    let f ← d.fields? ["name", "alias", "registry", "build"]
    return {
      name := ← field? f "name"
      containerAlias := ← field? f "alias"
      registry := ← field? f "registry"
      build := ← field? f "build" }
  toJson i := .object [
    ("name", toJson i.name), ("alias", toJson i.containerAlias), ("registry", toJson i.registry),
    ("build", toJson i.build)]

namespace Image

def ports (i : Image) : List String :=
  match i.build with
  | some b => b.ports
  | none => []

/-- The reference that containers use: `registry/name`, or the bare name. -/
def reference? (i : Image) : Option String := do
  let name ← i.name.bind Text.nonBlank?
  match i.registry.bind Text.nonBlank? with
  | some registry => some (registry ++ "/" ++ name)
  | none => some name

/-- The last of the segments of a group id. -/
def lastSegment (groupId : String) : String :=
  match Text.cutLast? '.' groupId.toList with
  | some (_, segment) => String.ofList segment
  | none => groupId

/-- The name of the image's container: its alias, or the user of its reference (else the last
segment of the group id) and the artifact id. -/
def containerName (i : Image) (p : Project) : String :=
  match i.containerAlias.filter fun a => !Text.isBlank a with
  | some name => name
  | none =>
    let user := (i.name.bind fun n => (ImageReference.parse n).user?).filter (· ≠ "")
    Text.lower (user.getD (lastSegment p.groupId) ++ "-" ++ p.artifactId)

end Image
end Manifests.Config
