import Manifests.Config.Build
import Manifests.Environment
import Manifests.Port
import Manifests.Volumes

/-!
What containers are built from: the project, the resource policy, and defaults for the
environment.  Every image of a build gives one container.
-/
namespace Manifests

structure Blueprint where
  project : Config.Project
  policy : Config.Policy
  envDefaults : Environment.Provider

namespace Blueprint

/-- The policy of containers whose build has a released version and configures none. -/
def pullAlways : String := "PullAlways"

/-- The configured pull policy, or the one of released versions. -/
def pullPolicy? (b : Blueprint) : Option String :=
  match b.policy.pullPolicy?, b.project.version with
  | some policy, _ => some policy
  | none, some _ => if b.project.isSnapshot then none else some pullAlways
  | none, none => none

def securityContext? (b : Blueprint) : Option SecurityContext :=
  if b.policy.containerPrivileged then
    some { (default : SecurityContext) with privileged := some true }
  else none

/-- A list that is left out when it is empty. -/
def nonEmpty? {α : Type} (l : List α) : Option (List α) := if l.isEmpty then none else some l

def container (b : Blueprint) (image : Config.Image) : Logged Container := do
  let ports ← Logged.ofExcept (PortMapping.containerPorts b.project.properties image.ports)
  let env ← Environment.build b.policy.env b.envDefaults
  let declared := Config.mountDeclarations b.policy.volumes
  let mounts := declared.map Config.MountDeclaration.toVolumeMount
  return { (default : Container) with
    name := image.containerName b.project
    image := image.reference?
    imagePullPolicy := b.pullPolicy?
    env := some env
    ports := nonEmpty? ports
    volumeMounts := nonEmpty? mounts
    securityContext := b.securityContext? }

def containers (b : Blueprint) (images : List Config.Image) : Logged (List Container) :=
  images.mapM b.container

end Blueprint
end Manifests
