import Manifests.Enricher
import Manifests.InitContainers

/-!
The enricher that adds an init container which opens the mounts of claimed volumes for writing.
-/
namespace Manifests.Enricher.VolumePermissions

def name : String := "forge-volume-permission"

def permissionKey : Key := ⟨"permission", some "777", "Mode applied to persistent volume mounts"⟩

def isClaim (v : Volume) : Bool := v.persistentVolumeClaim.isSome

def claims (s : PodSpec) : List Volume := (s.volumes.getD []).filter isClaim

def mounts (s : PodSpec) : List VolumeMount := s.containers.flatMap fun c => c.volumeMounts.getD []

/-- The first mount of a volume, as a mount of its own. -/
def mountOf (s : PodSpec) (v : Volume) : Except Error VolumeMount :=
  match (mounts s).find? (·.name == v.name) with
  | some m => .ok { (default : VolumeMount) with name := v.name, mountPath := m.mountPath }
  | none => .error (.resource (.noMount v.name))

/-- The container that changes the mode of every path once. -/
def initContainer (c : Context) (s : PodSpec) : Except Error Container := do
  let mounts ← (claims s).mapM (mountOf s)
  return { (default : Container) with
    name := name
    image := some "busybox"
    imagePullPolicy := some "IfNotPresent"
    command := some
      ("chmod" :: c.textOr name permissionKey "777" :: (mounts.map (·.mountPath)).eraseDups)
    volumeMounts := some mounts }

/-- Whether a pod needs the container: it has a claimed volume and a container. -/
def isNeeded (s : PodSpec) : Bool := !(claims s).isEmpty && !s.containers.isEmpty

def adaptTemplate (c : Context) (t : PodTemplateSpec) : Logged PodTemplateSpec :=
  match t.spec with
  | none => return t
  | some s =>
    if isNeeded s && !t.hasInitContainer name then do
      let container ← Logged.ofExcept (initContainer c s)
      t.addInitContainer container
    else return t

def enricher (c : Context) : Enricher :=
  { idle name with
    adapt := fun _ resources => resources.mapM (Resource.adaptTemplate (adaptTemplate c))
    keys := [permissionKey] }

end Manifests.Enricher.VolumePermissions
