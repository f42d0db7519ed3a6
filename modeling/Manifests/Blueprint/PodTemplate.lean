import Manifests.Blueprint
import Manifests.Object.Pod

/-!
The pod template of a build: its containers without the mounts that have no volume, the volumes,
and the account that the pods run under.
-/
namespace Manifests.Blueprint

/-- The mounts whose volume is among the named ones; the others are reported. -/
def keepMounts (volumes : List String) (container : String) :
    List VolumeMount → Logged (List VolumeMount)
  | [] => return []
  | mount :: rest => do
    if volumes.contains mount.name then return mount :: (← keepMounts volumes container rest)
    Logged.warn ("Dropping mount " ++ mount.mountPath ++ " of container " ++ container ++
      ": no volume named '" ++ mount.name ++ "'")
    keepMounts volumes container rest

def attach (volumes : List String) (c : Container) : Logged Container :=
  match c.volumeMounts with
  | none => return c
  | some mounts => do
    return { c with volumeMounts := nonEmpty? (← keepMounts volumes c.name mounts) }

def podAnnotations? (b : Blueprint) : Option (SortedMap String) :=
  let annotations := b.policy.annotations.pod
  if annotations.isEmpty then none else some annotations

def podTemplate (b : Blueprint) (images : List Config.Image) : Logged PodTemplateSpec := do
  let volumes ← Config.VolumeDeclaration.volumes b.policy.volumes
  let containers ← b.containers images
  let containers ← containers.mapM (attach (volumes.map (·.name)))
  return {
    metadata := some { (default : ObjectMeta) with annotations := b.podAnnotations? }
    spec := some { (default : PodSpec) with
      containers
      serviceAccountName := b.policy.serviceAccount.bind Text.nonBlank?
      volumes := nonEmpty? volumes } }

end Manifests.Blueprint
