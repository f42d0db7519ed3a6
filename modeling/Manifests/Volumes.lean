import Manifests.Config.Policy
import Manifests.Logged
import Manifests.Object.Container
import Manifests.Object.Volume

/-!
Volumes and mounts from the volume declarations of a policy.
-/
namespace Manifests.Config

/-- The types that a declaration can name. -/
inductive VolumeType where
  | hostPath
  | emptyDir
  | gitRepo
  | secret
  | nfs
  | gcePersistentDisk
  | glusterfs
  | persistentVolumeClaim
  deriving Repr, DecidableEq

def VolumeType.ofKeyword? : String → Option VolumeType
  | "hostPath" => some hostPath
  | "emptyDir" => some emptyDir
  | "gitRepo" => some gitRepo
  | "secret" => some secret
  | "nfsPath" => some nfs
  | "gcePdName" => some gcePersistentDisk
  | "glusterFsPath" => some glusterfs
  | "persistentVolumeClaim" => some persistentVolumeClaim
  | _ => none

namespace VolumeDeclaration

/-- The volume of a declaration with the given name and type. -/
def toVolume (v : VolumeDeclaration) (name : String) (type : VolumeType) : Volume :=
  let volume := { (default : Volume) with name }
  let path := v.path.getD ""
  match type with
  | .hostPath =>
    { volume with hostPath := some { (default : HostPathVolumeSource) with path } }
  | .emptyDir =>
    { volume with emptyDir := some { (default : EmptyDirVolumeSource) with medium := v.medium } }
  | .gitRepo =>
    { volume with gitRepo := some { (default : GitRepoVolumeSource) with
      repository := v.repository.getD "", revision := v.revision } }
  | .secret =>
    { volume with
      secret := some { (default : SecretVolumeSource) with secretName := v.secretName } }
  | .nfs =>
    { volume with nfs := some { path, server := v.server.getD "", readOnly := v.readOnly } }
  | .gcePersistentDisk =>
    { volume with gcePersistentDisk := some {
      pdName := v.pdName.getD "", fsType := v.fsType, partition := v.partition,
      readOnly := v.readOnly } }
  | .glusterfs =>
    { volume with glusterfs := some {
      endpoints := v.endpoints.getD "", path, readOnly := v.readOnly } }
  | .persistentVolumeClaim =>
    { volume with persistentVolumeClaim := some {
      claimName := v.claimRef.getD "", readOnly := v.readOnly } }

/-- The volume of a declaration, unless its type is unknown or its name is blank. -/
def volume? (v : VolumeDeclaration) : Logged (Option Volume) :=
  let keyword := v.type.getD ""
  match VolumeType.ofKeyword? keyword, v.name? with
  | none, name => do
    Logged.warn ("Dropping volume " ++ name.getD "<unnamed>" ++ ": unsupported volume type '" ++
      keyword ++ "'")
    return none
  | some _, none => do
    Logged.warn ("Dropping " ++ keyword ++ " volume without a name")
    return none
  | some type, some name => return some (v.toVolume name type)

def volumes : List VolumeDeclaration → Logged (List Volume)
  | [] => return []
  | v :: rest => do
    let volume ← v.volume?
    return volume.toList ++ (← volumes rest)

end VolumeDeclaration

/-- A mount before it is attached to a container; its volume may lack a name. -/
structure MountDeclaration where
  name : Option String
  path : String
  readOnly : Option Bool
  deriving DecidableEq

/-- One mount for every path of every declaration. -/
def mountDeclarations (volumes : List VolumeDeclaration) : List MountDeclaration :=
  volumes.flatMap fun v => v.mounts.map fun path => ⟨v.name?, path, some false⟩

def MountDeclaration.toVolumeMount (m : MountDeclaration) : VolumeMount :=
  { (default : VolumeMount) with
    name := m.name.getD "", mountPath := m.path, readOnly := m.readOnly }

end Manifests.Config
