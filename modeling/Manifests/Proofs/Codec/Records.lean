import Manifests.Object.Service
import Manifests.Proofs.Codec.Fields

/-!
Reading back the records that manifests are made of, each from its fields and after the records that
it holds.
-/
namespace Manifests.Coded

/-! ### Metadata and selectors -/

instance : Lawful ObjectMeta :=
  .of_fields (fun _ => rfl) (fun _ => rfl) (fun _ => rfl) fun _ => by simp

instance : Lawful ObjectReference :=
  .of_fields (fun _ => rfl) (fun _ => rfl) (fun _ => rfl) fun _ => by simp

instance : Lawful LocalObjectReference :=
  .of_fields (fun _ => rfl) (fun _ => rfl) (fun _ => rfl) fun _ => by simp

instance : Lawful LabelSelectorRequirement :=
  .of_fields (fun _ => rfl) (fun _ => rfl) (fun _ => rfl) fun _ => by simp

instance : Lawful LabelSelector :=
  .of_fields (fun _ => rfl) (fun _ => rfl) (fun _ => rfl) fun _ => by simp

/-! ### Containers -/

instance : Lawful ConfigMapKeySelector :=
  .of_fields (fun _ => rfl) (fun _ => rfl) (fun _ => rfl) fun _ => by simp

instance : Lawful ObjectFieldSelector :=
  .of_fields (fun _ => rfl) (fun _ => rfl) (fun _ => rfl) fun _ => by simp

instance : Lawful SecretKeySelector :=
  .of_fields (fun _ => rfl) (fun _ => rfl) (fun _ => rfl) fun _ => by simp

instance : Lawful EnvVarSource :=
  .of_fields (fun _ => rfl) (fun _ => rfl) (fun _ => rfl) fun _ => by simp

instance : Lawful EnvVar :=
  .of_fields (fun _ => rfl) (fun _ => rfl) (fun _ => rfl) fun _ => by simp

instance : Lawful ExecAction :=
  .of_fields (fun _ => rfl) (fun _ => rfl) (fun _ => rfl) fun _ => by simp

instance : Lawful HTTPGetAction :=
  .of_fields (fun _ => rfl) (fun _ => rfl) (fun _ => rfl) fun _ => by simp

instance : Lawful TCPSocketAction :=
  .of_fields (fun _ => rfl) (fun _ => rfl) (fun _ => rfl) fun _ => by simp

instance : Lawful Probe :=
  .of_fields (fun _ => rfl) (fun _ => rfl) (fun _ => rfl) fun _ => by simp

instance : Lawful ContainerPort :=
  .of_fields (fun _ => rfl) (fun _ => rfl) (fun _ => rfl) fun _ => by simp

instance : Lawful ResourceRequirements :=
  .of_fields (fun _ => rfl) (fun _ => rfl) (fun _ => rfl) fun _ => by simp

instance : Lawful SecurityContext :=
  .of_fields (fun _ => rfl) (fun _ => rfl) (fun _ => rfl) fun _ => by simp

instance : Lawful VolumeMount :=
  .of_fields (fun _ => rfl) (fun _ => rfl) (fun _ => rfl) fun _ => by simp

instance : Lawful Container :=
  .of_fields (fun _ => rfl) (fun _ => rfl) (fun _ => rfl) fun _ => by simp

/-! ### Volumes -/

instance : Lawful ConfigMapVolumeSource :=
  .of_fields (fun _ => rfl) (fun _ => rfl) (fun _ => rfl) fun _ => by simp

instance : Lawful EmptyDirVolumeSource :=
  .of_fields (fun _ => rfl) (fun _ => rfl) (fun _ => rfl) fun _ => by simp

instance : Lawful GCEPersistentDiskVolumeSource :=
  .of_fields (fun _ => rfl) (fun _ => rfl) (fun _ => rfl) fun _ => by simp

instance : Lawful GitRepoVolumeSource :=
  .of_fields (fun _ => rfl) (fun _ => rfl) (fun _ => rfl) fun _ => by simp

instance : Lawful GlusterfsVolumeSource :=
  .of_fields (fun _ => rfl) (fun _ => rfl) (fun _ => rfl) fun _ => by simp

instance : Lawful HostPathVolumeSource :=
  .of_fields (fun _ => rfl) (fun _ => rfl) (fun _ => rfl) fun _ => by simp

instance : Lawful NFSVolumeSource :=
  .of_fields (fun _ => rfl) (fun _ => rfl) (fun _ => rfl) fun _ => by simp

instance : Lawful PersistentVolumeClaimVolumeSource :=
  .of_fields (fun _ => rfl) (fun _ => rfl) (fun _ => rfl) fun _ => by simp

instance : Lawful SecretVolumeSource :=
  .of_fields (fun _ => rfl) (fun _ => rfl) (fun _ => rfl) fun _ => by simp

instance : Lawful Volume :=
  .of_fields (fun _ => rfl) (fun _ => rfl) (fun _ => rfl) fun _ => by simp

/-! ### Pods -/

instance : Lawful PodSecurityContext :=
  .of_fields (fun _ => rfl) (fun _ => rfl) (fun _ => rfl) fun _ => by simp

instance : Lawful Toleration :=
  .of_fields (fun _ => rfl) (fun _ => rfl) (fun _ => rfl) fun _ => by simp

instance : Lawful PodSpec :=
  .of_fields (fun _ => rfl) (fun _ => rfl) (fun _ => rfl) fun _ => by simp

instance : Lawful PodTemplateSpec :=
  .of_fields (fun _ => rfl) (fun _ => rfl) (fun _ => rfl) fun _ => by simp

/-! ### Services -/

instance : Lawful ServicePort :=
  .of_fields (fun _ => rfl) (fun _ => rfl) (fun _ => rfl) fun _ => by simp

instance : Lawful ServiceSpec :=
  .of_fields (fun _ => rfl) (fun _ => rfl) (fun _ => rfl) fun _ => by simp

/-! ### Workloads -/

instance : Lawful ReplicaSetSpec :=
  .of_fields (fun _ => rfl) (fun _ => rfl) (fun _ => rfl) fun _ => by simp

instance : Lawful ReplicationControllerSpec :=
  .of_fields (fun _ => rfl) (fun _ => rfl) (fun _ => rfl) fun _ => by simp

instance : Lawful RollingUpdateDeployment :=
  .of_fields (fun _ => rfl) (fun _ => rfl) (fun _ => rfl) fun _ => by simp

instance : Lawful DeploymentStrategy :=
  .of_fields (fun _ => rfl) (fun _ => rfl) (fun _ => rfl) fun _ => by simp

instance : Lawful DeploymentSpec :=
  .of_fields (fun _ => rfl) (fun _ => rfl) (fun _ => rfl) fun _ => by simp

instance : Lawful StatefulSetSpec :=
  .of_fields (fun _ => rfl) (fun _ => rfl) (fun _ => rfl) fun _ => by simp

instance : Lawful DaemonSetSpec :=
  .of_fields (fun _ => rfl) (fun _ => rfl) (fun _ => rfl) fun _ => by simp

instance : Lawful JobSpec :=
  .of_fields (fun _ => rfl) (fun _ => rfl) (fun _ => rfl) fun _ => by simp

instance : Lawful ImageChangeParams :=
  .of_fields (fun _ => rfl) (fun _ => rfl) (fun _ => rfl) fun _ => by simp

instance : Lawful DeploymentTrigger :=
  .of_fields (fun _ => rfl) (fun _ => rfl) (fun _ => rfl) fun _ => by simp

instance : Lawful DeploymentConfigSpec :=
  .of_fields (fun _ => rfl) (fun _ => rfl) (fun _ => rfl) fun _ => by simp

end Manifests.Coded
