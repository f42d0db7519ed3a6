import Manifests.Collection
import Manifests.Overlay.Pod

/-!
Overrides of whole resources, and of the resources of a collection that they are for.
-/
namespace Manifests

/-- Ports are the same by name if both have one, and by number otherwise. -/
def ServicePort.isSame (p q : ServicePort) : Bool :=
  match q.name, p.name with
  | some a, some b => a == b
  | _, _ => q.port == p.port

def ServiceSpec.overlay (base patch : ServiceSpec) : ServiceSpec :=
  { base with
    type := patch.type <|> base.type
    clusterIP := patch.clusterIP <|> base.clusterIP
    sessionAffinity := patch.sessionAffinity <|> base.sessionAffinity
    selector := Overlay.texts base.selector patch.selector
    ports := KeyedList.merge? (KeyedList.putAll ServicePort.isSame) base.ports patch.ports }

def ReplicaSetSpec.overlay (base patch : ReplicaSetSpec) : ReplicaSetSpec :=
  { base with
    replicas := patch.replicas <|> base.replicas
    selector := base.selector.overlay patch.selector
    template := overlayPart PodTemplateSpec.overlay base.template patch.template }

def ReplicationControllerSpec.overlay (base patch : ReplicationControllerSpec) :
    ReplicationControllerSpec :=
  { base with
    replicas := patch.replicas <|> base.replicas
    selector := Overlay.texts base.selector patch.selector
    template := overlayPart PodTemplateSpec.overlay base.template patch.template }

def DeploymentSpec.overlay (base patch : DeploymentSpec) : DeploymentSpec :=
  { base with
    replicas := patch.replicas <|> base.replicas
    selector := base.selector.overlay patch.selector
    template := base.template.overlay patch.template }

def DeploymentConfigSpec.overlay (base patch : DeploymentConfigSpec) : DeploymentConfigSpec where
  replicas := patch.replicas <|> base.replicas
  selector := Overlay.texts base.selector patch.selector
  template := overlayPart PodTemplateSpec.overlay base.template patch.template
  triggers := patch.triggers <|> base.triggers

def StatefulSetSpec.overlay (base patch : StatefulSetSpec) : StatefulSetSpec :=
  { base with
    replicas := patch.replicas <|> base.replicas
    serviceName := if patch.serviceName = "" then base.serviceName else patch.serviceName
    selector := base.selector.overlay patch.selector
    template := base.template.overlay patch.template }

def DaemonSetSpec.overlay (base patch : DaemonSetSpec) : DaemonSetSpec :=
  { base with
    selector := base.selector.overlay patch.selector
    template := base.template.overlay patch.template }

def JobSpec.overlay (base patch : JobSpec) : JobSpec :=
  { base with
    backoffLimit := patch.backoffLimit <|> base.backoffLimit
    completions := patch.completions <|> base.completions
    parallelism := patch.parallelism <|> base.parallelism
    template := base.template.overlay patch.template }

/-- Empty data removes an entry of a secret as the empty text does. -/
def SecretContent.overlay (base patch : SecretContent) : SecretContent :=
  { base with
    data := Overlay.entries (·.toList.isEmpty) base.data patch.data
    stringData := Overlay.texts base.stringData patch.stringData
    type := patch.type <|> base.type }

def ConfigMapContent.overlay (base patch : ConfigMapContent) : ConfigMapContent :=
  { base with data := Overlay.texts base.data patch.data }

/-- The content under an override of the same kind. -/
def Content.overlay (base patch : Content) : Content :=
  match base, patch with
  | service b, service o => service (overlayPart ServiceSpec.overlay b o)
  | replicaSet b, replicaSet o => replicaSet (overlayPart ReplicaSetSpec.overlay b o)
  | replicationController b, replicationController o =>
    replicationController (overlayPart ReplicationControllerSpec.overlay b o)
  | deployment b, deployment o => deployment (overlayPart DeploymentSpec.overlay b o)
  | deploymentConfig version b, deploymentConfig _ o =>
    deploymentConfig version (overlayPart DeploymentConfigSpec.overlay b o)
  | statefulSet b, statefulSet o => statefulSet (overlayPart StatefulSetSpec.overlay b o)
  | daemonSet b, daemonSet o => daemonSet (overlayPart DaemonSetSpec.overlay b o)
  | job b, job o => job (overlayPart JobSpec.overlay b o)
  | secret b, secret o => secret (b.overlay o)
  | configMap b, configMap o => configMap (b.overlay o)
  | podTemplate b, podTemplate o => podTemplate (overlayPart PodTemplateSpec.overlay b o)
  | base, _ => base

@[simp] theorem Content.kind_overlay (base patch : Content) :
    (base.overlay patch).kind = base.kind := by
  cases base <;> cases patch <;> rfl

/-- The resource under an override, which has to be of its kind. -/
def Resource.overlay (base patch : Resource) : Except Error Resource :=
  if base.kind = patch.kind then
    .ok { metadata := base.metadata.overlay patch.metadata,
          content := base.content.overlay patch.content }
  else .error (.kindMismatch base.kind (base.name?.getD "") patch.kind)

namespace Collection

/-- The name of the resource that an override is for. -/
def targetName (defaultName : String) (patch : Resource) : String := patch.name?.getD defaultName

/-- Lays an override over the resource of its kind and name, or adds it if there is none. -/
def applyOverride (defaultName : String) (resources : Collection) (patch : Resource) :
    Except Error Collection :=
  match resources.position? patch.kind (targetName defaultName patch) with
  | none => .ok (resources ++ [patch])
  | some index =>
    match resources[index]? with
    | none => .ok (resources ++ [patch])
    | some base => (base.overlay patch).map (resources.replace index)

def applyOverrides (defaultName : String) (c : Collection) (overrides : List Resource) :
    Except Error Collection :=
  overrides.foldlM (applyOverride defaultName) c

end Collection
end Manifests
