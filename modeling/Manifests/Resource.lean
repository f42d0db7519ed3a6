import Manifests.Error
import Manifests.Object.Service
import Manifests.Object.Workload
import Manifests.Text.Blank

/-!
A manifest: metadata and the content of one of eleven kinds.  The controllers and the pod template
share one view of the template that their pods are made from.
-/
namespace Manifests

structure SecretContent where
  data : Option (SortedMap Bytes)
  immutable : Option Bool
  stringData : Option (SortedMap String)
  type : Option String
  deriving DecidableEq, Inhabited

structure ConfigMapContent where
  binaryData : Option (SortedMap Bytes)
  data : Option (SortedMap String)
  immutable : Option Bool
  deriving DecidableEq, Inhabited

/-- The part of a manifest that depends on its kind.  A deployment config also names the version
of its API. -/
inductive Content where
  | service (spec : Option ServiceSpec)
  | replicaSet (spec : Option ReplicaSetSpec)
  | replicationController (spec : Option ReplicationControllerSpec)
  | deployment (spec : Option DeploymentSpec)
  | deploymentConfig (apiVersion : String) (spec : Option DeploymentConfigSpec)
  | statefulSet (spec : Option StatefulSetSpec)
  | daemonSet (spec : Option DaemonSetSpec)
  | job (spec : Option JobSpec)
  | secret (content : SecretContent)
  | configMap (content : ConfigMapContent)
  | podTemplate (template : Option PodTemplateSpec)
  deriving DecidableEq, Inhabited

structure Resource where
  metadata : ObjectMeta
  content : Content
  deriving DecidableEq, Inhabited

namespace Content

def kind : Content → Kind
  | service _ => .service
  | replicaSet _ => .replicaSet
  | replicationController _ => .replicationController
  | deployment _ => .deployment
  | deploymentConfig _ _ => .deploymentConfig
  | statefulSet _ => .statefulSet
  | daemonSet _ => .daemonSet
  | job _ => .job
  | secret _ => .secret
  | configMap _ => .configMap
  | podTemplate _ => .podTemplate

/-- The template that pods are made from, as far as it is given. -/
def template? : Content → Option PodTemplateSpec
  | replicaSet spec => spec.bind (·.template)
  | replicationController spec => spec.bind (·.template)
  | deployment spec => spec.map (·.template)
  | deploymentConfig _ spec => spec.bind (·.template)
  | statefulSet spec => spec.map (·.template)
  | daemonSet spec => spec.map (·.template)
  | job spec => spec.map (·.template)
  | podTemplate template => template
  | service _ | secret _ | configMap _ => none

/-- The content with a template that is given changed. -/
def modifyTemplate (f : PodTemplateSpec → PodTemplateSpec) : Content → Content
  | replicaSet spec => replicaSet (spec.map fun s => { s with template := s.template.map f })
  | replicationController spec =>
    replicationController (spec.map fun s => { s with template := s.template.map f })
  | deployment spec => deployment (spec.map fun s => { s with template := f s.template })
  | deploymentConfig version spec =>
    deploymentConfig version (spec.map fun s => { s with template := s.template.map f })
  | statefulSet spec => statefulSet (spec.map fun s => { s with template := f s.template })
  | daemonSet spec => daemonSet (spec.map fun s => { s with template := f s.template })
  | job spec => job (spec.map fun s => { s with template := f s.template })
  | podTemplate template => podTemplate (template.map f)
  | other => other

/-- Replaces an absent specification by an empty one, and in it an absent template. -/
def ensureTemplate : Content → Content
  | replicaSet spec =>
    let s := spec.getD default
    replicaSet (some { s with template := some (s.template.getD default) })
  | replicationController spec =>
    let s := spec.getD default
    replicationController (some { s with template := some (s.template.getD default) })
  | deployment spec => deployment (some (spec.getD default))
  | deploymentConfig version spec =>
    let s := spec.getD default
    deploymentConfig version (some { s with template := some (s.template.getD default) })
  | statefulSet spec => statefulSet (some (spec.getD default))
  | daemonSet spec => daemonSet (some (spec.getD default))
  | job spec => job (some (spec.getD default))
  | podTemplate template => podTemplate (some (template.getD default))
  | other => other

def replicas? : Content → Option Int32
  | replicaSet spec => spec.bind (·.replicas)
  | replicationController spec => spec.bind (·.replicas)
  | deployment spec => spec.bind (·.replicas)
  | deploymentConfig _ spec => spec.bind (·.replicas)
  | statefulSet spec => spec.bind (·.replicas)
  | _ => none

/-- The empty content of a kind. -/
def ofKind : Kind → Content
  | .service => service none
  | .replicaSet => replicaSet none
  | .replicationController => replicationController none
  | .deployment => deployment none
  | .deploymentConfig => deploymentConfig Kind.deploymentConfig.apiVersion none
  | .statefulSet => statefulSet none
  | .daemonSet => daemonSet none
  | .job => job none
  | .secret => secret default
  | .configMap => configMap default
  | .podTemplate => podTemplate none

@[simp] theorem kind_modifyTemplate (f : PodTemplateSpec → PodTemplateSpec) (c : Content) :
    (c.modifyTemplate f).kind = c.kind := by
  cases c <;> rfl

@[simp] theorem kind_ensureTemplate (c : Content) : c.ensureTemplate.kind = c.kind := by
  cases c <;> rfl

theorem template?_modifyTemplate (f : PodTemplateSpec → PodTemplateSpec) (c : Content) :
    (c.modifyTemplate f).template? = c.template?.map f := by
  cases c <;> rename_i spec <;> simp [modifyTemplate, template?] <;> cases spec <;> rfl

end Content

/-- A template with a pod specification in it, an empty one if there was none. -/
def PodTemplateSpec.ensureSpec (t : PodTemplateSpec) : PodTemplateSpec :=
  { t with spec := some (t.spec.getD default) }

namespace Resource

def kind (r : Resource) : Kind := r.content.kind

/-- The name of the resource, unless it is blank. -/
def name? (r : Resource) : Option String := r.metadata.name.filter fun n => !Text.isBlank n

def template? (r : Resource) : Option PodTemplateSpec := r.content.template?

def podSpec? (r : Resource) : Option PodSpec := r.template?.bind (·.spec)

def replicas? (r : Resource) : Option Int32 := r.content.replicas?

def modifyTemplate (f : PodTemplateSpec → PodTemplateSpec) (r : Resource) : Resource :=
  { r with content := r.content.modifyTemplate f }

/-- Changes the pod specification, where there is one. -/
def modifyPodSpec (f : PodSpec → PodSpec) (r : Resource) : Resource :=
  r.modifyTemplate fun t => { t with spec := t.spec.map f }

/-- The resource with a pod template and a pod specification in it, if its kind has any. -/
def ensureTemplate (r : Resource) : Resource :=
  { r with content := r.content.ensureTemplate.modifyTemplate PodTemplateSpec.ensureSpec }

def rename (r : Resource) (name : Option String) : Resource :=
  { r with metadata := { r.metadata with name } }

end Resource
end Manifests
