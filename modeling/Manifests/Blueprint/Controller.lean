import Manifests.Blueprint.PodTemplate
import Manifests.Resource
import Manifests.ResourceName

/-!
Controllers around the pod template of a build, by kind.
-/
namespace Manifests

/-- The restart policy of the pods of a job that names no other. -/
def jobRestartPolicy : String := "OnFailure"

def PodSpec.restartOnFailure (s : PodSpec) : PodSpec :=
  { s with restartPolicy := some (s.restartPolicy.getD jobRestartPolicy) }

/-- The content of a controller of a kind that has a pod template. -/
def Content.controller? (kind : Kind) (name : String) (replicas : Int32)
    (template : PodTemplateSpec) : Option Content :=
  match kind with
  | .replicaSet => some (.replicaSet (some { (default : ReplicaSetSpec) with
      replicas := some replicas, template := some template }))
  | .replicationController => some (.replicationController (some {
      (default : ReplicationControllerSpec) with
      replicas := some replicas, template := some template }))
  | .deployment => some (.deployment (some { (default : DeploymentSpec) with
      replicas := some replicas, template }))
  | .deploymentConfig => some (.deploymentConfig Kind.deploymentConfig.apiVersion (some {
      replicas := some replicas, selector := none, template := some template, triggers := none }))
  | .statefulSet => some (.statefulSet (some { (default : StatefulSetSpec) with
      replicas := some replicas, serviceName := name, template }))
  | .daemonSet => some (.daemonSet (some { (default : DaemonSetSpec) with template }))
  | .job => some (.job (some { (default : JobSpec) with
      template := { template with spec := template.spec.map PodSpec.restartOnFailure } }))
  | .service | .secret | .configMap | .podTemplate => none

namespace Blueprint

def defaultReplicas : Int32 := 1

/-- The controller of a kind, which needs a usable name; other kinds have none. -/
def controller? (b : Blueprint) (kind : Kind) (images : List Config.Image) :
    Logged (Option Resource) :=
  if kind.isController then do
    let name ← Logged.ofExcept (ResourceName.check b.policy.controllerName "controller name")
    let replicas := b.policy.replicas.getD defaultReplicas
    let template ← b.podTemplate images
    return (Content.controller? kind name replicas template).map fun content =>
      { metadata := { (default : ObjectMeta) with name := some name }, content }
  else return none

end Blueprint
end Manifests
