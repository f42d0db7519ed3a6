/-!
The closed set of resource kinds, their manifest names, and the groups that share a rule.
-/
namespace Manifests

/-- Resource kinds.  `podTemplate` also addresses the pod templates nested in controllers. -/
inductive Kind where
  | service
  | replicaSet
  | replicationController
  | deployment
  | deploymentConfig
  | statefulSet
  | daemonSet
  | job
  | secret
  | configMap
  | podTemplate
  deriving Repr, DecidableEq, Inhabited

namespace Kind

def all : List Kind :=
  [service, replicaSet, replicationController, deployment, deploymentConfig, statefulSet,
    daemonSet, job, secret, configMap, podTemplate]

/-- The kind as a manifest names it. -/
def name : Kind → String
  | service => "Service"
  | replicaSet => "ReplicaSet"
  | replicationController => "ReplicationController"
  | deployment => "Deployment"
  | deploymentConfig => "DeploymentConfig"
  | statefulSet => "StatefulSet"
  | daemonSet => "DaemonSet"
  | job => "Job"
  | secret => "Secret"
  | configMap => "ConfigMap"
  | podTemplate => "PodTemplate"

def ofName? (s : String) : Option Kind := all.find? (·.name == s)

/-- The version of the API that serves the kind. -/
def apiVersion : Kind → String
  | deployment | replicaSet | statefulSet | daemonSet => "apps/v1"
  | job => "batch/v1"
  | deploymentConfig => "apps.openshift.io/v1"
  | _ => "v1"

/-- Kinds whose pods are managed as a replicated deployment. -/
def isDeployOrReplica : Kind → Bool
  | replicaSet | replicationController | deployment | deploymentConfig => true
  | _ => false

/-- Kinds whose selector stays the same across versions of a project. -/
def selectsAnyVersion : Kind → Bool
  | service | deployment | deploymentConfig | daemonSet | statefulSet | replicaSet => true
  | _ => false

/-- Kinds that run pods from a template. -/
def isController : Kind → Bool
  | replicaSet | replicationController | deployment | deploymentConfig | statefulSet | daemonSet
  | job => true
  | _ => false

theorem mem_all (k : Kind) : k ∈ all := by cases k <;> decide

theorem ofName?_name (k : Kind) : ofName? k.name = some k := by cases k <;> decide

end Kind
end Manifests
