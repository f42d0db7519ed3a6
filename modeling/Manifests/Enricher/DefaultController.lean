import Manifests.Blueprint.Controller
import Manifests.Enricher
import Manifests.PodDefaults

/-!
The enricher that adds a controller where none is declared, and otherwise fills the gaps in the
declared pod specifications.
-/
namespace Manifests.Enricher.DefaultController

def name : String := "forge-controller"

def nameKey : Key := ⟨"name", none, "Name of the default controller"⟩

def pullPolicyKey : Key :=
  ⟨"pullPolicy", some "IfNotPresent", "Image pull policy used when the resource policy sets none"⟩

def typeKey : Key := ⟨"type", some "deployment", "Kind of controller to add"⟩

/-- With one of these a controller is declared. -/
def declaringKinds : List Kind :=
  [.replicationController, .replicaSet, .deployment, .deploymentConfig]

def defaultName (c : Context) : String := c.resourceName name nameKey

/-- The policy with a controller name and a pull policy in it. -/
def completedPolicy (c : Context) : Config.Policy :=
  { c.policy with
    controllerName := fillText c.policy.controllerName (some (defaultName c))
    imagePullPolicy :=
      if c.policy.pullPolicy?.isSome then c.policy.imagePullPolicy
      else c.text? name pullPolicyKey }

def blueprint (c : Context) : Blueprint := { c.blueprint with policy := completedPolicy c }

/-- The kind of controller that a type stands for on a platform. -/
def kindOf? (platform : Config.Platform) (type : String) : Option Kind :=
  match type with
  | "deployment" => if platform = .openshift then some .deploymentConfig else some .deployment
  | "replicaset" => some .replicaSet
  | "replicationcontroller" => some .replicationController
  | "statefulset" => some .statefulSet
  | "daemonset" => some .daemonSet
  | "job" => some .job
  | _ => none

/-- The kind of the controller to add; the log names a type that is none. -/
def controllerKind? (c : Context) (platform : Config.Platform) : Logged (Option Kind) := do
  let type := Text.lower (Text.trim (c.textOr name typeKey "deployment"))
  let kind := kindOf? platform type
  if kind.isNone then
    Logged.warn ("Unknown controller type '" ++ type ++ "', no controller added")
  return kind

def addController (c : Context) (platform : Config.Platform) (resources : Collection) :
    Logged Collection := do
  match ← controllerKind? c platform with
  | none => return resources
  | some kind => do
    Logged.info ("Adding a default " ++ kind.name)
    return resources ++ (← (blueprint c).controller? kind c.images).toList

/-- A deployment gets a number of replicas and a template even where it has no specification. -/
def ensureDeployment (replicas : Int32) (r : Resource) : Resource :=
  match r.content with
  | .deployment spec =>
    let spec := spec.getD default
    let spec := { spec with replicas := some (spec.replicas.getD replicas) }
    { r with content := .deployment (some spec) }.ensureTemplate
  | _ => r

def complete (c : Context) (spec : PodSpec) (r : Resource) : Resource :=
  let replicas := c.policy.replicas.getD Blueprint.defaultReplicas
  (ensureDeployment replicas r).modifyPodSpec fun s => s.fill spec (defaultName c)

def completeAll (c : Context) (resources : Collection) : Logged Collection := do
  let template ← (blueprint c).podTemplate c.images
  return resources.map (complete c (template.spec.getD default))

def enricher (c : Context) : Enricher :=
  { idle name with
    addMissing := fun platform resources =>
      if resources.hasKind declaringKinds then completeAll c resources
      else addController c platform resources
    keys := [nameKey, pullPolicyKey, typeKey] }

end Manifests.Enricher.DefaultController
