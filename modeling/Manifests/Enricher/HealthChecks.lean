import Manifests.Enricher
import Manifests.Probes

/-!
The enricher that adds the configured probes to the last container of a deployment or replica set.
-/
namespace Manifests.Enricher.HealthChecks

def name : String := "forge-healthcheck"

def portText : IntOrString → String
  | .int n => Text.int32Text n
  | .text s => s

def describe (p : Probe) : String :=
  let request := match p.httpGet with
    | some get => " on port " ++ portText get.port ++ ", path='" ++ get.path.getD "" ++ "'"
    | none => ""
  let delay := match p.initialDelaySeconds with
    | some n => ", with initial delay " ++ Text.int32Text n ++ " seconds"
    | none => ""
  let period := match p.periodSeconds with
    | some n => ", with period " ++ Text.int32Text n ++ " seconds"
    | none => ""
  "probe" ++ request ++ delay ++ period

/-- The probe that a container has, or else the configured one, which is logged by its role. -/
def choose (role : String) (present configured : Option Probe) : Logged (Option Probe) :=
  match present, configured with
  | none, some probe => do
    Logged.info ("Adding " ++ role ++ " " ++ describe probe)
    return some probe
  | present, _ => return present

def addProbes (liveness readiness : Option Probe) (c : Container) : Logged Container := do
  let readinessProbe ← choose "readiness" c.readinessProbe readiness
  let livenessProbe ← choose "liveness" c.livenessProbe liveness
  return { c with readinessProbe, livenessProbe }

def complete (liveness readiness : Option Probe) (r : Resource) : Logged Resource :=
  if r.kind.isDeployOrReplica then
    match r.podSpec?.bind (·.containers.getLast?) with
    | none => return r
    | some container => do
      Logged.info ("Enriching " ++ r.kind.name ++ " with health checks")
      let container ← addProbes liveness readiness container
      return r.modifyPodSpec fun s => { s with containers := s.containers.dropLast ++ [container] }
  else return r

def addMissing (c : Context) (resources : Collection) : Logged Collection := do
  let liveness ← Logged.ofExcept (Config.ProbeDeclaration.buildOptional c.policy.liveness)
  let readiness ← Logged.ofExcept (Config.ProbeDeclaration.buildOptional c.policy.readiness)
  if liveness.isNone && readiness.isNone then return resources
  resources.mapM (complete liveness readiness)

def enricher (c : Context) : Enricher :=
  { idle name with addMissing := fun _ resources => addMissing c resources }

end Manifests.Enricher.HealthChecks
