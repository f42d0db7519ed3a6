import Manifests.Config.Document
import Manifests.Kind
import Manifests.Text.Blank

/-!
The resource policy: environment, labels, volumes, probes and services that a build declares for
the resources made from it.
-/
namespace Manifests.Config

/-- Labels or annotations by the kind of resource that they are for. -/
structure KindEntries where
  all : SortedMap String
  pod : SortedMap String
  replicaSet : SortedMap String
  service : SortedMap String
  deployment : SortedMap String
  deriving DecidableEq, Inhabited

/-- A volume and where to mount it; which of the other fields count depends on its type. -/
structure VolumeDeclaration where
  name : Option String
  type : Option String
  mounts : List String
  path : Option String
  medium : Option String
  repository : Option String
  revision : Option String
  secretName : Option String
  server : Option String
  readOnly : Option Bool
  pdName : Option String
  fsType : Option String
  partition : Option Int32
  endpoints : Option String
  claimRef : Option String
  deriving DecidableEq, Inhabited

structure ProbeDeclaration where
  getUrl : Option String
  tcpPort : Option String
  exec : Option String
  initialDelaySeconds : Option Int32
  timeoutSeconds : Option Int32
  periodSeconds : Option Int32
  deriving DecidableEq, Inhabited

structure PortDeclaration where
  name : Option String
  protocol : Option String
  port : Int32
  targetPort : Option Int32
  nodePort : Option Int32
  deriving DecidableEq, Inhabited

structure ServiceDeclaration where
  name : Option String
  ports : List PortDeclaration
  headless : Bool
  expose : Bool
  type : Option String
  deriving DecidableEq, Inhabited

structure Policy where
  env : SortedMap String
  envSchema : Option String
  labels : KindEntries
  annotations : KindEntries
  volumes : List VolumeDeclaration
  controllerName : Option String
  imagePullPolicy : Option String
  replicas : Option Int32
  serviceAccount : Option String
  liveness : Option ProbeDeclaration
  readiness : Option ProbeDeclaration
  containerPrivileged : Bool
  services : List ServiceDeclaration
  deriving DecidableEq, Inhabited

instance : Setting KindEntries where
  read? d := do
    let f ← d.fields? ["all", "pod", "replica_set", "service", "deployment"]
    return {
      all := ← field? f "all"
      pod := ← field? f "pod"
      replicaSet := ← field? f "replica_set"
      service := ← field? f "service"
      deployment := ← field? f "deployment" }
  toJson e := .object [
    ("all", toJson e.all), ("pod", toJson e.pod), ("replica_set", toJson e.replicaSet),
    ("service", toJson e.service), ("deployment", toJson e.deployment)]

instance : Setting VolumeDeclaration where
  read? d := do
    let f ← d.fields? ["name", "type", "mounts", "path", "medium", "repository", "revision",
      "secret_name", "server", "read_only", "pd_name", "fs_type", "partition", "endpoints",
      "claim_ref"]
    return {
      name := ← field? f "name"
      type := ← field? f "type"
      mounts := ← field? f "mounts"
      path := ← field? f "path"
      medium := ← field? f "medium"
      repository := ← field? f "repository"
      revision := ← field? f "revision"
      secretName := ← field? f "secret_name"
      server := ← field? f "server"
      readOnly := ← field? f "read_only"
      pdName := ← field? f "pd_name"
      fsType := ← field? f "fs_type"
      partition := ← field? f "partition"
      endpoints := ← field? f "endpoints"
      claimRef := ← field? f "claim_ref" }
  toJson v := .object [
    ("name", toJson v.name), ("type", toJson v.type), ("mounts", toJson v.mounts),
    ("path", toJson v.path), ("medium", toJson v.medium), ("repository", toJson v.repository),
    ("revision", toJson v.revision), ("secret_name", toJson v.secretName),
    ("server", toJson v.server), ("read_only", toJson v.readOnly), ("pd_name", toJson v.pdName),
    ("fs_type", toJson v.fsType), ("partition", toJson v.partition),
    ("endpoints", toJson v.endpoints), ("claim_ref", toJson v.claimRef)]

instance : Setting ProbeDeclaration where
  read? d := do
    let f ← d.fields? ["get_url", "tcp_port", "exec", "initial_delay_seconds", "timeout_seconds",
      "period_seconds"]
    return {
      getUrl := ← field? f "get_url"
      tcpPort := ← field? f "tcp_port"
      exec := ← field? f "exec"
      initialDelaySeconds := ← field? f "initial_delay_seconds"
      timeoutSeconds := ← field? f "timeout_seconds"
      periodSeconds := ← field? f "period_seconds" }
  toJson p := .object [
    ("get_url", toJson p.getUrl), ("tcp_port", toJson p.tcpPort), ("exec", toJson p.exec),
    ("initial_delay_seconds", toJson p.initialDelaySeconds),
    ("timeout_seconds", toJson p.timeoutSeconds), ("period_seconds", toJson p.periodSeconds)]

instance : Setting PortDeclaration where
  read? d := do
    let f ← d.fields? ["name", "protocol", "port", "target_port", "node_port"]
    return {
      name := ← field? f "name"
      protocol := ← field? f "protocol"
      port := ← field? f "port"
      targetPort := ← field? f "target_port"
      nodePort := ← field? f "node_port" }
  toJson p := .object [
    ("name", toJson p.name), ("protocol", toJson p.protocol), ("port", toJson p.port),
    ("target_port", toJson p.targetPort), ("node_port", toJson p.nodePort)]

instance : Setting ServiceDeclaration where
  read? d := do
    let f ← d.fields? ["name", "ports", "headless", "expose", "type"]
    return {
      name := ← field? f "name"
      ports := ← field? f "ports"
      headless := ← field? f "headless"
      expose := ← field? f "expose"
      type := ← field? f "type" }
  toJson s := .object [
    ("name", toJson s.name), ("ports", toJson s.ports), ("headless", toJson s.headless),
    ("expose", toJson s.expose), ("type", toJson s.type)]

instance : Setting Policy where
  read? d := do
    let f ← d.fields? ["env", "env_schema", "labels", "annotations", "volumes", "controller_name",
      "image_pull_policy", "replicas", "service_account", "liveness", "readiness",
      "container_privileged", "services"]
    return {
      env := ← field? f "env"
      envSchema := ← field? f "env_schema"
      labels := ← field? f "labels"
      annotations := ← field? f "annotations"
      volumes := ← field? f "volumes"
      controllerName := ← field? f "controller_name"
      imagePullPolicy := ← field? f "image_pull_policy"
      replicas := ← field? f "replicas"
      serviceAccount := ← field? f "service_account"
      liveness := ← field? f "liveness"
      readiness := ← field? f "readiness"
      containerPrivileged := ← field? f "container_privileged"
      services := ← field? f "services" }
  toJson p := .object [
    ("env", toJson p.env), ("env_schema", toJson p.envSchema), ("labels", toJson p.labels),
    ("annotations", toJson p.annotations), ("volumes", toJson p.volumes),
    ("controller_name", toJson p.controllerName),
    ("image_pull_policy", toJson p.imagePullPolicy), ("replicas", toJson p.replicas),
    ("service_account", toJson p.serviceAccount), ("liveness", toJson p.liveness),
    ("readiness", toJson p.readiness), ("container_privileged", toJson p.containerPrivileged),
    ("services", toJson p.services)]

/-- The entries for a kind; those for all kinds take precedence. -/
def KindEntries.forKind (e : KindEntries) (kind : Kind) : SortedMap String :=
  let special := match kind with
    | .service => e.service
    | .deployment | .deploymentConfig => e.deployment
    | .replicationController | .replicaSet => e.replicaSet
    | .podTemplate => e.pod
    | _ => ∅
  special.union e.all

/-- The name of the volume, unless it is blank. -/
def VolumeDeclaration.name? (v : VolumeDeclaration) : Option String :=
  v.name.filter fun n => !Text.isBlank n

/-- The pull policy of the build, unless it is blank. -/
def Policy.pullPolicy? (p : Policy) : Option String := p.imagePullPolicy.bind Text.nonBlank?

end Manifests.Config
