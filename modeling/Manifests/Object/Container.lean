import Manifests.Object.Coded

/-!
Containers with their environment, ports, mounts and probes.
-/
namespace Manifests

open Coded

structure ConfigMapKeySelector where
  key : String
  name : String
  optional : Option Bool
  deriving DecidableEq, Inhabited

instance : Coded ConfigMapKeySelector where
  encode x := .object (required "key" x.key ++ required "name" x.name ++
    optional "optional" x.optional)
  decode v := do
    let m ← members? v
    return {
      key := ← required? m "key"
      name := ← required? m "name"
      optional := ← optional? m "optional" }

structure ObjectFieldSelector where
  apiVersion : Option String
  fieldPath : String
  deriving DecidableEq, Inhabited

instance : Coded ObjectFieldSelector where
  encode x := .object (optional "apiVersion" x.apiVersion ++ required "fieldPath" x.fieldPath)
  decode v := do
    let m ← members? v
    return {
      apiVersion := ← optional? m "apiVersion"
      fieldPath := ← required? m "fieldPath" }

structure SecretKeySelector where
  key : String
  name : String
  optional : Option Bool
  deriving DecidableEq, Inhabited

instance : Coded SecretKeySelector where
  encode x := .object (required "key" x.key ++ required "name" x.name ++
    optional "optional" x.optional)
  decode v := do
    let m ← members? v
    return {
      key := ← required? m "key"
      name := ← required? m "name"
      optional := ← optional? m "optional" }

structure EnvVarSource where
  configMapKeyRef : Option ConfigMapKeySelector
  fieldRef : Option ObjectFieldSelector
  secretKeyRef : Option SecretKeySelector
  deriving DecidableEq, Inhabited

instance : Coded EnvVarSource where
  encode x := .object (optional "configMapKeyRef" x.configMapKeyRef ++
    optional "fieldRef" x.fieldRef ++ optional "secretKeyRef" x.secretKeyRef)
  decode v := do
    let m ← members? v
    return {
      configMapKeyRef := ← optional? m "configMapKeyRef"
      fieldRef := ← optional? m "fieldRef"
      secretKeyRef := ← optional? m "secretKeyRef" }

/-- An environment variable with its value or the place that the value is taken from. -/
structure EnvVar where
  name : String
  value : Option String
  valueFrom : Option EnvVarSource
  deriving DecidableEq, Inhabited

instance : Coded EnvVar where
  encode x := .object (required "name" x.name ++ optional "value" x.value ++
    optional "valueFrom" x.valueFrom)
  decode v := do
    let m ← members? v
    return {
      name := ← required? m "name"
      value := ← optional? m "value"
      valueFrom := ← optional? m "valueFrom" }

structure ExecAction where
  command : Option (List String)
  deriving DecidableEq, Inhabited

instance : Coded ExecAction where
  encode x := .object (optional "command" x.command)
  decode v := do
    let m ← members? v
    return {
      command := ← optional? m "command" }

structure HTTPGetAction where
  host : Option String
  path : Option String
  port : IntOrString
  scheme : Option String
  deriving DecidableEq, Inhabited

instance : Coded HTTPGetAction where
  encode x := .object (optional "host" x.host ++ optional "path" x.path ++ required "port" x.port ++
    optional "scheme" x.scheme)
  decode v := do
    let m ← members? v
    return {
      host := ← optional? m "host"
      path := ← optional? m "path"
      port := ← required? m "port"
      scheme := ← optional? m "scheme" }

structure TCPSocketAction where
  host : Option String
  port : IntOrString
  deriving DecidableEq, Inhabited

instance : Coded TCPSocketAction where
  encode x := .object (optional "host" x.host ++ required "port" x.port)
  decode v := do
    let m ← members? v
    return {
      host := ← optional? m "host"
      port := ← required? m "port" }

structure Probe where
  exec : Option ExecAction
  failureThreshold : Option Int32
  httpGet : Option HTTPGetAction
  initialDelaySeconds : Option Int32
  periodSeconds : Option Int32
  successThreshold : Option Int32
  tcpSocket : Option TCPSocketAction
  terminationGracePeriodSeconds : Option Int64
  timeoutSeconds : Option Int32
  deriving DecidableEq, Inhabited

instance : Coded Probe where
  encode x := .object (optional "exec" x.exec ++ optional "failureThreshold" x.failureThreshold ++
    optional "httpGet" x.httpGet ++ optional "initialDelaySeconds" x.initialDelaySeconds ++
    optional "periodSeconds" x.periodSeconds ++ optional "successThreshold" x.successThreshold ++
    optional "tcpSocket" x.tcpSocket ++
    optional "terminationGracePeriodSeconds" x.terminationGracePeriodSeconds ++
    optional "timeoutSeconds" x.timeoutSeconds)
  decode v := do
    let m ← members? v
    return {
      exec := ← optional? m "exec"
      failureThreshold := ← optional? m "failureThreshold"
      httpGet := ← optional? m "httpGet"
      initialDelaySeconds := ← optional? m "initialDelaySeconds"
      periodSeconds := ← optional? m "periodSeconds"
      successThreshold := ← optional? m "successThreshold"
      tcpSocket := ← optional? m "tcpSocket"
      terminationGracePeriodSeconds := ← optional? m "terminationGracePeriodSeconds"
      timeoutSeconds := ← optional? m "timeoutSeconds" }

structure ContainerPort where
  containerPort : Int32
  hostIP : Option String
  hostPort : Option Int32
  name : Option String
  protocol : Option String
  deriving DecidableEq, Inhabited

instance : Coded ContainerPort where
  encode x := .object (required "containerPort" x.containerPort ++ optional "hostIP" x.hostIP ++
    optional "hostPort" x.hostPort ++ optional "name" x.name ++ optional "protocol" x.protocol)
  decode v := do
    let m ← members? v
    return {
      containerPort := ← required? m "containerPort"
      hostIP := ← optional? m "hostIP"
      hostPort := ← optional? m "hostPort"
      name := ← optional? m "name"
      protocol := ← optional? m "protocol" }

structure ResourceRequirements where
  limits : Option (SortedMap String)
  requests : Option (SortedMap String)
  deriving DecidableEq, Inhabited

instance : Coded ResourceRequirements where
  encode x := .object (optional "limits" x.limits ++ optional "requests" x.requests)
  decode v := do
    let m ← members? v
    return {
      limits := ← optional? m "limits"
      requests := ← optional? m "requests" }

structure SecurityContext where
  allowPrivilegeEscalation : Option Bool
  privileged : Option Bool
  procMount : Option String
  readOnlyRootFilesystem : Option Bool
  runAsGroup : Option Int64
  runAsNonRoot : Option Bool
  runAsUser : Option Int64
  deriving DecidableEq, Inhabited

instance : Coded SecurityContext where
  encode x := .object (optional "allowPrivilegeEscalation" x.allowPrivilegeEscalation ++
    optional "privileged" x.privileged ++ optional "procMount" x.procMount ++
    optional "readOnlyRootFilesystem" x.readOnlyRootFilesystem ++
    optional "runAsGroup" x.runAsGroup ++ optional "runAsNonRoot" x.runAsNonRoot ++
    optional "runAsUser" x.runAsUser)
  decode v := do
    let m ← members? v
    return {
      allowPrivilegeEscalation := ← optional? m "allowPrivilegeEscalation"
      privileged := ← optional? m "privileged"
      procMount := ← optional? m "procMount"
      readOnlyRootFilesystem := ← optional? m "readOnlyRootFilesystem"
      runAsGroup := ← optional? m "runAsGroup"
      runAsNonRoot := ← optional? m "runAsNonRoot"
      runAsUser := ← optional? m "runAsUser" }

structure VolumeMount where
  mountPath : String
  mountPropagation : Option String
  name : String
  readOnly : Option Bool
  recursiveReadOnly : Option String
  subPath : Option String
  subPathExpr : Option String
  deriving DecidableEq, Inhabited

instance : Coded VolumeMount where
  encode x := .object (required "mountPath" x.mountPath ++
    optional "mountPropagation" x.mountPropagation ++ required "name" x.name ++
    optional "readOnly" x.readOnly ++ optional "recursiveReadOnly" x.recursiveReadOnly ++
    optional "subPath" x.subPath ++ optional "subPathExpr" x.subPathExpr)
  decode v := do
    let m ← members? v
    return {
      mountPath := ← required? m "mountPath"
      mountPropagation := ← optional? m "mountPropagation"
      name := ← required? m "name"
      readOnly := ← optional? m "readOnly"
      recursiveReadOnly := ← optional? m "recursiveReadOnly"
      subPath := ← optional? m "subPath"
      subPathExpr := ← optional? m "subPathExpr" }

structure Container where
  args : Option (List String)
  command : Option (List String)
  env : Option (List EnvVar)
  image : Option String
  imagePullPolicy : Option String
  livenessProbe : Option Probe
  name : String
  ports : Option (List ContainerPort)
  readinessProbe : Option Probe
  resources : Option ResourceRequirements
  restartPolicy : Option String
  securityContext : Option SecurityContext
  startupProbe : Option Probe
  stdin : Option Bool
  stdinOnce : Option Bool
  terminationMessagePath : Option String
  terminationMessagePolicy : Option String
  tty : Option Bool
  volumeMounts : Option (List VolumeMount)
  workingDir : Option String
  deriving DecidableEq, Inhabited

instance : Coded Container where
  encode x := .object (optional "args" x.args ++ optional "command" x.command ++
    optional "env" x.env ++ optional "image" x.image ++
    optional "imagePullPolicy" x.imagePullPolicy ++ optional "livenessProbe" x.livenessProbe ++
    required "name" x.name ++ optional "ports" x.ports ++
    optional "readinessProbe" x.readinessProbe ++ optional "resources" x.resources ++
    optional "restartPolicy" x.restartPolicy ++ optional "securityContext" x.securityContext ++
    optional "startupProbe" x.startupProbe ++ optional "stdin" x.stdin ++
    optional "stdinOnce" x.stdinOnce ++
    optional "terminationMessagePath" x.terminationMessagePath ++
    optional "terminationMessagePolicy" x.terminationMessagePolicy ++ optional "tty" x.tty ++
    optional "volumeMounts" x.volumeMounts ++ optional "workingDir" x.workingDir)
  decode v := do
    let m ← members? v
    return {
      args := ← optional? m "args"
      command := ← optional? m "command"
      env := ← optional? m "env"
      image := ← optional? m "image"
      imagePullPolicy := ← optional? m "imagePullPolicy"
      livenessProbe := ← optional? m "livenessProbe"
      name := ← required? m "name"
      ports := ← optional? m "ports"
      readinessProbe := ← optional? m "readinessProbe"
      resources := ← optional? m "resources"
      restartPolicy := ← optional? m "restartPolicy"
      securityContext := ← optional? m "securityContext"
      startupProbe := ← optional? m "startupProbe"
      stdin := ← optional? m "stdin"
      stdinOnce := ← optional? m "stdinOnce"
      terminationMessagePath := ← optional? m "terminationMessagePath"
      terminationMessagePolicy := ← optional? m "terminationMessagePolicy"
      tty := ← optional? m "tty"
      volumeMounts := ← optional? m "volumeMounts"
      workingDir := ← optional? m "workingDir" }

end Manifests
