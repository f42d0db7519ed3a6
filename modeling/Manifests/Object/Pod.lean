import Manifests.Object.Container
import Manifests.Object.Metadata
import Manifests.Object.Volume

/-!
Pods and the templates that controllers make them from.
-/
namespace Manifests

open Coded

structure PodSecurityContext where
  fsGroup : Option Int64
  fsGroupChangePolicy : Option String
  runAsGroup : Option Int64
  runAsNonRoot : Option Bool
  runAsUser : Option Int64
  supplementalGroups : Option (List Int64)
  deriving DecidableEq, Inhabited

instance : Coded PodSecurityContext where
  encode x := .object (optional "fsGroup" x.fsGroup ++
    optional "fsGroupChangePolicy" x.fsGroupChangePolicy ++ optional "runAsGroup" x.runAsGroup ++
    optional "runAsNonRoot" x.runAsNonRoot ++ optional "runAsUser" x.runAsUser ++
    optional "supplementalGroups" x.supplementalGroups)
  decode v := do
    let m ← members? v
    return {
      fsGroup := ← optional? m "fsGroup"
      fsGroupChangePolicy := ← optional? m "fsGroupChangePolicy"
      runAsGroup := ← optional? m "runAsGroup"
      runAsNonRoot := ← optional? m "runAsNonRoot"
      runAsUser := ← optional? m "runAsUser"
      supplementalGroups := ← optional? m "supplementalGroups" }

structure Toleration where
  effect : Option String
  key : Option String
  operator : Option String
  tolerationSeconds : Option Int64
  value : Option String
  deriving DecidableEq, Inhabited

instance : Coded Toleration where
  encode x := .object (optional "effect" x.effect ++ optional "key" x.key ++
    optional "operator" x.operator ++ optional "tolerationSeconds" x.tolerationSeconds ++
    optional "value" x.value)
  decode v := do
    let m ← members? v
    return {
      effect := ← optional? m "effect"
      key := ← optional? m "key"
      operator := ← optional? m "operator"
      tolerationSeconds := ← optional? m "tolerationSeconds"
      value := ← optional? m "value" }

structure PodSpec where
  activeDeadlineSeconds : Option Int64
  automountServiceAccountToken : Option Bool
  containers : List Container
  dnsPolicy : Option String
  enableServiceLinks : Option Bool
  hostIPC : Option Bool
  hostNetwork : Option Bool
  hostPID : Option Bool
  hostUsers : Option Bool
  hostname : Option String
  imagePullSecrets : Option (List LocalObjectReference)
  initContainers : Option (List Container)
  nodeName : Option String
  nodeSelector : Option (SortedMap String)
  overhead : Option (SortedMap String)
  preemptionPolicy : Option String
  priority : Option Int32
  priorityClassName : Option String
  restartPolicy : Option String
  runtimeClassName : Option String
  schedulerName : Option String
  securityContext : Option PodSecurityContext
  serviceAccount : Option String
  serviceAccountName : Option String
  setHostnameAsFQDN : Option Bool
  shareProcessNamespace : Option Bool
  subdomain : Option String
  terminationGracePeriodSeconds : Option Int64
  tolerations : Option (List Toleration)
  volumes : Option (List Volume)
  deriving DecidableEq, Inhabited

instance : Coded PodSpec where
  encode x := .object (optional "activeDeadlineSeconds" x.activeDeadlineSeconds ++
    optional "automountServiceAccountToken" x.automountServiceAccountToken ++
    required "containers" x.containers ++ optional "dnsPolicy" x.dnsPolicy ++
    optional "enableServiceLinks" x.enableServiceLinks ++ optional "hostIPC" x.hostIPC ++
    optional "hostNetwork" x.hostNetwork ++ optional "hostPID" x.hostPID ++
    optional "hostUsers" x.hostUsers ++ optional "hostname" x.hostname ++
    optional "imagePullSecrets" x.imagePullSecrets ++ optional "initContainers" x.initContainers ++
    optional "nodeName" x.nodeName ++ optional "nodeSelector" x.nodeSelector ++
    optional "overhead" x.overhead ++ optional "preemptionPolicy" x.preemptionPolicy ++
    optional "priority" x.priority ++ optional "priorityClassName" x.priorityClassName ++
    optional "restartPolicy" x.restartPolicy ++ optional "runtimeClassName" x.runtimeClassName ++
    optional "schedulerName" x.schedulerName ++ optional "securityContext" x.securityContext ++
    optional "serviceAccount" x.serviceAccount ++
    optional "serviceAccountName" x.serviceAccountName ++
    optional "setHostnameAsFQDN" x.setHostnameAsFQDN ++
    optional "shareProcessNamespace" x.shareProcessNamespace ++ optional "subdomain" x.subdomain ++
    optional "terminationGracePeriodSeconds" x.terminationGracePeriodSeconds ++
    optional "tolerations" x.tolerations ++ optional "volumes" x.volumes)
  decode v := do
    let m ← members? v
    return {
      activeDeadlineSeconds := ← optional? m "activeDeadlineSeconds"
      automountServiceAccountToken := ← optional? m "automountServiceAccountToken"
      containers := ← required? m "containers"
      dnsPolicy := ← optional? m "dnsPolicy"
      enableServiceLinks := ← optional? m "enableServiceLinks"
      hostIPC := ← optional? m "hostIPC"
      hostNetwork := ← optional? m "hostNetwork"
      hostPID := ← optional? m "hostPID"
      hostUsers := ← optional? m "hostUsers"
      hostname := ← optional? m "hostname"
      imagePullSecrets := ← optional? m "imagePullSecrets"
      initContainers := ← optional? m "initContainers"
      nodeName := ← optional? m "nodeName"
      nodeSelector := ← optional? m "nodeSelector"
      overhead := ← optional? m "overhead"
      preemptionPolicy := ← optional? m "preemptionPolicy"
      priority := ← optional? m "priority"
      priorityClassName := ← optional? m "priorityClassName"
      restartPolicy := ← optional? m "restartPolicy"
      runtimeClassName := ← optional? m "runtimeClassName"
      schedulerName := ← optional? m "schedulerName"
      securityContext := ← optional? m "securityContext"
      serviceAccount := ← optional? m "serviceAccount"
      serviceAccountName := ← optional? m "serviceAccountName"
      setHostnameAsFQDN := ← optional? m "setHostnameAsFQDN"
      shareProcessNamespace := ← optional? m "shareProcessNamespace"
      subdomain := ← optional? m "subdomain"
      terminationGracePeriodSeconds := ← optional? m "terminationGracePeriodSeconds"
      tolerations := ← optional? m "tolerations"
      volumes := ← optional? m "volumes" }

structure PodTemplateSpec where
  metadata : Option ObjectMeta
  spec : Option PodSpec
  deriving DecidableEq, Inhabited

instance : Coded PodTemplateSpec where
  encode x := .object (optional "metadata" x.metadata ++ optional "spec" x.spec)
  decode v := do
    let m ← members? v
    return {
      metadata := ← optional? m "metadata"
      spec := ← optional? m "spec" }

end Manifests
