import Manifests.Object.Pod

/-!
What the controllers of pods are asked for, kind by kind.
-/
namespace Manifests

open Coded

structure ReplicaSetSpec where
  minReadySeconds : Option Int32
  replicas : Option Int32
  selector : LabelSelector
  template : Option PodTemplateSpec
  deriving DecidableEq, Inhabited

instance : Coded ReplicaSetSpec where
  encode x := .object (optional "minReadySeconds" x.minReadySeconds ++
    optional "replicas" x.replicas ++ required "selector" x.selector ++
    optional "template" x.template)
  decode v := do
    let m ← members? v
    return {
      minReadySeconds := ← optional? m "minReadySeconds"
      replicas := ← optional? m "replicas"
      selector := ← required? m "selector"
      template := ← optional? m "template" }

structure ReplicationControllerSpec where
  minReadySeconds : Option Int32
  replicas : Option Int32
  selector : Option (SortedMap String)
  template : Option PodTemplateSpec
  deriving DecidableEq, Inhabited

instance : Coded ReplicationControllerSpec where
  encode x := .object (optional "minReadySeconds" x.minReadySeconds ++
    optional "replicas" x.replicas ++ optional "selector" x.selector ++
    optional "template" x.template)
  decode v := do
    let m ← members? v
    return {
      minReadySeconds := ← optional? m "minReadySeconds"
      replicas := ← optional? m "replicas"
      selector := ← optional? m "selector"
      template := ← optional? m "template" }

structure RollingUpdateDeployment where
  maxSurge : Option IntOrString
  maxUnavailable : Option IntOrString
  deriving DecidableEq, Inhabited

instance : Coded RollingUpdateDeployment where
  encode x := .object (optional "maxSurge" x.maxSurge ++ optional "maxUnavailable" x.maxUnavailable)
  decode v := do
    let m ← members? v
    return {
      maxSurge := ← optional? m "maxSurge"
      maxUnavailable := ← optional? m "maxUnavailable" }

structure DeploymentStrategy where
  rollingUpdate : Option RollingUpdateDeployment
  type : Option String
  deriving DecidableEq, Inhabited

instance : Coded DeploymentStrategy where
  encode x := .object (optional "rollingUpdate" x.rollingUpdate ++ optional "type" x.type)
  decode v := do
    let m ← members? v
    return {
      rollingUpdate := ← optional? m "rollingUpdate"
      type := ← optional? m "type" }

structure DeploymentSpec where
  minReadySeconds : Option Int32
  paused : Option Bool
  progressDeadlineSeconds : Option Int32
  replicas : Option Int32
  revisionHistoryLimit : Option Int32
  selector : LabelSelector
  strategy : Option DeploymentStrategy
  template : PodTemplateSpec
  deriving DecidableEq, Inhabited

instance : Coded DeploymentSpec where
  encode x := .object (optional "minReadySeconds" x.minReadySeconds ++ optional "paused" x.paused ++
    optional "progressDeadlineSeconds" x.progressDeadlineSeconds ++
    optional "replicas" x.replicas ++ optional "revisionHistoryLimit" x.revisionHistoryLimit ++
    required "selector" x.selector ++ optional "strategy" x.strategy ++
    required "template" x.template)
  decode v := do
    let m ← members? v
    return {
      minReadySeconds := ← optional? m "minReadySeconds"
      paused := ← optional? m "paused"
      progressDeadlineSeconds := ← optional? m "progressDeadlineSeconds"
      replicas := ← optional? m "replicas"
      revisionHistoryLimit := ← optional? m "revisionHistoryLimit"
      selector := ← required? m "selector"
      strategy := ← optional? m "strategy"
      template := ← required? m "template" }

structure StatefulSetSpec where
  minReadySeconds : Option Int32
  podManagementPolicy : Option String
  replicas : Option Int32
  revisionHistoryLimit : Option Int32
  selector : LabelSelector
  serviceName : String
  template : PodTemplateSpec
  deriving DecidableEq, Inhabited

instance : Coded StatefulSetSpec where
  encode x := .object (optional "minReadySeconds" x.minReadySeconds ++
    optional "podManagementPolicy" x.podManagementPolicy ++ optional "replicas" x.replicas ++
    optional "revisionHistoryLimit" x.revisionHistoryLimit ++ required "selector" x.selector ++
    required "serviceName" x.serviceName ++ required "template" x.template)
  decode v := do
    let m ← members? v
    return {
      minReadySeconds := ← optional? m "minReadySeconds"
      podManagementPolicy := ← optional? m "podManagementPolicy"
      replicas := ← optional? m "replicas"
      revisionHistoryLimit := ← optional? m "revisionHistoryLimit"
      selector := ← required? m "selector"
      serviceName := ← required? m "serviceName"
      template := ← required? m "template" }

structure DaemonSetSpec where
  minReadySeconds : Option Int32
  revisionHistoryLimit : Option Int32
  selector : LabelSelector
  template : PodTemplateSpec
  deriving DecidableEq, Inhabited

instance : Coded DaemonSetSpec where
  encode x := .object (optional "minReadySeconds" x.minReadySeconds ++
    optional "revisionHistoryLimit" x.revisionHistoryLimit ++ required "selector" x.selector ++
    required "template" x.template)
  decode v := do
    let m ← members? v
    return {
      minReadySeconds := ← optional? m "minReadySeconds"
      revisionHistoryLimit := ← optional? m "revisionHistoryLimit"
      selector := ← required? m "selector"
      template := ← required? m "template" }

structure JobSpec where
  activeDeadlineSeconds : Option Int64
  backoffLimit : Option Int32
  backoffLimitPerIndex : Option Int32
  completionMode : Option String
  completions : Option Int32
  managedBy : Option String
  manualSelector : Option Bool
  maxFailedIndexes : Option Int32
  parallelism : Option Int32
  podReplacementPolicy : Option String
  selector : Option LabelSelector
  suspend : Option Bool
  template : PodTemplateSpec
  ttlSecondsAfterFinished : Option Int32
  deriving DecidableEq, Inhabited

instance : Coded JobSpec where
  encode x := .object (optional "activeDeadlineSeconds" x.activeDeadlineSeconds ++
    optional "backoffLimit" x.backoffLimit ++
    optional "backoffLimitPerIndex" x.backoffLimitPerIndex ++
    optional "completionMode" x.completionMode ++ optional "completions" x.completions ++
    optional "managedBy" x.managedBy ++ optional "manualSelector" x.manualSelector ++
    optional "maxFailedIndexes" x.maxFailedIndexes ++ optional "parallelism" x.parallelism ++
    optional "podReplacementPolicy" x.podReplacementPolicy ++ optional "selector" x.selector ++
    optional "suspend" x.suspend ++ required "template" x.template ++
    optional "ttlSecondsAfterFinished" x.ttlSecondsAfterFinished)
  decode v := do
    let m ← members? v
    return {
      activeDeadlineSeconds := ← optional? m "activeDeadlineSeconds"
      backoffLimit := ← optional? m "backoffLimit"
      backoffLimitPerIndex := ← optional? m "backoffLimitPerIndex"
      completionMode := ← optional? m "completionMode"
      completions := ← optional? m "completions"
      managedBy := ← optional? m "managedBy"
      manualSelector := ← optional? m "manualSelector"
      maxFailedIndexes := ← optional? m "maxFailedIndexes"
      parallelism := ← optional? m "parallelism"
      podReplacementPolicy := ← optional? m "podReplacementPolicy"
      selector := ← optional? m "selector"
      suspend := ← optional? m "suspend"
      template := ← required? m "template"
      ttlSecondsAfterFinished := ← optional? m "ttlSecondsAfterFinished" }

/-- Where an image change comes from and which containers take it over. -/
structure ImageChangeParams where
  automatic : Option Bool
  containerNames : List String
  origin : ObjectReference
  deriving DecidableEq, Inhabited

structure DeploymentTrigger where
  type : String
  imageChangeParams : Option ImageChangeParams
  deriving DecidableEq, Inhabited

/-- A deployment on a platform that redeploys when a trigger fires. -/
structure DeploymentConfigSpec where
  replicas : Option Int32
  selector : Option (SortedMap String)
  template : Option PodTemplateSpec
  triggers : Option (List DeploymentTrigger)
  deriving DecidableEq, Inhabited

/-- The members of an object, or the items of an array under the given names. -/
def namedMembers? (names : List String) : Json → Option (List (String × Json))
  | .object members => some members
  | .array items => if items.length ≤ names.length then some (names.zip items) else none
  | _ => none

/-- A field that may be missing but, if it is given, must have a value. -/
def given? {α : Type} [Coded α] [Inhabited α] (members : List (String × Json)) (key : String) :
    Option α :=
  match find? members key with
  | none => some default
  | some value => decode value

instance : Coded ImageChangeParams where
  encode x := .object (optional "automatic" x.automatic ++
    required "containerNames" x.containerNames ++ required "from" x.origin)
  decode v := do
    let m ← namedMembers? ["automatic", "containerNames", "from"] v
    return {
      automatic := ← optional? m "automatic"
      containerNames := ← given? m "containerNames"
      origin := ← given? m "from" }

instance : Coded DeploymentTrigger where
  encode x := .object (optional "imageChangeParams" x.imageChangeParams ++ required "type" x.type)
  decode v := do
    let m ← namedMembers? ["type", "imageChangeParams"] v
    return {
      type := ← (find? m "type").bind decode
      imageChangeParams := ← optional? m "imageChangeParams" }

instance : Coded DeploymentConfigSpec where
  encode x := .object (optional "replicas" x.replicas ++ optional "selector" x.selector ++
    optional "template" x.template ++ optional "triggers" x.triggers)
  decode v := do
    let m ← namedMembers? ["replicas", "selector", "template", "triggers"] v
    return {
      replicas := ← optional? m "replicas"
      selector := ← optional? m "selector"
      template := ← optional? m "template"
      triggers := ← optional? m "triggers" }

end Manifests
