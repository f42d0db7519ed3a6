import Manifests.Object.Coded

/-!
Metadata, references to other objects, and selectors by label.
-/
namespace Manifests

open Coded

/-- What names and labels an object. -/
structure ObjectMeta where
  annotations : Option (SortedMap String)
  deletionGracePeriodSeconds : Option Int64
  finalizers : Option (List String)
  generateName : Option String
  generation : Option Int64
  labels : Option (SortedMap String)
  name : Option String
  namespaceName : Option String
  resourceVersion : Option String
  selfLink : Option String
  uid : Option String
  deriving DecidableEq, Inhabited

instance : Coded ObjectMeta where
  encode x := .object (optional "annotations" x.annotations ++
    optional "deletionGracePeriodSeconds" x.deletionGracePeriodSeconds ++
    optional "finalizers" x.finalizers ++ optional "generateName" x.generateName ++
    optional "generation" x.generation ++ optional "labels" x.labels ++ optional "name" x.name ++
    optional "namespace" x.namespaceName ++ optional "resourceVersion" x.resourceVersion ++
    optional "selfLink" x.selfLink ++ optional "uid" x.uid)
  decode v := do
    let m ← members? v
    return {
      annotations := ← optional? m "annotations"
      deletionGracePeriodSeconds := ← optional? m "deletionGracePeriodSeconds"
      finalizers := ← optional? m "finalizers"
      generateName := ← optional? m "generateName"
      generation := ← optional? m "generation"
      labels := ← optional? m "labels"
      name := ← optional? m "name"
      namespaceName := ← optional? m "namespace"
      resourceVersion := ← optional? m "resourceVersion"
      selfLink := ← optional? m "selfLink"
      uid := ← optional? m "uid" }

structure ObjectReference where
  apiVersion : Option String
  fieldPath : Option String
  kind : Option String
  name : Option String
  namespaceName : Option String
  resourceVersion : Option String
  uid : Option String
  deriving DecidableEq, Inhabited

instance : Coded ObjectReference where
  encode x := .object (optional "apiVersion" x.apiVersion ++ optional "fieldPath" x.fieldPath ++
    optional "kind" x.kind ++ optional "name" x.name ++ optional "namespace" x.namespaceName ++
    optional "resourceVersion" x.resourceVersion ++ optional "uid" x.uid)
  decode v := do
    let m ← members? v
    return {
      apiVersion := ← optional? m "apiVersion"
      fieldPath := ← optional? m "fieldPath"
      kind := ← optional? m "kind"
      name := ← optional? m "name"
      namespaceName := ← optional? m "namespace"
      resourceVersion := ← optional? m "resourceVersion"
      uid := ← optional? m "uid" }

structure LocalObjectReference where
  name : String
  deriving DecidableEq, Inhabited

instance : Coded LocalObjectReference where
  encode x := .object (required "name" x.name)
  decode v := do
    let m ← members? v
    return {
      name := ← required? m "name" }

structure LabelSelectorRequirement where
  key : String
  operator : String
  values : Option (List String)
  deriving DecidableEq, Inhabited

instance : Coded LabelSelectorRequirement where
  encode x := .object (required "key" x.key ++ required "operator" x.operator ++
    optional "values" x.values)
  decode v := do
    let m ← members? v
    return {
      key := ← required? m "key"
      operator := ← required? m "operator"
      values := ← optional? m "values" }

/-- Objects whose labels hold all the entries and meet all the expressions. -/
structure LabelSelector where
  matchExpressions : Option (List LabelSelectorRequirement)
  matchLabels : Option (SortedMap String)
  deriving DecidableEq, Inhabited

instance : Coded LabelSelector where
  encode x := .object (optional "matchExpressions" x.matchExpressions ++
    optional "matchLabels" x.matchLabels)
  decode v := do
    let m ← members? v
    return {
      matchExpressions := ← optional? m "matchExpressions"
      matchLabels := ← optional? m "matchLabels" }

end Manifests
