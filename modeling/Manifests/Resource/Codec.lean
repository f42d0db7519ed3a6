import Manifests.Resource

/-!
Manifests as JSON.  The kind of a manifest says how the rest of it is read, and the version of the
API, if it is given, has to be the one of the kind.
-/
namespace Manifests

open Coded

namespace Content

/-- The members of a manifest beside its kind, version and metadata. -/
def members : Content → List (String × Json)
  | service spec => optional "spec" spec
  | replicaSet spec => optional "spec" spec
  | replicationController spec => optional "spec" spec
  | deployment spec => optional "spec" spec
  | deploymentConfig _ spec => optional "spec" spec
  | statefulSet spec => optional "spec" spec
  | daemonSet spec => optional "spec" spec
  | job spec => optional "spec" spec
  | secret s =>
    optional "data" s.data ++ optional "immutable" s.immutable ++
      optional "stringData" s.stringData ++ optional "type" s.type
  | configMap c =>
    optional "binaryData" c.binaryData ++ optional "data" c.data ++
      optional "immutable" c.immutable
  | podTemplate template => optional "template" template

/-- The version of the API that a manifest is written with. -/
def apiVersion : Content → String
  | deploymentConfig version _ => version
  | content => content.kind.apiVersion

/-- Whether the version, if there is one, is the one of the kind. -/
def versionFits (kind : Kind) (m : List (String × Json)) : Bool :=
  match find? m "apiVersion" with
  | none => true
  | some (.string s) => s == kind.apiVersion
  | some _ => false

/-- The version that a deployment config names, or the usual one. -/
def version? (m : List (String × Json)) : Option String :=
  match find? m "apiVersion" with
  | none => some Kind.deploymentConfig.apiVersion
  | some value => decode value

def ofMembers? (kind : Kind) (m : List (String × Json)) : Option Content :=
  match kind with
  | .service => (optional? m "spec").map service
  | .replicaSet => (optional? m "spec").map replicaSet
  | .replicationController => (optional? m "spec").map replicationController
  | .deployment => (optional? m "spec").map deployment
  | .deploymentConfig => do return deploymentConfig (← version? m) (← optional? m "spec")
  | .statefulSet => (optional? m "spec").map statefulSet
  | .daemonSet => (optional? m "spec").map daemonSet
  | .job => (optional? m "spec").map job
  | .secret => do
    return secret {
      data := ← optional? m "data"
      immutable := ← optional? m "immutable"
      stringData := ← optional? m "stringData"
      type := ← optional? m "type" }
  | .configMap => do
    return configMap {
      binaryData := ← optional? m "binaryData"
      data := ← optional? m "data"
      immutable := ← optional? m "immutable" }
  | .podTemplate => (optional? m "template").map podTemplate

end Content

namespace Resource

def toJson (r : Resource) : Json :=
  .object (required "apiVersion" r.content.apiVersion ++ required "kind" r.kind.name ++
    required "metadata" r.metadata ++ r.content.members)

/-- The resource of a kind from the members of its manifest. -/
def ofMembers? (kind : Kind) (m : List (String × Json)) : Option Resource :=
  match kind with
  | .deploymentConfig => do
    return { metadata := ← given? m "metadata", content := ← Content.ofMembers? kind m }
  | kind =>
    if Content.versionFits kind m then do
      return { metadata := ← required? m "metadata", content := ← Content.ofMembers? kind m }
    else none

/-- Reads a manifest by the kind that it states. -/
def ofJson (value : Json) : Except Error Resource :=
  match value.get? "kind" with
  | some (.string name) =>
    match Kind.ofName? name, value with
    | some kind, .object members =>
      match ofMembers? kind members with
      | some r => .ok r
      | none => .error .json
    | _, _ => .error (.resource (.unknownKind name))
  | _ => .error (.resource .noKind)

end Resource
end Manifests
