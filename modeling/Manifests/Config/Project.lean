import Manifests.Config.Document
import Manifests.Text.LetterCase

/-!
The project that is built: its coordinates, properties, dependencies and registry credentials.
-/
namespace Manifests.Config

structure Dependency where
  groupId : String
  artifactId : String
  version : Option String
  scope : Option String
  deriving DecidableEq, Inhabited

/-- Credentials for a registry, which pull secrets name by id. -/
structure RegistryServer where
  id : String
  username : Option String
  password : Option String
  email : Option String
  deriving DecidableEq, Inhabited

structure Project where
  groupId : String
  artifactId : String
  version : Option String
  properties : SortedMap String
  dependencies : List Dependency
  servers : List RegistryServer
  deriving DecidableEq, Inhabited

instance : Setting Dependency where
  read? d := do
    let f ← d.fields? ["group_id", "artifact_id", "version", "scope"]
    return {
      groupId := ← field? f "group_id"
      artifactId := ← field? f "artifact_id"
      version := ← field? f "version"
      scope := ← field? f "scope" }
  toJson d := .object [
    ("group_id", toJson d.groupId), ("artifact_id", toJson d.artifactId),
    ("version", toJson d.version), ("scope", toJson d.scope)]

instance : Setting RegistryServer where
  read? d := do
    let f ← d.fields? ["id", "username", "password", "email"]
    return {
      id := ← field? f "id"
      username := ← field? f "username"
      password := ← field? f "password"
      email := ← field? f "email" }
  toJson s := .object [
    ("id", toJson s.id), ("username", toJson s.username), ("password", toJson s.password),
    ("email", toJson s.email)]

instance : Setting Project where
  read? d := do
    let f ← d.fields?
      ["group_id", "artifact_id", "version", "properties", "dependencies", "servers"]
    return {
      groupId := ← field? f "group_id"
      artifactId := ← field? f "artifact_id"
      version := ← field? f "version"
      properties := ← field? f "properties"
      dependencies := ← field? f "dependencies"
      servers := ← field? f "servers" }
  toJson p := .object [
    ("group_id", toJson p.groupId), ("artifact_id", toJson p.artifactId),
    ("version", toJson p.version), ("properties", toJson p.properties),
    ("dependencies", toJson p.dependencies), ("servers", toJson p.servers)]

namespace Project

/-- Names of resources have at most this many characters. -/
def maxNameLength : Nat := 63

def property? (p : Project) (key : String) : Option String := p.properties.get? key

/-- The first server of an id. -/
def server? (p : Project) (id : String) : Option RegistryServer := p.servers.find? (·.id == id)

def snapshotSuffix : List Char := "SNAPSHOT".toList

def isSnapshot (p : Project) : Bool :=
  match p.version with
  | some version => snapshotSuffix.isSuffixOf version.toList
  | none => false

/-- The name of resources that get no other: the artifact id, cut off and in lower case. -/
def defaultResourceName (p : Project) : String :=
  Text.lower (String.ofList (p.artifactId.toList.take maxNameLength))

end Project
end Manifests.Config
