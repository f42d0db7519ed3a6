import Manifests.Enricher
import Manifests.Json.Writer

/-!
The enricher that fills secrets with the credentials of the registry server that they name.
-/
namespace Manifests.Enricher.RegistrySecrets

def name : String := "forge-docker-registry-secret"

/-- The annotation that names the server of a secret. -/
def serverIdKey : String := "forge.io/docker-server-id"

def dataKey : String := ".dockercfg"

def secretType : String := "kubernetes.io/dockercfg"

/-- The credentials of a server under its id. -/
def credentials (s : Config.RegistryServer) : Json :=
  let fields := [("email", s.email), ("password", s.password), ("username", s.username)]
  let given := fields.filterMap fun (key, value) => value.map fun v => (key, Json.string v)
  .object [(s.id, .object given)]

def credentialBytes (s : Config.RegistryServer) : Bytes :=
  ⟨(credentials s).compactText.toUTF8.toList⟩

/-- The secret with the credentials of a server and without the annotation that named it. -/
def fill (s : Config.RegistryServer) (r : Resource) (secret : SecretContent) : Resource where
  metadata := { r.metadata with
    annotations := r.metadata.annotations.map (·.erase serverIdKey) }
  content := .secret { secret with
    data := some ((secret.data.getD ∅).insert dataKey (credentialBytes s))
    type := some (secret.type.getD secretType) }

def complete (c : Context) (r : Resource) : Logged Resource :=
  match r.content, r.metadata.annotations.bind (·.get? serverIdKey) with
  | .secret secret, some id =>
    match c.project.server? id with
    | some server => return fill server r secret
    | none => do
      Logged.warn ("No registry server '" ++ id ++ "' configured for secret " ++
        r.metadata.name.getD "")
      return r
  | _, _ => return r

def enricher (c : Context) : Enricher :=
  { idle name with addMissing := fun _ resources => resources.mapM (complete c) }

end Manifests.Enricher.RegistrySecrets
