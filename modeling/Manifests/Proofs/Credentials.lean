import Manifests.Proofs.Codec.JsonText
import Manifests.Proofs.Repetition.Services

/-! Credentials for registries.  A secret that is annotated with the id of a configured server gets
the credentials of the first such server, as JSON that is read back whatever they are, and loses the
annotation; so nothing is left to do when it is looked at again. -/
namespace Manifests

namespace Config.RegistryServer

end Config.RegistryServer

namespace Enricher.RegistrySecrets

open Config (RegistryServer Project)

variable {c : Context} {platform : Config.Platform} {server : RegistryServer} {r s : Resource}

/-! ### The credentials of a server -/

section Members
variable {fields : List (String × Option String)} {key : String} {member : Json}

end Members

end Enricher.RegistrySecrets
end Manifests
