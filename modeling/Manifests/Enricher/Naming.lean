import Manifests.Enricher

/-!
The enricher that names the resources without a name.
-/
namespace Manifests.Enricher.Naming

def name : String := "forge-name"

def nameKey : Key := ⟨"name", none, "Name given to resources without one"⟩

def nameResource (name : String) (r : Resource) : Resource :=
  if r.name?.isNone then r.rename (some name) else r

def enricher (c : Context) : Enricher :=
  { idle name with
    addMissing := fun _ resources =>
      return resources.map (nameResource (c.resourceName name nameKey))
    keys := [nameKey] }

end Manifests.Enricher.Naming
