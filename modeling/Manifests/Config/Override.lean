import Manifests.Config.Build
import Manifests.Logged

/-!
Overrides of the build document given as `key=value` texts.  A few keys address a setting each;
every other key becomes a property of the project.
-/
namespace Manifests.Config.Override

/-- The trimmed key and value of a text; without `=` or with a blank key there is none. -/
def entry? (pair : String) : Option (String × String) := do
  let (key, value) ← Text.cutFirst? '=' pair.toList
  let key ← Text.nonBlank? (String.ofList key)
  return (key, Text.trim (String.ofList value))

/-- The overrides of several texts; of texts with one key the last counts. -/
def parse (pairs : List String) : SortedMap String := SortedMap.ofList (pairs.filterMap entry?)

def apply (b : Build) (key value : String) : Logged Build :=
  match key with
  | "project.version" => pure { b with project := { b.project with version := some value } }
  | "resources.controller-name" =>
    pure { b with resources := { b.resources with controllerName := some value } }
  | "resources.image-pull-policy" =>
    pure { b with resources := { b.resources with imagePullPolicy := some value } }
  | "resources.replicas" =>
    match Text.int32? value.toList with
    | some replicas => pure { b with resources := { b.resources with replicas := some replicas } }
    | none => do
      Logged.warn ("Ignoring non-numeric replicas override: " ++ value)
      return b
  | "resources.service-account" =>
    pure { b with resources := { b.resources with serviceAccount := some value } }
  | "platform.mode" =>
    match Platform.parse value with
    | .ok platform => pure { b with platform }
    | .error e => do
      Logged.warn e.message
      return b
  | key =>
    let properties := b.project.properties.insert key value
    pure { b with project := { b.project with properties } }

/-- Applies overrides in the given order. -/
def applyAll (b : Build) (overrides : List (String × String)) : Logged Build :=
  overrides.foldlM (fun b (key, value) => apply b key value) b

end Manifests.Config.Override
