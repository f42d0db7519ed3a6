import Manifests.Config.Image
import Manifests.Config.Policy
import Manifests.Config.Selection

/-!
The build document: the project, its images, the resource policy, the choice of enrichers and the
platform that the manifests are for.
-/
namespace Manifests.Config

inductive Platform where
  | kubernetes
  | openshift
  deriving Repr, DecidableEq, Inhabited

namespace Platform

def name : Platform → String
  | kubernetes => "kubernetes"
  | openshift => "openshift"

/-- The platform of a name in any letter case. -/
def parse (s : String) : Except Error Platform :=
  let word := Text.lower s
  if word = "kubernetes" then .ok kubernetes
  else if word = "openshift" then .ok openshift
  else .error (.config (.platform s))

/-- The platform of exactly this name. -/
def ofName? (s : String) : Option Platform :=
  if s = "kubernetes" then some kubernetes
  else if s = "openshift" then some openshift
  else none

end Platform

instance : Setting Platform where
  read? d := do
    let platform ← Platform.ofName? (← d.choice?)
    return platform
  toJson p := .string p.name

structure Build where
  project : Project
  images : List Image
  resources : Policy
  enricher : Selection
  platform : Platform
  deriving DecidableEq, Inhabited

instance : Setting Build where
  read? d := do
    let f ← d.fields? ["project", "images", "resources", "enricher", "platform_mode"]
    return {
      project := ← field? f "project"
      images := ← field? f "images"
      resources := ← field? f "resources"
      enricher := ← field? f "enricher"
      platform := ← field? f "platform_mode" }
  toJson b := .object [
    ("project", toJson b.project), ("images", toJson b.images), ("resources", toJson b.resources),
    ("enricher", toJson b.enricher), ("platform_mode", toJson b.platform)]

end Manifests.Config
