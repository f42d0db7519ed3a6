import Manifests.Enricher.DefaultController
import Manifests.Enricher.DefaultService
import Manifests.Enricher.HealthChecks
import Manifests.Enricher.ImageTriggers
import Manifests.Enricher.Images
import Manifests.Enricher.Naming
import Manifests.Enricher.PodAnnotations
import Manifests.Enricher.ProjectLabels
import Manifests.Enricher.RegistrySecrets
import Manifests.Enricher.VolumePermissions

/-!
The ten standard enrichers.
-/
namespace Manifests

inductive StandardEnricher where
  | naming
  | defaultController
  | defaultService
  | images
  | healthChecks
  | projectLabels
  | podAnnotations
  | volumePermissions
  | imageTriggers
  | registrySecrets
  deriving Repr, DecidableEq

namespace StandardEnricher

/-- The standard enrichers in their usual order. -/
def all : List StandardEnricher :=
  [naming, defaultController, defaultService, images, healthChecks, projectLabels, podAnnotations,
    volumePermissions, imageTriggers, registrySecrets]

def name : StandardEnricher → String
  | naming => Enricher.Naming.name
  | defaultController => Enricher.DefaultController.name
  | defaultService => Enricher.DefaultService.name
  | images => Enricher.Images.name
  | healthChecks => Enricher.HealthChecks.name
  | projectLabels => Enricher.ProjectLabels.name
  | podAnnotations => Enricher.PodAnnotations.name
  | volumePermissions => Enricher.VolumePermissions.name
  | imageTriggers => Enricher.ImageTriggers.name
  | registrySecrets => Enricher.RegistrySecrets.name

def ofName? (s : String) : Option StandardEnricher := all.find? (·.name == s)

def enricher (c : Enricher.Context) : StandardEnricher → Enricher
  | naming => Enricher.Naming.enricher c
  | defaultController => Enricher.DefaultController.enricher c
  | defaultService => Enricher.DefaultService.enricher c
  | images => Enricher.Images.enricher c
  | healthChecks => Enricher.HealthChecks.enricher c
  | projectLabels => Enricher.ProjectLabels.enricher c
  | podAnnotations => Enricher.PodAnnotations.enricher
  | volumePermissions => Enricher.VolumePermissions.enricher c
  | imageTriggers => Enricher.ImageTriggers.enricher c
  | registrySecrets => Enricher.RegistrySecrets.enricher c

theorem mem_all (e : StandardEnricher) : e ∈ all := by cases e <;> decide

theorem ofName?_name (e : StandardEnricher) : ofName? e.name = some e := by cases e <;> decide

@[simp] theorem name_enricher (c : Enricher.Context) (e : StandardEnricher) :
    (e.enricher c).name = e.name := by
  cases e <;> rfl

def factory (e : StandardEnricher) : Enricher.Factory :=
  ⟨e.name, fun c => e.enricher c, fun c => name_enricher c e⟩

/-- Factories of all standard enrichers. -/
def registry : List Enricher.Factory := all.map factory

end StandardEnricher
end Manifests
