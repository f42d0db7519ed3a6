import Manifests.Enrichment
import Manifests.Fragment.Files
import Manifests.Overlay.Resource

/-!
Generation of the resources of a build: base fragments, enrichment, then overrides.
-/
namespace Manifests

/-- A build with its sources: the registered enrichers and the directories of fragments. -/
structure Generation where
  build : Config.Build
  registry : List Enricher.Factory
  resources : Option String
  overrides : Option String

namespace Generation

/-- The generation of a build from nothing but the build, with all standard enrichers. -/
def ofBuild (b : Config.Build) : Generation := ⟨b, StandardEnricher.registry, none, none⟩

def defaultName (g : Generation) : String := g.build.project.defaultResourceName

/-- The fragments of a directory, if one is given. -/
def fragments (g : Generation) (files : FileTree) : Option String → Except Error Collection
  | none => .ok []
  | some directory => Fragment.readAll files directory g.defaultName

def run (g : Generation) (files : FileTree) : Logged Collection := do
  let base ← Logged.ofExcept (g.fragments files g.resources)
  let context := Enricher.Context.ofBuild files g.build
  let enrichment ← Logged.ofExcept (Enrichment.ofContext files g.registry context)
  let enriched ← enrichment.enrich g.build.platform base
  let overrides ← Logged.ofExcept (g.fragments files g.overrides)
  let c ← Logged.ofExcept (Collection.applyOverrides g.defaultName enriched overrides)
  Logged.info ("Generated " ++ toString c.length ++ " resource(s)")
  return c

end Generation
end Manifests
