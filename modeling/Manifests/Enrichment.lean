import Manifests.EnvironmentSchema
import Manifests.Enrichment.Descriptor
import Manifests.Enrichment.Labelling

/-!
Enrichment of a collection in three phases: adding what is missing, labelling, and adapting.  The
enrichers come from descriptors, and the selection says which of them are active.
-/
namespace Manifests

/-- The context of a build, with the environment defaults of its schema. -/
def Enricher.Context.ofBuild (files : FileTree) (b : Config.Build) : Enricher.Context where
  project := b.project
  images := b.images
  policy := b.resources
  selection := b.enricher
  envDefaults := b.resources.envSchema.map (EnvironmentSchema.load files)

structure Enrichment where
  context : Enricher.Context
  enrichers : List Enricher

namespace Enrichment

/-- The enrichment by the described enrichers, which have to be registered. -/
def ofContext (files : FileTree) (registry : List Enricher.Factory) (c : Enricher.Context) :
    Except Error Enrichment := do
  let sources ← Descriptor.sources files c.selection.descriptors
  let factories ← Descriptor.factories registry (Descriptor.parse sources)
  return ⟨c, factories.map (·.make c)⟩

/-- The enrichers that run, in order. -/
def active (e : Enrichment) : Except Error (List Enricher) :=
  e.context.selection.prepare "enricher" (·.name) e.enrichers

/-- A key of an enricher with the value that it has for the build. -/
structure Setting where
  enricher : String
  key : Enricher.Key
  value : Option String
  deriving Repr, DecidableEq

def settings (e : Enrichment) : List Setting :=
  e.enrichers.flatMap fun enricher => enricher.keys.map fun key =>
    ⟨enricher.name, key, e.context.text? enricher.name key⟩

def addMissing (e : Enrichment) (platform : Config.Platform) (c : Collection) :
    Logged Collection := do
  let active ← Logged.ofExcept e.active
  active.foldlM (fun c enricher => enricher.addMissing platform c) c

def label (e : Enrichment) (c : Collection) : Except Error Collection :=
  Labelling.labelAll e.context.policy e.context.selection e.enrichers c

def adapt (e : Enrichment) (platform : Config.Platform) (c : Collection) : Logged Collection := do
  let active ← Logged.ofExcept e.active
  active.foldlM (fun c enricher => enricher.adapt platform c) c

def enrich (e : Enrichment) (platform : Config.Platform) (c : Collection) : Logged Collection := do
  let c ← e.addMissing platform c
  let c ← Logged.ofExcept (e.label c)
  e.adapt platform c

end Enrichment
end Manifests
