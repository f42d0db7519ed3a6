import Manifests.Enricher

/-!
The metadata that a policy and enrichers give to resources.  Nothing that is present is replaced,
the policy comes before the enrichers, and among enrichers the first one wins.
-/
namespace Manifests.Labelling

/-- What enrichers contribute, the first of them deciding. -/
def collect (enrichers : List Enricher) (contribution : Enricher → SortedMap String) :
    SortedMap String :=
  enrichers.foldl (fun found e => found.fill (contribution e)) ∅

/-- Adds entries; where there are none, an absent map stays absent. -/
def addEntries (base : Option (SortedMap String)) (more : SortedMap String) :
    Option (SortedMap String) :=
  if more.isEmpty then base else fillEntries base more

def labels (policy : Config.Policy) (enrichers : List Enricher) (kind : Kind) : SortedMap String :=
  (policy.labels.forKind kind).fill (collect enrichers (·.labels kind))

def annotations (policy : Config.Policy) (enrichers : List Enricher) (kind : Kind) :
    SortedMap String :=
  (policy.annotations.forKind kind).fill (collect enrichers (·.annotations kind))

def labelMeta (policy : Config.Policy) (enrichers : List Enricher) (kind : Kind) (m : ObjectMeta) :
    ObjectMeta :=
  { m with
    labels := addEntries m.labels (labels policy enrichers kind)
    annotations := addEntries m.annotations (annotations policy enrichers kind) }

def labelTemplate (policy : Config.Policy) (enrichers : List Enricher) (t : PodTemplateSpec) :
    PodTemplateSpec :=
  { t with metadata := some (labelMeta policy enrichers .podTemplate (t.metadata.getD default)) }

def fillSelector (more : SortedMap String) (s : LabelSelector) : LabelSelector :=
  { s with matchLabels := fillEntries s.matchLabels more }

/-- Adds entries to the selector of a resource.  A service always gets them, a controller if it
has a specification, and a job only if it selects already. -/
def addSelector (more : SortedMap String) : Content → Content
  | .service spec =>
    let s := spec.getD default
    .service (some { s with selector := fillEntries s.selector more })
  | .replicationController spec =>
    .replicationController (spec.map fun s => { s with selector := fillEntries s.selector more })
  | .deploymentConfig version spec =>
    .deploymentConfig version
      (spec.map fun s => { s with selector := fillEntries s.selector more })
  | .deployment spec =>
    .deployment (spec.map fun s => { s with selector := fillSelector more s.selector })
  | .replicaSet spec =>
    .replicaSet (spec.map fun s => { s with selector := fillSelector more s.selector })
  | .statefulSet spec =>
    .statefulSet (spec.map fun s => { s with selector := fillSelector more s.selector })
  | .daemonSet spec =>
    .daemonSet (spec.map fun s => { s with selector := fillSelector more s.selector })
  | .job spec => .job (spec.map fun s => { s with selector := s.selector.map (fillSelector more) })
  | other => other

/-- The resource with the metadata for its kind, for its template and for its selector. -/
def labelResource (policy : Config.Policy) (enrichers : List Enricher) (r : Resource) : Resource :=
  let content := r.content.modifyTemplate (labelTemplate policy enrichers)
  let selector := collect enrichers (·.selector r.kind)
  { metadata := labelMeta policy enrichers r.kind r.metadata
    content := if selector.isEmpty then content else addSelector selector content }

/-- Labels every resource with what the selected enrichers contribute. -/
def labelAll (policy : Config.Policy) (selection : Config.Selection) (enrichers : List Enricher)
    (resources : Collection) : Except Error Collection := do
  let active ← selection.prepare "enricher" (·.name) enrichers
  return resources.map (labelResource policy active)

@[simp] theorem kind_addSelector (more : SortedMap String) (c : Content) :
    (addSelector more c).kind = c.kind := by
  cases c <;> rfl

end Manifests.Labelling
