import Manifests.Enricher

/-!
The enricher that labels resources and pod templates with the coordinates of the project, and
selects by them.
-/
namespace Manifests.Enricher.ProjectLabels

def name : String := "forge-project"

def useProjectLabelKey : Key :=
  ⟨"useProjectLabel", some "false", "Label the artifact as 'project' instead of 'app'"⟩

def provider : String := "kube-forge"

def artifactLabel (c : Context) : String :=
  if c.isOn name useProjectLabelKey then "project" else "app"

/-- The coordinates without the version. -/
def stableLabels (c : Context) : SortedMap String :=
  SortedMap.ofList [(artifactLabel c, c.project.artifactId), ("group", c.project.groupId),
    ("provider", provider)]

def labels (c : Context) : SortedMap String :=
  match c.project.version with
  | some version => (stableLabels c).insert "version" version
  | none => stableLabels c

/-- Kinds that select across versions leave the version out. -/
def selector (c : Context) (kind : Kind) : SortedMap String :=
  if kind.selectsAnyVersion then stableLabels c else labels c

def label (labels : SortedMap String) (m : ObjectMeta) : ObjectMeta :=
  { m with labels := fillEntries m.labels labels }

def labelResource (labels : SortedMap String) (r : Resource) : Resource :=
  { r with metadata := label labels r.metadata }.modifyTemplate fun t =>
    { t with metadata := some (label labels (t.metadata.getD default)) }

def enricher (c : Context) : Enricher :=
  { idle name with
    selector := selector c
    adapt := fun _ resources => return resources.map (labelResource (labels c))
    keys := [useProjectLabelKey] }

end Manifests.Enricher.ProjectLabels
