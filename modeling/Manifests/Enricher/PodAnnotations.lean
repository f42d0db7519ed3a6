import Manifests.Enricher

/-!
The enricher that copies the annotations of a deployment to its pod template.
-/
namespace Manifests.Enricher.PodAnnotations

def name : String := "forge-pod-annotations"

def annotate (annotations : SortedMap String) (t : PodTemplateSpec) : PodTemplateSpec :=
  let m := t.metadata.getD default
  { t with metadata := some { m with annotations := fillEntries m.annotations annotations } }

def annotateResource (r : Resource) : Resource :=
  match r.content, r.metadata.annotations with
  | .deployment _, some annotations => r.modifyTemplate (annotate annotations)
  | _, _ => r

def enricher : Enricher :=
  { idle name with adapt := fun _ resources => return resources.map annotateResource }

end Manifests.Enricher.PodAnnotations
