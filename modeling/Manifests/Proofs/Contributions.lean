import Manifests.Enricher.Standard
import Manifests.Proofs.Labels

/-! What the standard enrichers contribute to the metadata of resources: selectors that are labels
of the project, and nothing else. -/
namespace Manifests

namespace Enricher.ProjectLabels

variable {c : Context} {k v : String}

lemma get?_stableLabels_version : (stableLabels c).get? "version" = none := by
  have hartifact : artifactLabel c ≠ "version" := by
    unfold artifactLabel
    split <;> decide
  simp [stableLabels, SortedMap.ofList, hartifact]

lemma get?_labels_of_stableLabels (h : (stableLabels c).get? k = some v) :
    (labels c).get? k = some v := by
  unfold labels
  split
  · rw [SortedMap.get?_insert, if_neg, h]
    rintro rfl
    rw [get?_stableLabels_version] at h
    cases h
  · exact h

/-- A kind that selects across versions selects by fewer labels, but not by others. -/
lemma get?_labels_of_selector {kind : Kind} (h : (selector c kind).get? k = some v) :
    (labels c).get? k = some v := by
  unfold selector at h
  split at h
  · exact get?_labels_of_stableLabels h
  · exact h

end Enricher.ProjectLabels

namespace StandardEnricher

variable {c : Enricher.Context} {steps : List StandardEnricher} {kind : Kind}

@[simp] lemma labels_enricher (e : StandardEnricher) : (e.enricher c).labels kind = ∅ := by
  cases e <;> rfl

@[simp] lemma annotations_enricher (e : StandardEnricher) :
    (e.enricher c).annotations kind = ∅ := by
  cases e <;> rfl

lemma selector_enricher {e : StandardEnricher} (he : e ≠ projectLabels) :
    (e.enricher c).selector kind = ∅ := by
  cases e with
  | projectLabels => exact absurd rfl he
  | _ => rfl

lemma fill_collect {contribution : Enricher → SortedMap String}
    (h : ∀ e : StandardEnricher, contribution (e.enricher c) = ∅) (entries : SortedMap String) :
    entries.fill (Labelling.collect (steps.map (enricher c)) contribution) = entries := by
  have hcollect : Labelling.collect (steps.map (enricher c)) contribution = ∅ := by
    apply Labelling.collect_eq_empty
    intro e he
    obtain ⟨step, _, rfl⟩ := List.mem_map.mp he
    exact h step
  rw [hcollect]
  apply SortedMap.ext_get?
  intro k
  rw [SortedMap.get?_fill, SortedMap.get?_empty, Option.or_none]

/-- Only the policy labels resources. -/
lemma labels_eq_forKind (policy : Config.Policy) :
    Labelling.labels policy (steps.map (enricher c)) kind = policy.labels.forKind kind :=
  fill_collect labels_enricher _

/-- Only the policy annotates resources. -/
lemma annotations_eq_forKind (policy : Config.Policy) :
    Labelling.annotations policy (steps.map (enricher c)) kind = policy.annotations.forKind kind :=
  fill_collect annotations_enricher _

/-- Only project labels are selected by. -/
lemma get?_selector_of_collect {k v : String}
    (h : (Labelling.collect (steps.map (enricher c)) (·.selector kind)).get? k = some v) :
    (Enricher.ProjectLabels.selector c kind).get? k = some v := by
  rw [Labelling.get?_collect] at h
  obtain ⟨_, he, h⟩ := List.exists_of_findSome?_eq_some h
  obtain ⟨step, _, rfl⟩ := List.mem_map.mp he
  by_cases hstep : step = projectLabels
  · subst hstep
    exact h
  · rw [selector_enricher hstep] at h
    cases h

end StandardEnricher

end Manifests
