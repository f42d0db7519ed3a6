import Manifests.Proofs.Content
import Manifests.Proofs.Entries

/-! What resources select by, and the labels of the pods that they run.  The view is filled by the
labelling, from the policy and from the enrichers, and by the enricher of project labels; nothing
else that changes a resource shows in it. -/
namespace Manifests

def PodTemplateSpec.labels (t : PodTemplateSpec) : SortedMap String :=
  (t.metadata.bind (·.labels)).getD ∅

namespace Resource

def selector (r : Resource) : SortedMap String := r.content.selector?.getD ∅

/-- The labels of the pods, where there is a template for them. -/
def podLabels? (r : Resource) : Option (SortedMap String) := r.template?.map PodTemplateSpec.labels

/-- Two resources of one kind that select alike and label their pods alike. -/
structure SameLabels (r s : Resource) : Prop where
  kind : s.kind = r.kind
  selector : s.selector = r.selector
  podLabels : s.podLabels? = r.podLabels?

namespace SameLabels

lemma refl (r : Resource) : r.SameLabels r := ⟨rfl, rfl, rfl⟩

lemma trans {r s t : Resource} (h : r.SameLabels s) (h' : s.SameLabels t) : r.SameLabels t :=
  ⟨h'.kind.trans h.kind, h'.selector.trans h.selector, h'.podLabels.trans h.podLabels⟩

lemma of_content_eq {r s : Resource} (h : s.content = r.content) : r.SameLabels s := by
  obtain ⟨m, content⟩ := s
  subst h
  exact ⟨rfl, rfl, rfl⟩

end SameLabels

@[simp] lemma kind_modifyTemplate (f : PodTemplateSpec → PodTemplateSpec) (r : Resource) :
    (r.modifyTemplate f).kind = r.kind := Content.kind_modifyTemplate f r.content

@[simp] lemma selector_modifyTemplate (f : PodTemplateSpec → PodTemplateSpec) (r : Resource) :
    (r.modifyTemplate f).selector = r.selector :=
  congrArg (·.getD ∅) (Content.selector?_modifyTemplate f r.content)

@[simp] lemma template?_modifyTemplate (f : PodTemplateSpec → PodTemplateSpec) (r : Resource) :
    (r.modifyTemplate f).template? = r.template?.map f :=
  Content.template?_modifyTemplate f r.content

lemma podLabels?_modifyTemplate (f : PodTemplateSpec → PodTemplateSpec) (r : Resource) :
    (r.modifyTemplate f).podLabels? = r.template?.map fun t => (f t).labels := by
  simp [podLabels?, Function.comp_def]

lemma sameLabels_modifyTemplate {r : Resource} {f : PodTemplateSpec → PodTemplateSpec}
    (hf : ∀ t, r.template? = some t → (f t).labels = t.labels) :
    r.SameLabels (r.modifyTemplate f) where
  kind := kind_modifyTemplate f r
  selector := selector_modifyTemplate f r
  podLabels := by
    rw [podLabels?_modifyTemplate, podLabels?]
    exact Option.map_congr hf

lemma sameLabels_modifyPodSpec (r : Resource) (f : PodSpec → PodSpec) :
    r.SameLabels (r.modifyPodSpec f) := sameLabels_modifyTemplate fun _ _ => rfl

/-- Where pods have labels, there is a template already. -/
lemma sameLabels_ensureTemplate {r : Resource} (h : r.podLabels?.isSome = true) :
    r.SameLabels r.ensureTemplate := by
  obtain ⟨m, content⟩ := r
  cases content with
  | service | secret | configMap => exact .refl _
  | podTemplate t =>
    cases t with
    | none => cases h
    | some t => exact ⟨rfl, rfl, rfl⟩
  | deployment spec | statefulSet spec | daemonSet spec | job spec =>
    cases spec with
    | none => cases h
    | some s => exact ⟨rfl, rfl, rfl⟩
  | replicaSet spec | replicationController spec | deploymentConfig _ spec =>
    cases spec with
    | none => cases h
    | some s =>
      obtain ⟨t, ht⟩ : ∃ t, s.template = some t := by
        change (s.template.map PodTemplateSpec.labels).isSome = true at h
        rw [Option.isSome_map] at h
        exact Option.isSome_iff_exists.mp h
      refine ⟨rfl, rfl, ?_⟩
      change some (s.template.getD default).ensureSpec.labels =
        s.template.map PodTemplateSpec.labels
      rw [ht]
      rfl

end Resource

namespace Labelling

section Contributions
variable {enrichers : List Enricher} {contribution : Enricher → SortedMap String}

lemma get?_foldl_fill (found : SortedMap String) (k : String) :
    (enrichers.foldl (fun found e => found.fill (contribution e)) found).get? k =
      (found.get? k).or (enrichers.findSome? fun e => (contribution e).get? k) := by
  induction enrichers generalizing found with
  | nil => simp
  | cons e rest ih =>
    rw [List.foldl_cons, ih, SortedMap.get?_fill, List.findSome?_cons, Option.or_assoc]
    cases (contribution e).get? k <;> rfl

/-- The first enricher that contributes under a key decides. -/
lemma get?_collect (k : String) :
    (collect enrichers contribution).get? k =
      enrichers.findSome? fun e => (contribution e).get? k := by
  rw [collect, get?_foldl_fill, SortedMap.get?_empty, Option.none_or]

lemma collect_eq_empty (h : ∀ e ∈ enrichers, contribution e = ∅) :
    collect enrichers contribution = ∅ := by
  apply SortedMap.ext_get?
  intro k
  rw [get?_collect, SortedMap.get?_empty, List.findSome?_eq_none_iff]
  intro e he
  rw [h e he]
  rfl

end Contributions

lemma get?_addEntries (base : Option (SortedMap String)) (more : SortedMap String) (k : String) :
    ((addEntries base more).getD ∅).get? k = ((base.getD ∅).get? k).or (more.get? k) := by
  unfold addEntries
  split
  next h => rw [SortedMap.isEmpty_iff_get?.mp h k, Option.or_none]
  next => exact get?_fillEntries base more k

lemma labels_labelTemplate (policy : Config.Policy) (enrichers : List Enricher)
    (t : PodTemplateSpec) :
    (labelTemplate policy enrichers t).labels =
      t.labels.fill (labels policy enrichers .podTemplate) := by
  apply SortedMap.ext_get?
  intro k
  change ((addEntries (t.metadata.getD default).labels _).getD ∅).get? k = _
  rw [get?_addEntries, SortedMap.get?_fill]
  unfold PodTemplateSpec.labels
  cases t.metadata <;> rfl

lemma selector?_addSelector (more : SortedMap String) (c : Content) :
    (addSelector more c).selector? = c.selector? ∨
      (addSelector more c).selector? = fillEntries c.selector? more := by
  cases c with
  | secret | configMap | podTemplate => exact .inl rfl
  | service spec => cases spec <;> exact .inr rfl
  | job spec =>
    cases spec with
    | none => exact .inl rfl
    | some s =>
      change (s.selector.map (fillSelector more)).bind (·.matchLabels) =
          s.selector.bind (·.matchLabels) ∨
        (s.selector.map (fillSelector more)).bind (·.matchLabels) =
          fillEntries (s.selector.bind (·.matchLabels)) more
      cases s.selector with
      | none => exact .inl rfl
      | some l => exact .inr rfl
  | replicationController spec | deploymentConfig _ spec | replicaSet spec | deployment spec
  | statefulSet spec | daemonSet spec =>
    cases spec with
    | none => exact .inl rfl
    | some s => exact .inr rfl

@[simp] lemma template?_addSelector (more : SortedMap String) (c : Content) :
    (addSelector more c).template? = c.template? := by
  cases c <;> rename_i spec <;> cases spec <;> rfl

variable (policy : Config.Policy) (enrichers : List Enricher) (r : Resource)

@[simp] lemma kind_labelResource : (labelResource policy enrichers r).kind = r.kind := by
  unfold labelResource Resource.kind
  dsimp only
  split <;> simp

@[simp] lemma template?_labelResource :
    (labelResource policy enrichers r).template? =
      r.template?.map (labelTemplate policy enrichers) := by
  unfold labelResource Resource.template?
  dsimp only
  split <;> simp [Content.template?_modifyTemplate]

lemma podLabels?_labelResource :
    (labelResource policy enrichers r).podLabels? =
      r.podLabels?.map (·.fill (labels policy enrichers .podTemplate)) := by
  simp [Resource.podLabels?, labels_labelTemplate, Function.comp_def]

/-- Whatever is selected was selected before, or an enricher contributes it. -/
lemma selector_labelResource {k v : String}
    (h : (labelResource policy enrichers r).selector.get? k = some v) :
    r.selector.get? k = some v ∨ (collect enrichers (·.selector r.kind)).get? k = some v := by
  unfold Resource.selector labelResource at h
  dsimp only at h
  split at h
  · rw [Content.selector?_modifyTemplate] at h
    exact .inl h
  · obtain hsame | hfilled := selector?_addSelector (collect enrichers (·.selector r.kind))
      (r.content.modifyTemplate (labelTemplate policy enrichers))
    · rw [hsame, Content.selector?_modifyTemplate] at h
      exact .inl h
    · rw [hfilled, get?_fillEntries, Content.selector?_modifyTemplate, Option.or_eq_some_iff] at h
      exact h.imp_right And.right

end Labelling
end Manifests
