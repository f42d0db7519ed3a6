import Manifests.Proofs.Entries
import Manifests.Proofs.Extension.Pods

/-! Each enricher, and the labelling, only extends every resource.  The two exceptions are the
enricher of registry secrets, which takes an annotation away, and trimmed images. -/
namespace Manifests

lemma keepsEntries_fillEntries (base : Option (SortedMap String)) (more : SortedMap String) :
    KeepsEntries base (fillEntries base more) := by
  intro k v h
  rw [get?_fillEntries, h]
  rfl

namespace Content

lemma extends_modifyTemplate {c : Content} {f : PodTemplateSpec → PodTemplateSpec}
    (hf : ∀ t, c.template? = some t → t.Extends (f t)) : c.Extends (c.modifyTemplate f) where
  envelope := envelope_modifyTemplate f c
  bare := by rw [bare?_modifyTemplate]; exact .refl _
  replicas := by rw [replicas?_modifyTemplate]; exact .refl _
  selector := by rw [selector?_modifyTemplate]; exact .refl _
  template := by rw [template?_modifyTemplate]; exact .map hf
  triggers := by rw [triggers_modifyTemplate]; exact .refl _
  servicePorts := by rw [servicePorts_modifyTemplate]; exact .refl _

/-- An absent specification is extended by any that has its envelope. -/
lemma extends_of_absent {c d : Content} (henvelope : d.envelope = c.envelope)
    (hbare : c.bare? = none) (hreplicas : c.replicas? = none) (hselector : c.selector? = none)
    (htemplate : c.template? = none) (htriggers : c.triggers = none)
    (hports : c.servicePorts = none) : c.Extends d where
  envelope := henvelope
  bare := by rw [hbare]; exact .of_none
  replicas := by rw [hreplicas]; exact .of_none
  selector := by
    intro k v h
    rw [hselector] at h
    cases h
  template := by rw [htemplate]; exact .of_none
  triggers := by rw [htriggers]; exact List.nil_prefix
  servicePorts := by
    rw [hports]
    exact ⟨.nil, fun h => absurd rfl h⟩

/-- A change of the template of a given specification, which may lack one. -/
lemma extends_getD_template {t : Option PodTemplateSpec} :
    KeepsPart PodTemplateSpec.Extends t (some (t.getD default)) := by
  rintro t rfl
  exact ⟨t, rfl, .refl t⟩

lemma extends_ensureTemplate (c : Content) : c.Extends c.ensureTemplate := by
  cases c with
  | service | secret | configMap => exact .refl _
  | deployment spec | statefulSet spec | daemonSet spec | job spec =>
    cases spec with
    | none => exact extends_of_absent rfl rfl rfl rfl rfl rfl rfl
    | some s => exact .refl _
  | replicaSet spec | replicationController spec | deploymentConfig _ spec =>
    cases spec with
    | none => exact extends_of_absent rfl rfl rfl rfl rfl rfl rfl
    | some s => exact { Extends.refl _ with template := extends_getD_template }
  | podTemplate t => exact { Extends.refl _ with template := extends_getD_template }

end Content
namespace Resource

lemma extends_modifyTemplate {r : Resource} {f : PodTemplateSpec → PodTemplateSpec}
    (hf : ∀ t, r.template? = some t → t.Extends (f t)) : r.Extends (r.modifyTemplate f) :=
  .of_content (Content.extends_modifyTemplate hf)

lemma extends_modifyPodSpec {r : Resource} {f : PodSpec → PodSpec}
    (hf : ∀ s, r.podSpec? = some s → s.Extends (f s)) : r.Extends (r.modifyPodSpec f) := by
  refine extends_modifyTemplate fun t ht => PodTemplateSpec.extends_modifySpec fun s hs => hf s ?_
  rw [podSpec?, ht]
  exact hs

lemma extends_ensureTemplate (r : Resource) : r.Extends r.ensureTemplate :=
  .of_content ((Content.extends_ensureTemplate r.content).trans
    (Content.extends_modifyTemplate fun t _ => t.extends_ensureSpec))

/-- A name that is given in place of a blank one. -/
lemma extends_rename {r : Resource} (hr : r.name?.isNone = true) (name : Option String) :
    r.Extends (r.rename name) where
  name := by
    intro s hs hb
    simp [Resource.name?, hs, hb] at hr
  metadata := ⟨.refl _, .refl _, rfl⟩
  content := .refl _

end Resource

/-! ### Labelling -/

namespace Labelling

lemma keepsEntries_addEntries (base : Option (SortedMap String)) (more : SortedMap String) :
    KeepsEntries base (addEntries base more) := by
  unfold addEntries
  split
  · exact .refl base
  · exact keepsEntries_fillEntries base more

lemma map_bare_fillSelector (more : SortedMap String) (l : Option LabelSelector) :
    (l.map (fillSelector more)).map LabelSelector.bare = l.map LabelSelector.bare := by
  cases l <;> rfl

lemma extends_addSelector (more : SortedMap String) (c : Content) :
    c.Extends (addSelector more c) := by
  cases c with
  | secret | configMap | podTemplate => exact .refl _
  | service spec =>
    cases spec with
    | none => exact Content.extends_of_absent rfl rfl rfl rfl rfl rfl rfl
    | some s =>
      exact { Content.Extends.refl _ with selector := keepsEntries_fillEntries s.selector more }
  | replicationController spec | deploymentConfig _ spec =>
    cases spec with
    | none => exact .refl _
    | some s =>
      exact { Content.Extends.refl _ with selector := keepsEntries_fillEntries s.selector more }
  | replicaSet spec | deployment spec | statefulSet spec | daemonSet spec =>
    cases spec with
    | none => exact .refl _
    | some s =>
      exact { Content.Extends.refl _ with
        selector := keepsEntries_fillEntries s.selector.matchLabels more }
  | job spec =>
    cases spec with
    | none => exact .refl _
    | some s =>
      exact { Content.Extends.refl _ with
        bare := by
          intro d hd
          cases hd
          exact congrArg
            (fun l => some (Content.job (some { s with selector := l, template := default })))
            (map_bare_fillSelector more s.selector)
        selector := by
          change KeepsEntries (s.selector.bind (·.matchLabels))
            ((s.selector.map (fillSelector more)).bind (·.matchLabels))
          cases s.selector with
          | none => exact .refl _
          | some l => exact keepsEntries_fillEntries l.matchLabels more }

variable (policy : Config.Policy) (enrichers : List Enricher)

lemma extends_labelMeta (kind : Kind) (m : ObjectMeta) :
    m.Extends (labelMeta policy enrichers kind m) :=
  ⟨keepsEntries_addEntries _ _, keepsEntries_addEntries _ _, rfl⟩

lemma extends_labelResource (r : Resource) : r.Extends (labelResource policy enrichers r) where
  name := .refl _
  metadata := extends_labelMeta policy enrichers r.kind r.metadata
  content := by
    have htemplate :
        r.content.Extends (r.content.modifyTemplate (labelTemplate policy enrichers)) :=
      Content.extends_modifyTemplate fun t _ =>
        t.extends_metadata (extends_labelMeta policy enrichers .podTemplate) fun _ => rfl
    unfold labelResource
    dsimp only
    split
    · exact htemplate
    · exact htemplate.trans (extends_addSelector _ _)

end Labelling
end Manifests
