import Manifests.Proofs.Contributions
import Manifests.Proofs.Repetition.Pods
import Manifests.Proofs.Run
import Manifests.Proofs.Steps

/-! What an enrichment selects by, and how it labels the pods to be selected.  In a build that
selects no enrichers itself, pods carry every label that anything selects by, with the value of the
policy where that labels pods under the key. -/
namespace Manifests

namespace Resource

/-- Nothing beyond `selector` is selected by, and exactly the pods of controllers are labelled, with
`podLabels`. -/
structure Follows (selector podLabels : SortedMap String) (r : Resource) : Prop where
  selector : ∀ k v, r.selector.get? k = some v → selector.get? k = some v
  podLabels : r.podLabels? = if r.kind.isController then some podLabels else none

namespace Follows

variable {selector podLabels : SortedMap String} {r s : Resource}

lemma of_sameLabels (hr : r.Follows selector podLabels) (h : r.SameLabels s) :
    s.Follows selector podLabels where
  selector := by
    rw [h.selector]
    exact hr.selector
  podLabels := by
    rw [h.podLabels, h.kind]
    exact hr.podLabels

lemma isSome_podLabels? (hr : r.Follows selector podLabels) (hkind : r.kind.isController = true) :
    r.podLabels?.isSome = true := by
  rw [hr.podLabels, if_pos hkind]
  rfl

end Follows
end Resource

/-! ### Adding what is missing -/

namespace Enricher

variable {c : Context}

lemma Naming.sameLabels_nameResource (name : String) (r : Resource) :
    r.SameLabels (nameResource name r) := by
  unfold nameResource
  split
  · exact .of_content_eq rfl
  · exact .refl r

namespace DefaultController

lemma sameLabels_ensureDeployment {r : Resource} (replicas : Int32)
    (h : r.Follows ∅ ∅) : r.SameLabels (ensureDeployment replicas r) := by
  unfold ensureDeployment
  split
  next spec hcontent =>
    have hsome : r.podLabels?.isSome = true :=
      h.isSome_podLabels? (by rw [Resource.kind, hcontent]; rfl)
    cases spec with
    | none =>
      rw [Resource.podLabels?, Resource.template?, hcontent] at hsome
      cases hsome
    | some s =>
      refine .trans ⟨?_, ?_, ?_⟩ (Resource.sameLabels_ensureTemplate rfl)
      · rw [Resource.kind, Resource.kind, hcontent]
        rfl
      · rw [Resource.selector, Resource.selector, hcontent]
        rfl
      · rw [Resource.podLabels?, Resource.podLabels?, Resource.template?, Resource.template?,
          hcontent]
        rfl
  · exact .refl r

lemma follows_complete {r : Resource} (spec : PodSpec) (h : r.Follows ∅ ∅) :
    (complete c spec r).Follows ∅ ∅ :=
  h.of_sameLabels ((sameLabels_ensureDeployment _ h).trans (Resource.sameLabels_modifyPodSpec _ _))

lemma labels_podTemplate {b : Blueprint} {images : List Config.Image} {t : PodTemplateSpec}
    (h : (b.podTemplate images).Returns t) : t.labels = ∅ := by
  simp only [Blueprint.podTemplate, Logged.returns_bind, Logged.returns_pure] at h
  obtain ⟨_, _, _, _, _, _, rfl⟩ := h
  rfl

lemma follows_controller {b : Blueprint} {kind : Kind} {images : List Config.Image} {r : Resource}
    (h : (b.controller? kind images).Returns (some r)) : r.Follows ∅ ∅ := by
  unfold Blueprint.controller? at h
  split at h
  next hkind =>
    simp only [Logged.returns_bind, Logged.returns_pure] at h
    obtain ⟨name, _, t, ht, h⟩ := h
    have hlabels := labels_podTemplate ht
    cases kind with
    | service | secret | configMap | podTemplate => cases hkind
    | _ =>
      cases h
      exact ⟨fun _ _ => id, congrArg some hlabels⟩
  · rw [Logged.returns_pure] at h
    cases h

end DefaultController

namespace DefaultService

lemma follows_service {s : Config.ServiceDeclaration} {r : Resource} (h : s.service? = some r) :
    r.Follows ∅ ∅ := by
  unfold Config.ServiceDeclaration.service? at h
  split at h
  · cases h
  · cases h
    exact ⟨fun _ _ => id, rfl⟩

lemma selector_completeSpec (s fallback : ServiceSpec) :
    (completeSpec s fallback).selector = s.selector := by
  unfold completeSpec
  split <;> rfl

lemma follows_complete {fallback : Option ServiceSpec} {r : Resource}
    (hfallback : ∀ s ∈ fallback, s.selector = none) (h : r.Follows ∅ ∅) :
    (complete c fallback r).Follows ∅ ∅ := by
  unfold complete
  split
  next spec hcontent =>
    have hnamed := h.of_sameLabels (Naming.sameLabels_nameResource (defaultName c) r)
    unfold Naming.nameResource at hnamed
    generalize (if r.name?.isNone then r.rename (some (defaultName c)) else r) = named at hnamed ⊢
    cases fallback with
    | none => exact hnamed
    | some fallback =>
      dsimp only
      split
      · refine ⟨?_, rfl⟩
        cases spec with
        | none =>
          change ∀ k v, (fallback.selector.getD ∅).get? k = some v → _
          rw [hfallback fallback rfl]
          exact fun _ _ => id
        | some s =>
          have hselector := h.selector
          rw [Resource.selector, hcontent] at hselector
          change ∀ k v, ((completeSpec s fallback).selector.getD ∅).get? k = some v → _
          rw [selector_completeSpec]
          exact hselector
      · exact hnamed
  · exact h

lemma selector_service {s : Config.ServiceDeclaration} :
    ∀ spec ∈ s.service?.bind serviceSpec?, spec.selector = none := by
  intro spec hspec
  unfold Config.ServiceDeclaration.service? at hspec
  split at hspec
  · cases hspec
  · cases hspec
    rfl

end DefaultService

lemma Images.follows_complete {r s : Resource} (h : (complete c r).Returns s)
    (hr : r.Follows ∅ ∅) : s.Follows ∅ ∅ := by
  unfold complete at h
  split at h
  next hkind =>
    simp only [Logged.returns_bind, Logged.returns_pure] at h
    obtain ⟨containers, _, rfl⟩ := h
    exact hr.of_sameLabels ((Resource.sameLabels_ensureTemplate (hr.isSome_podLabels? hkind)).trans
      (Resource.sameLabels_modifyPodSpec _ _))
  · rw [Logged.returns_pure] at h
    exact h ▸ hr

lemma HealthChecks.sameLabels_complete {liveness readiness : Option Probe} {r s : Resource}
    (h : (complete liveness readiness r).Returns s) : r.SameLabels s := by
  unfold complete at h
  split at h
  · split at h
    · rw [Logged.returns_pure] at h
      exact h ▸ .refl r
    · simp only [Logged.returns_bind, Logged.returns_pure] at h
      obtain ⟨_, _, _, _, rfl⟩ := h
      exact Resource.sameLabels_modifyPodSpec _ _
  · rw [Logged.returns_pure] at h
    exact h ▸ .refl r

lemma RegistrySecrets.sameLabels_complete {r s : Resource} (h : (complete c r).Returns s) :
    r.SameLabels s := by
  unfold complete at h
  split at h
  next secret _ hcontent _ =>
    split at h
    · rw [Logged.returns_pure] at h
      subst h
      refine ⟨?_, ?_, ?_⟩ <;>
        simp only [Resource.kind, Resource.selector, Resource.podLabels?, Resource.template?,
          hcontent] <;>
        rfl
    · simp only [Logged.returns_bind, Logged.returns_pure] at h
      obtain ⟨_, _, rfl⟩ := h
      exact .refl r
  · rw [Logged.returns_pure] at h
    exact h ▸ .refl r

end Enricher

namespace StandardEnricher

variable {c : Enricher.Context} {platform : Config.Platform} {e : StandardEnricher}
  {r s : Resource} {before after : Collection}

lemma follows_of_completes (h : e.Completes c r s) (hr : r.Follows ∅ ∅) : s.Follows ∅ ∅ := by
  cases e with
  | naming => exact h ▸ hr.of_sameLabels (Enricher.Naming.sameLabels_nameResource _ r)
  | defaultController =>
    obtain rfl | ⟨t, _, rfl⟩ := h
    · exact hr
    · exact Enricher.DefaultController.follows_complete _ hr
  | defaultService =>
    obtain rfl | ⟨d, _, rfl⟩ := h
    · exact hr
    · exact Enricher.DefaultService.follows_complete Enricher.DefaultService.selector_service hr
  | images =>
    obtain rfl | ⟨_, h⟩ := h
    · exact hr
    · exact Enricher.Images.follows_complete h hr
  | healthChecks =>
    obtain rfl | ⟨_, _, h⟩ := h
    · exact hr
    · exact hr.of_sameLabels (Enricher.HealthChecks.sameLabels_complete h)
  | registrySecrets => exact hr.of_sameLabels (Enricher.RegistrySecrets.sameLabels_complete h)
  | projectLabels | podAnnotations | volumePermissions | imageTriggers => exact h ▸ hr

lemma follows_of_appends (h : e.Appends c platform r) : r.Follows ∅ ∅ := by
  cases e with
  | defaultController =>
    obtain ⟨_, _, h⟩ := h
    exact Enricher.DefaultController.follows_controller h
  | defaultService =>
    obtain ⟨_, _, h⟩ := h
    exact Enricher.DefaultService.follows_service h
  | naming | images | healthChecks | projectLabels | podAnnotations | volumePermissions
  | imageTriggers | registrySecrets => exact h.elim

/-- No step that adds what is missing selects or labels anything. -/
lemma follows_addMissing (e : StandardEnricher)
    (h : ((e.enricher c).addMissing platform before).Returns after)
    (hbefore : ∀ r ∈ before, r.Follows ∅ ∅) : ∀ r ∈ after, r.Follows ∅ ∅ :=
  forall_of_addMissing h follows_of_completes (fun _ => follows_of_appends) hbefore

end StandardEnricher

/-! ### Labelling and adapting -/

/-- The labelling selects by project labels at most, and labels pods as the policy says. -/
lemma Labelling.follows_labelResource {c : Enricher.Context} {steps : List StandardEnricher}
    {policy : Config.Policy} {r : Resource} (hr : r.Follows ∅ ∅) :
    (labelResource policy (steps.map (StandardEnricher.enricher c)) r).Follows
      (Enricher.ProjectLabels.labels c) (policy.labels.forKind .podTemplate) where
  selector k v h := by
    obtain hbefore | hcollect := selector_labelResource _ _ r h
    · cases hr.selector k v hbefore
    · exact Enricher.ProjectLabels.get?_labels_of_selector
        (StandardEnricher.get?_selector_of_collect hcollect)
  podLabels := by
    rw [podLabels?_labelResource, hr.podLabels, kind_labelResource,
      StandardEnricher.labels_eq_forKind]
    split
    · refine congrArg some (SortedMap.ext_get? fun k => ?_)
      rw [SortedMap.get?_fill, SortedMap.get?_empty, Option.none_or]
    · rfl

namespace Enricher

variable {c : Context}

lemma PodAnnotations.sameLabels_annotateResource (r : Resource) :
    r.SameLabels (annotateResource r) := by
  unfold annotateResource
  split
  · refine Resource.sameLabels_modifyTemplate fun t _ => ?_
    unfold annotate PodTemplateSpec.labels
    cases t.metadata <;> rfl
  · exact .refl r

lemma ImageTriggers.sameLabels_adaptResource (r : Resource) : r.SameLabels (adaptResource c r) := by
  obtain ⟨m, content⟩ := r
  cases content with
  | deploymentConfig version spec =>
    cases spec with
    | none => exact .refl _
    | some s =>
      change Resource.SameLabels _ ⟨m, .deploymentConfig version (some (adaptSpec c s))⟩
      unfold adaptSpec
      split
      · exact .refl _
      next pod hpod =>
        refine ⟨rfl, rfl, ?_⟩
        change (Option.map _ s.template).map PodTemplateSpec.labels =
          s.template.map PodTemplateSpec.labels
        cases s.template <;> rfl
  | _ => exact .refl _

lemma ProjectLabels.podLabels?_labelResource (labels : SortedMap String) (r : Resource) :
    (labelResource labels r).podLabels? = r.podLabels?.map (·.fill labels) := by
  unfold labelResource
  rw [Resource.podLabels?_modifyTemplate, Resource.podLabels?, Option.map_map]
  refine Option.map_congr fun t _ => ?_
  change ((t.metadata.getD default).labels.getD ∅).fill labels = t.labels.fill labels
  unfold PodTemplateSpec.labels
  cases t.metadata <;> rfl

lemma ProjectLabels.follows_labelResource {selector podLabels : SortedMap String} {r : Resource}
    (labels : SortedMap String) (hr : r.Follows selector podLabels) :
    (labelResource labels r).Follows selector (podLabels.fill labels) where
  selector := by
    rw [labelResource, Resource.selector_modifyTemplate]
    exact hr.selector
  podLabels := by
    have hkind : (labelResource labels r).kind = r.kind := Resource.kind_modifyTemplate _ _
    rw [podLabels?_labelResource, hr.podLabels, hkind]
    split <;> rfl

end Enricher

namespace StandardEnricher

variable {c : Enricher.Context} {platform : Config.Platform} {e : StandardEnricher}
  {r s : Resource} {before after : Collection} {selector podLabels : SortedMap String}

/-- Only project labels change what a resource selects by or how it labels pods. -/
lemma sameLabels_of_adaptResource (he : e ≠ projectLabels)
    (h : (e.adaptResource c platform r).Returns s) : r.SameLabels s := by
  cases e with
  | projectLabels => exact absurd rfl he
  | podAnnotations =>
    cases Logged.returns_pure.mp h
    exact Enricher.PodAnnotations.sameLabels_annotateResource r
  | volumePermissions =>
    obtain ⟨_, rfl, _⟩ := Enricher.VolumePermissions.adaptResource_cases h
    exact r.sameLabels_modifyPodSpec _
  | imageTriggers =>
    cases Logged.returns_pure.mp h
    split
    · exact Enricher.ImageTriggers.sameLabels_adaptResource r
    · exact .refl r
  | naming | defaultController | defaultService | images | healthChecks | registrySecrets =>
    exact Logged.returns_pure.mp h ▸ .refl r

lemma follows_adapt (he : e ≠ projectLabels)
    (h : ((e.enricher c).adapt platform before).Returns after)
    (hbefore : ∀ r ∈ before, r.Follows selector podLabels) :
    ∀ r ∈ after, r.Follows selector podLabels :=
  forall_of_forall₂ (fun hrs hr => hr.of_sameLabels (sameLabels_of_adaptResource he hrs))
    (returns_adapt.mp h) hbefore

lemma follows_adapt_projectLabels
    (h : ((projectLabels.enricher c).adapt platform before).Returns after)
    (hbefore : ∀ r ∈ before, r.Follows selector podLabels) :
    ∀ r ∈ after, r.Follows selector (podLabels.fill (Enricher.ProjectLabels.labels c)) := by
  cases Logged.returns_pure.mp h
  exact List.forall_mem_map.mpr fun r hr =>
    Enricher.ProjectLabels.follows_labelResource _ (hbefore r hr)

end StandardEnricher

namespace Enrichment

variable {e : Enrichment} {steps : List StandardEnricher} {platform : Config.Platform}
  {after : Collection}

/-- From an empty collection on, pods get the labels of the policy before those of the project, and
only the latter are selected by. -/
lemma Runs.follows_enrich (hruns : e.Runs steps) (hlabels : .projectLabels ∈ steps)
    (h : (e.enrich platform []).Returns after) :
    ∀ r ∈ after, r.Follows (Enricher.ProjectLabels.labels e.context)
      ((e.context.policy.labels.forKind .podTemplate).fill
        (Enricher.ProjectLabels.labels e.context)) := by
  obtain ⟨added, hadded, hadapted⟩ := hruns.returns_enrich.mp h
  have hfresh : ∀ r ∈ added, r.Follows ∅ ∅ := by
    refine Logged.returns_foldlM (R := fun b c : Collection =>
      (∀ r ∈ b, r.Follows ∅ ∅) → ∀ r ∈ c, r.Follows ∅ ∅) (fun _ => id) (fun hab hbc => hbc ∘ hab)
      (fun step _ _ _ => step.follows_addMissing) hadded ?_
    simp
  have hlabelled : ∀ r ∈ added.map (Labelling.labelResource e.context.policy
      (steps.map (StandardEnricher.enricher e.context))),
      r.Follows (Enricher.ProjectLabels.labels e.context)
        (e.context.policy.labels.forKind .podTemplate) :=
    List.forall_mem_map.mpr fun r hr => Labelling.follows_labelResource (hfresh r hr)
  refine Logged.returns_foldlM_of_mem
    (I := fun c : Collection => ∀ r ∈ c, r.Follows (Enricher.ProjectLabels.labels e.context)
      (e.context.policy.labels.forKind .podTemplate))
    hlabels ?_ StandardEnricher.follows_adapt_projectLabels ?_ hlabelled hadapted
  · exact fun step _ hstep _ _ => StandardEnricher.follows_adapt hstep
  · intro step _ b c hstep hb
    by_cases heq : step = .projectLabels
    · subst heq
      rw [← SortedMap.fill_fill_self]
      exact StandardEnricher.follows_adapt_projectLabels hstep hb
    · exact StandardEnricher.follows_adapt heq hstep hb

theorem label_of_selects {files : FileTree} {b : Config.Build} (hb : b.enricher.IsPlain)
    (he : ofContext files StandardEnricher.registry (.ofBuild files b) = .ok e)
    (h : (e.enrich platform []).Returns after) {controller r : Resource}
    (hcontroller : controller ∈ after) (hkind : controller.kind.isController = true)
    (hr : r ∈ after) {k v : String} (hselects : r.selector.get? k = some v) :
    ∃ t, controller.template? = some t ∧
      t.labels.get? k = some (((b.resources.labels.forKind .podTemplate).get? k).getD v) := by
  rw [ofContext_of_isPlain (c := .ofBuild files b) hb] at he
  cases he
  have hfollows := (runs_all_of_isPlain (c := .ofBuild files b) hb).follows_enrich
    (StandardEnricher.mem_all _) h
  have hlabel := (hfollows r hr).selector k v hselects
  have hpods := (hfollows controller hcontroller).podLabels
  rw [if_pos hkind, Resource.podLabels?, Option.map_eq_some_iff] at hpods
  obtain ⟨t, ht, hlabels⟩ := hpods
  refine ⟨t, ht, ?_⟩
  rw [hlabels, SortedMap.get?_fill, hlabel]
  change (SortedMap.get? (b.resources.labels.forKind .podTemplate) k).or (some v) = _
  cases (b.resources.labels.forKind .podTemplate).get? k <;> rfl

/-- A project whose policy gives every resource another `app` than the project. -/
def relabelled : Config.Build where
  project := { (default : Config.Project) with artifactId := "shop", groupId := "org" }
  images := []
  resources := { (default : Config.Policy) with
    labels := { (default : Config.KindEntries) with all := SortedMap.ofList [("app", "other")] } }
  enricher := default
  platform := .kubernetes

def relabelledEnrichment : Enrichment :=
  ⟨.ofBuild default relabelled,
    StandardEnricher.all.map (StandardEnricher.enricher (.ofBuild default relabelled))⟩

lemma isPlain_relabelled : relabelled.enricher.IsPlain := ⟨rfl, rfl, rfl⟩

lemma ofContext_relabelled :
    ofContext default StandardEnricher.registry (.ofBuild default relabelled) =
      .ok relabelledEnrichment :=
  ofContext_of_isPlain (c := .ofBuild default relabelled) isPlain_relabelled

lemma exists_controller_relabelled :
    ∃ after, (relabelledEnrichment.enrich .kubernetes []).Returns after ∧
      ∃ controller ∈ after, controller.kind.isController = true ∧
        controller.selector.get? "app" = some "shop" := by
  obtain ⟨after, h, hafter⟩ := Logged.exists_returns_of_any
    (x := relabelledEnrichment.enrich .kubernetes [])
    (p := fun after => after.any fun r =>
      r.kind.isController && r.selector.get? "app" == some "shop") (by decide +kernel)
  obtain ⟨controller, hmem, hcontroller⟩ := List.any_eq_true.mp hafter
  rw [Bool.and_eq_true, beq_iff_eq] at hcontroller
  exact ⟨after, h, controller, hmem, hcontroller⟩

theorem label_of_selects_relabelled :
    relabelled.enricher.IsPlain ∧
    ofContext default StandardEnricher.registry (.ofBuild default relabelled) =
      .ok relabelledEnrichment ∧
    ∃ after, (relabelledEnrichment.enrich .kubernetes []).Returns after ∧
      ∃ controller ∈ after, controller.kind.isController = true ∧
        controller.selector.get? "app" = some "shop" ∧
        ∃ t, controller.template? = some t ∧ t.labels.get? "app" =
          some (((relabelled.resources.labels.forKind .podTemplate).get? "app").getD "shop") := by
  obtain ⟨after, h, controller, hmem, hkind, hselects⟩ := exists_controller_relabelled
  exact ⟨isPlain_relabelled, ofContext_relabelled, after, h, controller, hmem, hkind, hselects,
    label_of_selects isPlain_relabelled ofContext_relabelled h hmem hkind hmem hselects⟩

/-- The policy wins over the label that is selected by. -/
theorem selects_other_relabelled :
    relabelled.enricher.IsPlain ∧
    ofContext default StandardEnricher.registry (.ofBuild default relabelled) =
      .ok relabelledEnrichment ∧
    ∃ after, (relabelledEnrichment.enrich .kubernetes []).Returns after ∧
      ∃ controller ∈ after, controller.kind.isController = true ∧
        ∃ t, controller.template? = some t ∧
          controller.selector.get? "app" = some "shop" ∧ t.labels.get? "app" = some "other" := by
  obtain ⟨after, h, controller, hmem, hkind, hselects⟩ := exists_controller_relabelled
  have hpods := ((runs_all_of_isPlain isPlain_relabelled).follows_enrich
    (StandardEnricher.mem_all _) h controller hmem).podLabels
  rw [if_pos hkind, Resource.podLabels?, Option.map_eq_some_iff] at hpods
  obtain ⟨t, ht, hlabels⟩ := hpods
  refine ⟨isPlain_relabelled, ofContext_relabelled, after, h, controller, hmem, hkind, t, ht,
    hselects, ?_⟩
  rw [hlabels]
  decide +kernel

end Enrichment
end Manifests
