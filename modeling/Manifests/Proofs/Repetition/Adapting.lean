import Manifests.Proofs.Repetition.Pods
import Manifests.Proofs.Run
import Manifests.Proofs.Steps

/-! Labelling and adapting a second time.  Every standard enricher leaves a resource that it would
not change again, and none undoes what another one or the labelling left, in any order. -/
namespace Manifests

namespace StandardEnricher

variable {c : Enricher.Context} {platform : Config.Platform} {e e' : StandardEnricher}
  {r s : Resource} {before after : Collection}

/-- A resource that an enricher has adapted. -/
def Adapted (c : Enricher.Context) (platform : Config.Platform) : StandardEnricher → Resource → Prop
  | projectLabels, r =>
    Enricher.ProjectLabels.labelResource (Enricher.ProjectLabels.labels c) r = r
  | podAnnotations, r => Enricher.PodAnnotations.annotateResource r = r
  | volumePermissions, r => ∀ pod, r.podSpec? = some pod → Enricher.VolumePermissions.Opened pod
  | imageTriggers, r => platform = .openshift → r.kind = .deploymentConfig →
    ∀ pod, r.podSpec? = some pod →
      Enricher.ImageTriggers.Saturated c r.content.triggers pod.containers
  | naming, _ | defaultController, _ | defaultService, _ | images, _ | healthChecks, _
  | registrySecrets, _ => True

lemma Adapted.returns_self (h : e.Adapted c platform r) :
    (e.adaptResource c platform r).Returns r := by
  cases e with
  | projectLabels | podAnnotations => exact Logged.returns_pure.mpr h
  | volumePermissions => exact Enricher.VolumePermissions.returns_adaptResource_self h
  | imageTriggers =>
    refine Logged.returns_pure.mpr ?_
    split
    next hplatform => exact Enricher.ImageTriggers.adaptResource_eq_self (h hplatform)
    next => rfl
  | naming | defaultController | defaultService | images | healthChecks | registrySecrets =>
    exact Logged.returns_pure.mpr rfl

lemma adapted_of_returns (h : (e.adaptResource c platform r).Returns s) :
    e.Adapted c platform s := by
  cases e with
  | projectLabels =>
    cases Logged.returns_pure.mp h
    exact Enricher.ProjectLabels.labelResource_labelResource_self r
  | podAnnotations =>
    cases Logged.returns_pure.mp h
    exact Enricher.PodAnnotations.annotateResource_annotateResource_self r
  | volumePermissions =>
    obtain ⟨_, _, hopened⟩ := Enricher.VolumePermissions.adaptResource_cases h
    exact hopened
  | imageTriggers =>
    cases Logged.returns_pure.mp h
    intro hplatform hkind pod hpod
    rw [if_pos hplatform] at hkind hpod ⊢
    rw [Enricher.ImageTriggers.kind_adaptResource] at hkind
    exact Enricher.ImageTriggers.saturated_adaptResource hkind hpod
  | naming | defaultController | defaultService | images | healthChecks | registrySecrets =>
    trivial

lemma relabelled_of_returns (h : (e.adaptResource c platform r).Returns s) : r.Relabelled s := by
  cases e with
  | projectLabels =>
    cases Logged.returns_pure.mp h
    exact Enricher.ProjectLabels.relabelled_labelResource r
  | podAnnotations =>
    cases Logged.returns_pure.mp h
    exact Enricher.PodAnnotations.relabelled_annotateResource r
  | volumePermissions =>
    obtain ⟨_, rfl, _⟩ := Enricher.VolumePermissions.adaptResource_cases h
    exact r.relabelled_modifyTemplate fun _ => rfl
  | imageTriggers =>
    cases Logged.returns_pure.mp h
    split
    · exact Enricher.ImageTriggers.relabelled_adaptResource r
    · exact .refl r
  | naming | defaultController | defaultService | images | healthChecks | registrySecrets =>
    exact Logged.returns_pure.mp h ▸ .refl r

/-- Only two enrichers change pods. -/
lemma samePods_of_returns (hvolumes : e ≠ volumePermissions) (htriggers : e ≠ imageTriggers)
    (h : (e.adaptResource c platform r).Returns s) : r.SamePods s := by
  cases e with
  | projectLabels =>
    cases Logged.returns_pure.mp h
    exact Enricher.ProjectLabels.samePods_labelResource _ r
  | podAnnotations =>
    cases Logged.returns_pure.mp h
    exact Enricher.PodAnnotations.samePods_annotateResource r
  | volumePermissions => exact absurd rfl hvolumes
  | imageTriggers => exact absurd rfl htriggers
  | naming | defaultController | defaultService | images | healthChecks | registrySecrets =>
    exact Logged.returns_pure.mp h ▸ ⟨rfl, rfl, rfl⟩

/-- What was adapted stays adapted. -/
lemma Adapted.keeps (hr : e.Adapted c platform r)
    (h : (e'.adaptResource c platform r).Returns s) : e.Adapted c platform s := by
  by_cases hsame : e' = e
  · subst hsame
    exact adapted_of_returns h
  cases e with
  | projectLabels =>
    exact Enricher.ProjectLabels.labelResource_eq_of_relabelled (relabelled_of_returns h) hr
  | podAnnotations =>
    exact Enricher.PodAnnotations.annotateResource_eq_of_relabelled (relabelled_of_returns h) hr
  | volumePermissions =>
    by_cases htriggers : e' = imageTriggers
    · subst htriggers
      cases Logged.returns_pure.mp h
      split
      · intro pod hpod
        obtain ⟨old, containers, hold, rfl, hlength⟩ :=
          Enricher.ImageTriggers.podSpec?_adaptResource hpod
        exact (hr old hold).withContainers hlength
      · exact hr
    · have hpods := samePods_of_returns hsame htriggers h
      intro pod hpod
      exact hr pod (hpods.podSpec ▸ hpod)
  | imageTriggers =>
    intro hplatform hkind pod hpod
    by_cases hvolumes : e' = volumePermissions
    · subst hvolumes
      obtain ⟨inits, rfl, _⟩ := Enricher.VolumePermissions.adaptResource_cases h
      rw [Resource.podSpec?_modifyPodSpec, Option.map_eq_some_iff] at hpod
      obtain ⟨old, hold, rfl⟩ := hpod
      have hadapted := hr hplatform ((Resource.kind_modifyTemplate _ r).symm.trans hkind) old hold
      rwa [← Content.triggers_modifyTemplate] at hadapted
    · have hpods := samePods_of_returns hvolumes hsame h
      rw [hpods.triggers]
      exact hr hplatform (hpods.kind ▸ hkind) pod (hpods.podSpec ▸ hpod)
  | naming | defaultController | defaultService | images | healthChecks | registrySecrets =>
    trivial

end StandardEnricher

namespace Collection

variable {c : Enricher.Context} {platform : Config.Platform} {steps : List StandardEnricher}
  {before after : Collection}

/-- What a property of single resources that every adaptation keeps says of a whole run. -/
lemma forall_of_adapt {P : Resource → Prop}
    (hP : ∀ (e : StandardEnricher) {r s}, (e.adaptResource c platform r).Returns s → P r → P s)
    (h : (StandardEnricher.adaptAll c platform steps before).Returns after)
    (hbefore : ∀ r ∈ before, P r) : ∀ r ∈ after, P r := by
  refine Logged.returns_foldlM (R := fun b d => (∀ r ∈ b, P r) → ∀ r ∈ d, P r) (fun _ => id)
    (fun hab hbc => hbc ∘ hab) (fun e _ {b d} hstep => ?_) h hbefore
  exact forall_of_forall₂ (hP e) (StandardEnricher.returns_adapt.mp hstep)

/-- Every enricher of a run leaves the result of the run alone, wherever it stands in it. -/
lemma adapted_of_adapt
    (h : (StandardEnricher.adaptAll c platform steps before).Returns after)
    {e : StandardEnricher} (he : e ∈ steps) : ∀ r ∈ after, e.Adapted c platform r := by
  refine Logged.returns_foldlM_of_mem (I := fun _ => True)
    (P := fun d => ∀ r ∈ d, e.Adapted c platform r) he (fun _ _ _ _ _ _ => id)
    (fun hstep _ => ?_) (fun e' _ b d hstep => ?_) trivial h
  · exact forall_of_forall₂ (P := fun _ => True)
      (fun h _ => StandardEnricher.adapted_of_returns h)
      (StandardEnricher.returns_adapt.mp hstep) fun _ _ => trivial
  · exact forall_of_forall₂ (fun h hr => hr.keeps h) (StandardEnricher.returns_adapt.mp hstep)

/-- A labelled and adapted collection is labelled and adapted again without a change. -/
lemma adapt_self_of_label {policy : Config.Policy} {enrichers : List Enricher}
    (h : (StandardEnricher.adaptAll c platform steps
      (before.map (Labelling.labelResource policy enrichers))).Returns after) :
    after.map (Labelling.labelResource policy enrichers) = after ∧
      (StandardEnricher.adaptAll c platform steps after).Returns after := by
  refine ⟨?_, Logged.returns_foldlM_self fun e he => ?_⟩
  · have hlabelled := forall_of_adapt
      (P := fun r => Labelling.labelResource policy enrichers r = r)
      (fun e {r s} hrs hr => Labelling.labelResource_eq_of_relabelled
        (StandardEnricher.relabelled_of_returns hrs) hr) h ?_
    · exact (List.map_congr_left hlabelled).trans (List.map_id _)
    · intro r hr
      obtain ⟨r, _, rfl⟩ := List.mem_map.mp hr
      exact Labelling.labelResource_labelResource_self r
  · rw [StandardEnricher.returns_adapt, List.forall₂_same]
    exact fun r hr => (adapted_of_adapt h he r hr).returns_self

end Collection
end Manifests
