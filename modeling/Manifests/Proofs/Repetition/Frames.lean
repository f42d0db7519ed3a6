import Manifests.Proofs.Contributions
import Manifests.Proofs.Repetition.Adapting
import Manifests.Proofs.Repetition.Services
import Manifests.Proofs.Repetition.Workloads

/-! What the labelling and the adaptation leave of a resource for the enrichers that add: its name,
its pods up to init containers, its ports and, unless the policy writes it, the server that it
names. -/
namespace Manifests

open Enricher.DefaultService (SameService)
open Enricher.RegistrySecrets (serverId? serverId?_eq serverIdKey)

structure Resource.Frame (c : Enricher.Context) (r s : Resource) : Prop where
  workload : r.SameWorkload s
  service : SameService r s
  server : r.kind = .secret → ∀ id, serverId? s = some id →
    serverId? r = some id ∨ c.policy.annotations.all.get? serverIdKey = some id

namespace Resource

variable {c : Enricher.Context} {r s : Resource}

lemma Frame.refl (r : Resource) : r.Frame c r := ⟨.refl r, .refl r, fun _ _ => .inl⟩

lemma Frame.trans {t : Resource} (h : r.Frame c s) (h' : s.Frame c t) : r.Frame c t where
  workload := h.workload.trans h'.workload
  service := h.service.trans h'.service
  server hkind id hid := by
    obtain hid | hid := h'.server (h.service.kind.trans hkind) id hid
    · exact h.server hkind id hid
    · exact .inr hid

lemma sameService_of_content (hname : s.metadata.name = r.metadata.name)
    (hkind : s.kind = r.kind) (h : r.kind = .service → s.content = r.content) :
    SameService r s where
  kind := hkind
  name := hname
  ports spec hspec := by
    refine ⟨spec, (h ?_).trans hspec, rfl⟩
    rw [kind, hspec]
    rfl

/-- A change of the template that keeps its pods, apart from init containers. -/
lemma frame_modifyTemplate {f : PodTemplateSpec → PodTemplateSpec} (r : Resource)
    (hf : ∀ t, (f t).spec.map (PodSpec.withInits none) = t.spec.map (PodSpec.withInits none)) :
    r.Frame c (r.modifyTemplate f) where
  workload := by
    refine ⟨kind_modifyTemplate f r, Content.replicas?_modifyTemplate f r.content, ?_⟩
    rw [podSpec?_modifyTemplate, podSpec?]
    cases r.template? with
    | none => rfl
    | some t => exact hf t
  service := by
    refine sameService_of_content rfl (kind_modifyTemplate f r) fun hkind => ?_
    obtain ⟨m, content⟩ := r
    cases content with
    | service spec => rfl
    | _ => cases hkind
  server _ _ := .inl

/-- A change of the metadata that keeps the name and, apart from the policy, the server. -/
lemma frame_metadata {m : ObjectMeta} (hname : m.name = r.metadata.name)
    (hserver : r.kind = .secret → ∀ id, serverId? ⟨m, r.content⟩ = some id →
      serverId? r = some id ∨ c.policy.annotations.all.get? serverIdKey = some id) :
    r.Frame c ⟨m, r.content⟩ :=
  ⟨⟨rfl, rfl, rfl⟩, ⟨rfl, hname, fun spec h => ⟨spec, h, rfl⟩⟩, hserver⟩

end Resource

/-! ### Labelling -/

namespace Labelling

variable {c : Enricher.Context}

@[simp] lemma replicas?_addSelector (more : SortedMap String) (content : Content) :
    (addSelector more content).replicas? = content.replicas? := by
  cases content <;> rename_i spec <;> cases spec <;> rfl

lemma frame_addSelector (more : SortedMap String) (r : Resource) :
    r.Frame c { r with content := addSelector more r.content } where
  workload := by
    refine ⟨kind_addSelector more r.content, replicas?_addSelector more r.content, ?_⟩
    change (Option.bind (addSelector more r.content).template? _).map _ = _
    rw [template?_addSelector]
    rfl
  service := by
    refine ⟨kind_addSelector more r.content, rfl, fun spec hspec => ?_⟩
    rw [hspec]
    exact ⟨_, rfl, rfl⟩
  server _ _ := .inl

/-- Secrets are annotated by what the policy gives to all kinds. -/
lemma serverId?_labelMeta {steps : List StandardEnricher} {m : ObjectMeta}
    {content content' : Content} {id : String}
    (h : serverId? ⟨labelMeta c.policy (steps.map (·.enricher c)) .secret m, content⟩ = some id) :
    serverId? ⟨m, content'⟩ = some id ∨
      c.policy.annotations.all.get? serverIdKey = some id := by
  rw [serverId?_eq] at h ⊢
  dsimp only [labelMeta] at h
  rw [get?_addEntries, StandardEnricher.annotations_eq_forKind, Option.or_eq_some_iff] at h
  refine h.imp_right fun ⟨_, h⟩ => ?_
  change (SortedMap.union ∅ c.policy.annotations.all).get? serverIdKey = some id at h
  rwa [SortedMap.get?_union, SortedMap.get?_empty, Option.or_none] at h

lemma frame_labelResource (steps : List StandardEnricher) (r : Resource) :
    r.Frame c (labelResource c.policy (steps.map (·.enricher c)) r) := by
  have htemplate := Resource.frame_modifyTemplate (c := c)
    (f := labelTemplate c.policy (steps.map (·.enricher c))) r fun _ => rfl
  have hmeta : r.Frame c ⟨labelMeta c.policy (steps.map (·.enricher c)) r.kind r.metadata,
      r.content.modifyTemplate (labelTemplate c.policy (steps.map (·.enricher c)))⟩ := by
    refine htemplate.trans (Resource.frame_metadata rfl fun hkind _ h => ?_)
    rw [← Resource.kind_modifyTemplate, hkind] at h
    exact serverId?_labelMeta h
  unfold labelResource
  dsimp only
  split
  · exact hmeta
  · exact hmeta.trans (frame_addSelector _ _)

lemma triggers_labelResource (policy : Config.Policy) (enrichers : List Enricher) (r : Resource) :
    (labelResource policy enrichers r).content.triggers = r.content.triggers := by
  have hselector : ∀ more (content : Content),
      (addSelector more content).triggers = content.triggers := by
    intro more content
    cases content <;> rename_i spec <;> cases spec <;> rfl
  unfold labelResource
  dsimp only
  split
  · exact Content.triggers_modifyTemplate _ r.content
  · rw [hselector, Content.triggers_modifyTemplate]

end Labelling

/-! ### Adapting -/

namespace Enricher.ImageTriggers

variable {c : Context}

/-- Only pods and triggers are changed. -/
lemma adaptResource_keeps (r : Resource) : (adaptResource c r).metadata = r.metadata ∧
    (adaptResource c r).kind = r.kind ∧ (adaptResource c r).replicas? = r.replicas? ∧
    (r.kind = .service → adaptResource c r = r) := by
  obtain ⟨m, content⟩ := r
  cases content with
  | deploymentConfig version spec =>
    cases spec with
    | none => exact ⟨rfl, rfl, rfl, fun _ => rfl⟩
    | some s =>
      obtain ⟨f, triggers, hspec, _⟩ := exists_adaptSpec (c := c) s
      unfold adaptResource
      dsimp only
      rw [Option.map_some, hspec]
      exact ⟨rfl, rfl, rfl, fun hkind => by cases hkind⟩
  | _ => exact ⟨rfl, rfl, rfl, fun _ => rfl⟩

/-- Without trimming, only triggers are. -/
lemma frame_adaptResource (hc : c.isOn name trimImageKey = false) (r : Resource) :
    r.Frame c (adaptResource c r) := by
  obtain ⟨hmeta, hkind, hreplicas, hservice⟩ := adaptResource_keeps (c := c) r
  refine ⟨⟨hkind, hreplicas, ?_⟩, ?_, fun _ id hid => .inl ?_⟩
  · obtain hself | ⟨pod, hpod, hnew, _⟩ := adaptResource_cases (c := c) r
    · rw [hself]
    · rw [addTriggers_untrimmed hc] at hnew
      rw [hnew, hpod]
      rfl
  · exact Resource.sameService_of_content (congrArg ObjectMeta.name hmeta) hkind
      fun hkind => congrArg Resource.content (hservice hkind)
  · rwa [serverId?, hmeta] at hid

end Enricher.ImageTriggers

namespace StandardEnricher

variable {c : Enricher.Context} {platform : Config.Platform} {e : StandardEnricher}
  {r s : Resource}

lemma triggers_of_returns (he : e ≠ imageTriggers)
    (h : (e.adaptResource c platform r).Returns s) : s.content.triggers = r.content.triggers := by
  by_cases hvolumes : e = volumePermissions
  · subst hvolumes
    obtain ⟨inits, rfl, _⟩ := Enricher.VolumePermissions.adaptResource_cases h
    exact Content.triggers_modifyTemplate _ r.content
  · exact (samePods_of_returns hvolumes he h).triggers

lemma frame_of_returns (he : e = imageTriggers → platform = .openshift →
      c.isOn Enricher.ImageTriggers.name Enricher.ImageTriggers.trimImageKey = false)
    (h : (e.adaptResource c platform r).Returns s) : r.Frame c s := by
  cases e with
  | projectLabels =>
    cases Logged.returns_pure.mp h
    have hmeta : r.Frame c
        ⟨Enricher.ProjectLabels.label (Enricher.ProjectLabels.labels c) r.metadata, r.content⟩ :=
      Resource.frame_metadata rfl fun _ _ => .inl
    exact hmeta.trans (Resource.frame_modifyTemplate _ fun _ => rfl)
  | podAnnotations =>
    cases Logged.returns_pure.mp h
    unfold Enricher.PodAnnotations.annotateResource
    split
    · exact Resource.frame_modifyTemplate r fun _ => rfl
    · exact .refl r
  | volumePermissions =>
    obtain ⟨inits, rfl, _⟩ := Enricher.VolumePermissions.adaptResource_cases h
    refine Resource.frame_modifyTemplate r fun t => ?_
    rw [Option.map_map]
    rfl
  | imageTriggers =>
    cases Logged.returns_pure.mp h
    split
    next hplatform => exact Enricher.ImageTriggers.frame_adaptResource (he rfl hplatform) r
    next => exact .refl r
  | naming | defaultController | defaultService | images | healthChecks | registrySecrets =>
    cases Logged.returns_pure.mp h
    exact .refl r

end StandardEnricher
end Manifests
