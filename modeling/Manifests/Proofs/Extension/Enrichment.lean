import Manifests.Proofs.Extension.Resources
import Manifests.Proofs.Run
import Manifests.Proofs.Steps

/-! A whole enrichment extends the collection that it starts from, whichever standard enrichers run
and in whatever order, as long as no secret is filled and no image is trimmed. -/
namespace Manifests

lemma Collection.extends_map {c : Collection} {f : Resource → Resource}
    (hf : ∀ r : Resource, r.Extends (f r)) : c.Extends (c.map f) := KeepsItems.map fun r _ => hf r

lemma Resource.extends_adaptTemplate {f : PodTemplateSpec → Logged PodTemplateSpec}
    (hf : ∀ {t u}, (f t).Returns u → t.Extends u) {r s : Resource}
    (h : (r.adaptTemplate f).Returns s) : r.Extends s := by
  unfold adaptTemplate at h
  split at h
  · rw [Logged.returns_pure] at h
    exact h ▸ .refl r
  next t ht =>
    simp only [Logged.returns_bind, Logged.returns_pure] at h
    obtain ⟨u, hu, rfl⟩ := h
    refine extends_modifyTemplate fun t' ht' => ?_
    cases ht.symm.trans ht'
    exact hf hu

namespace Enricher

lemma Naming.extends_nameResource (name : String) (r : Resource) :
    r.Extends (nameResource name r) := by
  unfold nameResource
  split
  next h => exact Resource.extends_rename h _
  next => exact .refl r

@[simp] lemma Naming.content_nameResource (name : String) (r : Resource) :
    (nameResource name r).content = r.content := by
  unfold nameResource
  split <;> rfl

namespace DefaultController

lemma extends_ensureDeployment (replicas : Int32) (r : Resource) :
    r.Extends (ensureDeployment replicas r) := by
  obtain ⟨m, content⟩ := r
  cases content with
  | deployment spec =>
    refine Resource.Extends.trans (.of_content ?_) (Resource.extends_ensureTemplate _)
    cases spec with
    | none => exact Content.extends_of_absent rfl rfl rfl rfl rfl rfl rfl
    | some s =>
      refine { Content.Extends.refl (.deployment (some s)) with replicas := ?_ }
      intro n hn
      change some (s.replicas.getD replicas) = some n
      have hn' : s.replicas = some n := hn
      rw [hn']
      rfl
  | _ => exact .refl _

lemma extends_complete (c : Context) (spec : PodSpec) (r : Resource) :
    r.Extends (complete c spec r) :=
  (extends_ensureDeployment _ r).trans
    (Resource.extends_modifyPodSpec fun s _ => s.extends_fill spec (defaultName c))

end DefaultController

namespace DefaultService

lemma extends_completePort (p : ServicePort) : p.Extends (completePort p) :=
  ⟨keepsText_ite, keepsText_ite, rfl⟩

lemma portsExtend_completeSpec (s fallback : ServiceSpec) :
    PortsExtend s.ports (completeSpec s fallback).ports := by
  unfold completeSpec
  split
  next p ports hports =>
    rw [hports]
    exact ⟨KeepsItems.map fun q _ => extends_completePort q, fun _ => List.length_map _⟩
  next hports =>
    have hnil : s.ports.getD [] = [] := by
      cases hs : s.ports with
      | none => rfl
      | some l =>
        cases l with
        | nil => rfl
        | cons p ports => exact absurd hs (hports p ports)
    exact ⟨by rw [hnil]; exact .nil, fun h => absurd hnil h⟩

lemma completeSpec_eq (s fallback : ServiceSpec) :
    completeSpec s fallback = { s with ports := (completeSpec s fallback).ports } := by
  unfold completeSpec
  split <;> rfl

lemma extends_completeService (spec : Option ServiceSpec) (fallback : ServiceSpec) :
    Content.Extends (.service spec)
      (.service (some ((spec.map (completeSpec · fallback)).getD fallback))) := by
  cases spec with
  | none => exact Content.extends_of_absent rfl rfl rfl rfl rfl rfl rfl
  | some s =>
    change Content.Extends _ (.service (some (completeSpec s fallback)))
    rw [completeSpec_eq]
    exact { Content.Extends.refl (.service (some s)) with
      servicePorts := portsExtend_completeSpec s fallback }

/-- A service is named like any other resource before it is completed. -/
lemma complete_service (c : Context) (fallback : ServiceSpec) (m : ObjectMeta)
    (spec : Option ServiceSpec) :
    complete c (some fallback) ⟨m, .service spec⟩ =
      let named := Naming.nameResource (defaultName c) ⟨m, .service spec⟩
      if named.metadata.name = some (defaultName c) then
        { named with
          content := .service (some ((spec.map (completeSpec · fallback)).getD fallback)) }
      else named := rfl

lemma extends_complete (c : Context) (fallback : Option ServiceSpec) (r : Resource) :
    r.Extends (complete c fallback r) := by
  obtain ⟨m, content⟩ := r
  cases content with
  | service spec =>
    have hnamed := Naming.extends_nameResource (defaultName c) ⟨m, .service spec⟩
    have hcontent := Naming.content_nameResource (defaultName c) ⟨m, .service spec⟩
    cases fallback with
    | none => exact hnamed
    | some fallback =>
      rw [complete_service]
      dsimp only
      split
      · refine hnamed.trans (.of_content ?_)
        rw [hcontent]
        exact extends_completeService spec fallback
      · exact hnamed
  | _ => exact .refl _

end DefaultService

lemma Images.extends_complete {c : Context} {r s : Resource} (h : (complete c r).Returns s) :
    r.Extends s := by
  unfold complete at h
  split at h
  · rw [Logged.returns_bind] at h
    obtain ⟨containers, hcontainers, h⟩ := h
    rw [Logged.returns_pure] at h
    subst h
    refine r.extends_ensureTemplate.trans (Resource.extends_modifyPodSpec fun spec hspec => ?_)
    apply PodSpec.Extends.of_containers
    rw [hspec] at hcontainers
    exact keepsItems_fillContainers .refl extends_fillContainer hcontainers
  · rw [Logged.returns_pure] at h
    exact h ▸ .refl r

lemma HealthChecks.extends_complete {liveness readiness : Option Probe} {r s : Resource}
    (h : (complete liveness readiness r).Returns s) : r.Extends s := by
  unfold complete at h
  split at h
  · split at h
    · rw [Logged.returns_pure] at h
      exact h ▸ .refl r
    next last hlast =>
      simp only [Logged.returns_bind, Logged.returns_pure] at h
      obtain ⟨_, _, new, hnew, rfl⟩ := h
      refine Resource.extends_modifyPodSpec fun spec hspec => PodSpec.Extends.of_containers ?_
      rw [hspec] at hlast
      exact .replaceLast .refl hlast (extends_addProbes hnew)
  · rw [Logged.returns_pure] at h
    exact h ▸ .refl r

namespace ProjectLabels

lemma extends_label (labels : SortedMap String) (m : ObjectMeta) : m.Extends (label labels m) :=
  ⟨keepsEntries_fillEntries _ _, .refl _, rfl⟩

lemma extends_labelResource (labels : SortedMap String) (r : Resource) :
    r.Extends (labelResource labels r) where
  name := .refl _
  metadata := extends_label labels r.metadata
  content := Content.extends_modifyTemplate fun t _ =>
    t.extends_metadata (extends_label labels) fun _ => rfl

end ProjectLabels

lemma PodAnnotations.extends_annotateResource (r : Resource) : r.Extends (annotateResource r) := by
  unfold annotateResource
  split
  next annotations _ _ =>
    refine Resource.extends_modifyTemplate fun t _ => ?_
    exact t.extends_metadata
      (f := fun m => { m with annotations := fillEntries m.annotations annotations })
      (fun m => ⟨.refl _, keepsEntries_fillEntries _ _, rfl⟩) fun _ => rfl
  next => exact .refl r

namespace VolumePermissions

lemma extends_addInitContainer {t u : PodTemplateSpec} {s : PodSpec} {c : Container}
    (hs : t.spec = some s) (h : (t.addInitContainer c).Returns u) : t.Extends u := by
  unfold PodTemplateSpec.addInitContainer at h
  split at h
  · rw [Logged.returns_pure] at h
    exact h ▸ PodTemplateSpec.extends_pushInitContainer hs c
  · split at h
    · simp only [Logged.returns_bind, Logged.returns_pure] at h
      obtain ⟨_, _, rfl⟩ := h
      exact .refl t
    · exact absurd h Logged.returns_throw

lemma extends_adaptTemplate {c : Context} {t u : PodTemplateSpec}
    (h : (adaptTemplate c t).Returns u) : t.Extends u := by
  unfold adaptTemplate at h
  split at h
  · rw [Logged.returns_pure] at h
    exact h ▸ .refl t
  next s hs =>
    split at h
    · rw [Logged.returns_bind] at h
      obtain ⟨container, _, h⟩ := h
      exact extends_addInitContainer hs h
    · rw [Logged.returns_pure] at h
      exact h ▸ .refl t

end VolumePermissions

namespace ImageTriggers

variable {c : Context}

/-- Containers call for triggers behind the present ones. -/
lemma prefix_addTriggers (triggers : List DeploymentTrigger) (containers : List Container) :
    triggers <+: (addTriggers c triggers containers).2 := by
  induction containers generalizing triggers with
  | nil => exact List.prefix_rfl
  | cons container rest ih =>
    rw [addTriggers]
    split
    · exact ih triggers
    next t _ => exact (List.prefix_append triggers [t]).trans (ih (triggers ++ [t]))

lemma addTriggers_untrimmed (hc : c.isOn name trimImageKey = false)
    (triggers : List DeploymentTrigger) (containers : List Container) :
    (addTriggers c triggers containers).1 = containers := by
  induction containers generalizing triggers with
  | nil => rfl
  | cons container rest ih =>
    rw [addTriggers]
    split
    · exact congrArg (container :: ·) (ih triggers)
    next t _ =>
      change trim c container :: _ = _
      rw [ih (triggers ++ [t]), trim, hc]
      rfl

lemma extends_adaptSpec (hc : c.isOn name trimImageKey = false) (version : String)
    (s : DeploymentConfigSpec) :
    Content.Extends (.deploymentConfig version (some s))
      (.deploymentConfig version (some (adaptSpec c s))) := by
  unfold adaptSpec
  split
  · exact .refl _
  next pod hpod =>
    have htriggers := prefix_addTriggers (c := c) (s.triggers.getD []) pod.containers
    dsimp only
    rw [addTriggers_untrimmed hc]
    refine { Content.Extends.refl (.deploymentConfig version (some s)) with
      template := ?_, triggers := ?_ }
    · refine KeepsPart.map fun t ht => ⟨(PodTemplateSpec.Extends.refl t).metadata, ?_⟩
      rintro s' hs'
      have hs : s.template.bind (·.spec) = some s' := by
        change s.template = some t at ht
        rw [ht]
        exact hs'
      cases hpod.symm.trans hs
      exact ⟨pod, rfl, .refl pod⟩
    · change s.triggers.getD [] <+: (if _ then none else some _ : Option _).getD []
      split
      next h => rwa [List.isEmpty_iff.mp h] at htriggers
      next => exact htriggers

lemma extends_adaptResource (hc : c.isOn name trimImageKey = false) (r : Resource) :
    r.Extends (adaptResource c r) := by
  obtain ⟨m, content⟩ := r
  cases content with
  | deploymentConfig version spec =>
    refine .of_content ?_
    cases spec with
    | none => exact .refl _
    | some s => exact extends_adaptSpec hc version s
  | _ => exact .refl _

end ImageTriggers

end Enricher

namespace StandardEnricher

variable {c : Enricher.Context} {platform : Config.Platform} {e : StandardEnricher}
  {r s : Resource} {before after : Collection}

lemma extends_of_completes (he : e ≠ registrySecrets) (h : e.Completes c r s) : r.Extends s := by
  cases e with
  | naming => exact h ▸ Enricher.Naming.extends_nameResource _ r
  | defaultController =>
    obtain rfl | ⟨t, _, rfl⟩ := h
    · exact .refl _
    · exact Enricher.DefaultController.extends_complete c _ r
  | defaultService =>
    obtain rfl | ⟨d, _, rfl⟩ := h
    · exact .refl _
    · exact Enricher.DefaultService.extends_complete c _ r
  | images =>
    obtain rfl | ⟨_, h⟩ := h
    · exact .refl _
    · exact Enricher.Images.extends_complete h
  | healthChecks =>
    obtain rfl | ⟨_, _, h⟩ := h
    · exact .refl _
    · exact Enricher.HealthChecks.extends_complete h
  | registrySecrets => exact absurd rfl he
  | projectLabels | podAnnotations | volumePermissions | imageTriggers => exact h ▸ .refl r

lemma extends_addMissing (he : e ≠ registrySecrets)
    (h : ((e.enricher c).addMissing platform before).Returns after) : before.Extends after := by
  obtain ⟨kept, extra, rfl, hkept, _⟩ := addMissing_cases h
  exact KeepsItems.append (.of_forall₂ (hkept.imp fun _ _ => extends_of_completes he)) extra

lemma extends_of_adaptResource
    (he : e = imageTriggers →
      c.isOn Enricher.ImageTriggers.name Enricher.ImageTriggers.trimImageKey = false)
    (h : (e.adaptResource c platform r).Returns s) : r.Extends s := by
  cases e with
  | projectLabels =>
    cases Logged.returns_pure.mp h
    exact Enricher.ProjectLabels.extends_labelResource _ r
  | podAnnotations =>
    cases Logged.returns_pure.mp h
    exact Enricher.PodAnnotations.extends_annotateResource r
  | volumePermissions =>
    exact Resource.extends_adaptTemplate Enricher.VolumePermissions.extends_adaptTemplate h
  | imageTriggers =>
    cases Logged.returns_pure.mp h
    split
    · exact Enricher.ImageTriggers.extends_adaptResource (he rfl) r
    · exact .refl r
  | naming | defaultController | defaultService | images | healthChecks | registrySecrets =>
    exact Logged.returns_pure.mp h ▸ .refl r

lemma extends_adapt
    (he : e = imageTriggers →
      c.isOn Enricher.ImageTriggers.name Enricher.ImageTriggers.trimImageKey = false)
    (h : ((e.enricher c).adapt platform before).Returns after) : before.Extends after :=
  KeepsItems.of_forall₂ ((returns_adapt.mp h).imp fun _ _ => extends_of_adaptResource he)

end StandardEnricher

namespace Enrichment

variable {e : Enrichment} {steps : List StandardEnricher} {platform : Config.Platform}
  {before after : Collection}

theorem extends_enrich (hruns : e.Runs steps) (hsecrets : .registrySecrets ∉ steps)
    (htrim : .imageTriggers ∈ steps →
      e.context.isOn Enricher.ImageTriggers.name Enricher.ImageTriggers.trimImageKey = false)
    (h : (e.enrich platform before).Returns after) : before.Extends after := by
  obtain ⟨added, hadded, hadapted⟩ := hruns.returns_enrich.mp h
  have hadd : before.Extends added := by
    refine Logged.returns_foldlM .refl .trans (fun step hstep => ?_) hadded
    exact StandardEnricher.extends_addMissing fun heq => hsecrets (heq ▸ hstep)
  have hlabel : added.Extends _ := Collection.extends_map
    (Labelling.extends_labelResource e.context.policy
      (steps.map (StandardEnricher.enricher e.context)))
  refine (hadd.trans hlabel).trans
    (Logged.returns_foldlM .refl .trans (fun step hstep => ?_) hadapted)
  exact StandardEnricher.extends_adapt fun heq => htrim (heq ▸ hstep)

/-- A project with one image, for which all standard enrichers run but that of registry secrets. -/
def shop : Enrichment :=
  let context : Enricher.Context := {
    project := { (default : Config.Project) with artifactId := "shop", groupId := "org" }
    images := [{ (default : Config.Image) with name := some "acme/shop" }]
    policy := default
    selection := { (default : Config.Selection) with
      excludes := TextSet.ofList ["forge-docker-registry-secret"] }
    envDefaults := none }
  ⟨context, StandardEnricher.all.map (·.enricher context)⟩

/-- A labelled deployment whose only container has an image and no name. -/
def shopManifests : Collection :=
  [{ metadata := { (default : ObjectMeta) with
      name := some "web", labels := some (SortedMap.ofList [("app", "mine")]) }
     content := .deployment (some { (default : DeploymentSpec) with
      template := { metadata := none, spec := some { (default : PodSpec) with
        containers := [{ (default : Container) with image := some "own:1" }] } } }) }]

theorem extends_enrich_shop :
    ∃ after, shop.Runs (StandardEnricher.all.erase .registrySecrets) ∧
      (shop.enrich .openshift shopManifests).Returns after ∧ shopManifests.Extends after := by
  have hruns : shop.Runs (StandardEnricher.all.erase .registrySecrets) := by rfl
  obtain ⟨after, h⟩ : ∃ after, (shop.enrich .openshift shopManifests).Returns after :=
    Logged.exists_returns (by decide +kernel)
  exact ⟨after, hruns, h, extends_enrich hruns (by decide) (fun _ => by decide +kernel) h⟩

end Enrichment
end Manifests
