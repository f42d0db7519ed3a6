import Manifests.Proofs.Pods.Mounts
import Manifests.Proofs.Repetition.Progress

/-!
The pull policies of a generated controller, layer by layer.  Its containers are made by a blueprint
that takes the policy of the build, else the setting for controllers, else the policy of released
versions; where none of these gives one, the enricher of images does.  What follows keeps them.
-/
namespace Manifests

/-! ### Configured policies -/

/-- The pull policies that a cluster knows. -/
def pullPolicies : List String := ["Always", "IfNotPresent", "Never"]

/-- What is configured is absent, blank or a pull policy. -/
def NamesPullPolicy (configured : Option String) : Prop :=
  ∀ s, configured = some s → Text.isBlank s = true ∨ s ∈ pullPolicies

instance (configured : Option String) : Decidable (NamesPullPolicy configured) :=
  decidable_of_iff (∀ s ∈ configured, Text.isBlank s = true ∨ s ∈ pullPolicies) Iff.rfl

lemma nonBlank?_of_mem_pullPolicies : ∀ s ∈ pullPolicies, Text.nonBlank? s = some s := by
  decide

lemma NamesPullPolicy.mem {configured : Option String} {policy : String}
    (h : NamesPullPolicy configured) (hpolicy : configured.bind Text.nonBlank? = some policy) :
    policy ∈ pullPolicies := by
  obtain ⟨s, hs, hnonblank⟩ := Option.bind_eq_some_iff.mp hpolicy
  obtain hblank | hmem := h s hs
  · have hsome := Text.isSome_nonBlank? s
    rw [hnonblank, hblank] at hsome
    cases hsome
  · rw [nonBlank?_of_mem_pullPolicies s hmem] at hnonblank
    exact Option.some.inj hnonblank ▸ hmem

/-- Every place where a build configures a pull policy gives one, if it gives anything. -/
structure Enricher.Context.NamesPullPolicies (c : Enricher.Context) : Prop where
  policy : NamesPullPolicy c.policy.imagePullPolicy
  setting : ∀ enricher ∈ [DefaultController.name, Images.name],
    NamesPullPolicy (c.selection.setting? enricher "pullPolicy")
  property : ∀ enricher ∈ [DefaultController.name, Images.name],
    NamesPullPolicy (c.project.property? (propertyName enricher "pullPolicy"))

/-- The project has a version that is no snapshot. -/
def Config.Project.isReleased (p : Config.Project) : Bool := p.version.isSome && !p.isSnapshot

namespace Enricher

variable {c : Context} {image : Config.Image}

lemma Context.namesPullPolicy_lookup? {enricher key : String} {fallback : Option String}
    (hsetting : NamesPullPolicy (c.selection.setting? enricher key))
    (hproperty : NamesPullPolicy (c.project.property? (propertyName enricher key)))
    (hfallback : NamesPullPolicy fallback) : NamesPullPolicy (c.lookup? enricher key fallback) := by
  intro s hs
  unfold lookup? at hs
  cases h : c.selection.setting? enricher key with
  | some value =>
    rw [h] at hs
    exact hsetting s (h.trans hs)
  | none =>
    rw [h] at hs
    cases h' : c.project.property? (propertyName enricher key) with
    | some value =>
      rw [h'] at hs
      exact hproperty s (h'.trans hs)
    | none =>
      rw [h'] at hs
      exact hfallback s hs

namespace DefaultController

/-- The pull policy of the build, or else the one of the setting, unless both are blank. -/
def configuredPolicy? (c : Context) : Option String :=
  c.policy.pullPolicy?.or ((c.text? name pullPolicyKey).bind Text.nonBlank?)

lemma pullPolicy?_completedPolicy : (completedPolicy c).pullPolicy? = configuredPolicy? c := by
  unfold Config.Policy.pullPolicy? completedPolicy configuredPolicy?
  dsimp only
  cases h : c.policy.pullPolicy? with
  | some policy => exact h
  | none => rfl

/-- A configured policy comes before the one of released versions. -/
lemma pullPolicy?_blueprint : (blueprint c).pullPolicy? = (configuredPolicy? c).or
    (if c.project.isReleased then some Blueprint.pullAlways else none) := by
  have hproject : (blueprint c).project = c.project := rfl
  have hpolicy : (blueprint c).policy.pullPolicy? = configuredPolicy? c :=
    pullPolicy?_completedPolicy
  unfold Blueprint.pullPolicy? Config.Project.isReleased
  rw [hproject, hpolicy]
  cases configuredPolicy? c with
  | some policy => rfl
  | none =>
    cases c.project.version with
    | none => rfl
    | some version => cases c.project.isSnapshot <;> rfl

lemma mem_of_configuredPolicy? {policy : String} (hc : c.NamesPullPolicies)
    (h : configuredPolicy? c = some policy) : policy ∈ pullPolicies := by
  obtain h | ⟨_, h⟩ := Option.or_eq_some_iff.mp h
  · exact hc.policy.mem h
  · refine NamesPullPolicy.mem ?_ h
    refine Context.namesPullPolicy_lookup? (hc.setting name (by simp))
      (hc.property name (by simp)) ?_
    rintro s ⟨⟩
    exact .inr (by decide)

end DefaultController

namespace Images

/-- The pull policy that a container made from an image ends up with. -/
def settledPolicy (c : Context) (image : Config.Image) : String :=
  (DefaultController.blueprint c).pullPolicy?.getD (pullPolicy c image)

lemma settledPolicy_of_configured {policy : String}
    (h : DefaultController.configuredPolicy? c = some policy) : settledPolicy c image = policy := by
  rw [settledPolicy, DefaultController.pullPolicy?_blueprint, h]
  rfl

lemma settledPolicy_of_unconfigured (h : DefaultController.configuredPolicy? c = none) :
    settledPolicy c image =
      if c.project.isReleased then Blueprint.pullAlways else pullPolicy c image := by
  rw [settledPolicy, DefaultController.pullPolicy?_blueprint, h]
  cases c.project.isReleased <;> rfl

lemma mem_of_pullPolicy (hc : c.NamesPullPolicies) (hsetting : HasPullPolicy c) :
    pullPolicy c image ∈ pullPolicies := by
  unfold pullPolicy
  split
  next policy hpolicy =>
    have hnamed : NamesPullPolicy (c.text? name pullPolicyKey) :=
      Context.namesPullPolicy_lookup? (hc.setting name (by simp)) (hc.property name (by simp))
        nofun
    refine (hnamed policy hpolicy).resolve_left ?_
    rw [hsetting policy hpolicy]
    exact Bool.false_ne_true
  next => split <;> decide

lemma mem_of_settledPolicy (hc : c.NamesPullPolicies)
    (h : (DefaultController.configuredPolicy? c).isSome = true ∨
      c.project.isReleased = false ∧ HasPullPolicy c) : settledPolicy c image ∈ pullPolicies := by
  cases hconfigured : DefaultController.configuredPolicy? c with
  | some policy =>
    rw [settledPolicy_of_configured hconfigured]
    exact DefaultController.mem_of_configuredPolicy? hc hconfigured
  | none =>
    rw [hconfigured] at h
    obtain ⟨hreleased, hsetting⟩ := h.resolve_left Bool.false_ne_true
    rw [settledPolicy_of_unconfigured hconfigured, hreleased]
    exact mem_of_pullPolicy hc hsetting

/-- What the blueprint gives is kept, and the gap that it leaves is filled. -/
lemma imagePullPolicy_of_fillContainer {container new : Container}
    (hpolicy : container.imagePullPolicy = (DefaultController.blueprint c).pullPolicy?)
    (h : (fillContainer c image container).Returns new) :
    new.imagePullPolicy = some (settledPolicy c image) := by
  rw [fillContainer, Logged.returns_bind] at h
  obtain ⟨env, _, h⟩ := h
  cases Logged.returns_pure.mp h
  dsimp only
  rw [hpolicy]
  unfold settledPolicy
  cases hgiven : (DefaultController.blueprint c).pullPolicy? with
  | none => rfl
  | some policy =>
    have hblank := Blueprint.isBlank_pullPolicy? hgiven
    exact if_pos (isSome_bind_nonBlank?.mpr ⟨policy, rfl, hblank⟩)

/-- Containers are filled from the images at their places. -/
lemma forall₂_fillContainers {R S : Config.Image → Container → Prop}
    (hfill : ∀ {image container new}, R image container →
      (fillContainer c image container).Returns new → S image new)
    {images : List Config.Image} {containers new : List Container}
    (hR : List.Forall₂ R images containers)
    (h : (fillContainers c images containers).Returns new) : List.Forall₂ S images new := by
  induction hR generalizing new with
  | nil =>
    cases Logged.returns_pure.mp h
    exact .nil
  | cons hcontainer _ ih =>
    simp only [fillContainers, Logged.returns_bind, Logged.returns_pure] at h
    obtain ⟨first, hfirst, rest, hrest, rfl⟩ := h
    exact .cons (hfill hcontainer hfirst) (ih hrest)

end Images

end Enricher

/-! ### Policies of pods -/

namespace Blueprint

variable {b : Blueprint} {volumes : List String} {container new : Container}

lemma imagePullPolicy_container {image : Config.Image}
    (h : (b.container image).Returns container) : container.imagePullPolicy = b.pullPolicy? := by
  simp only [Blueprint.container, Logged.returns_bind, Logged.returns_pure] at h
  obtain ⟨ports, _, env, _, rfl⟩ := h
  rfl

lemma imagePullPolicy_attach (h : (attach volumes container).Returns new) :
    new.imagePullPolicy = container.imagePullPolicy := by
  obtain ⟨_, rfl⟩ := exists_mounts_of_attach h
  rfl

end Blueprint

namespace PodSpec

/-- The pull policies of the containers, in their order. -/
def pullPolicies (s : PodSpec) : List (Option String) := s.containers.map (·.imagePullPolicy)

/-- The policies of the containers have a property, and init containers pull what is missing. -/
structure Pulls (Q : Option String → Prop) (s : PodSpec) : Prop where
  policies : ∀ policy ∈ s.pullPolicies, Q policy
  inits : ∀ container ∈ s.inits, container.imagePullPolicy = some "IfNotPresent"

variable {Q : Option String → Prop} {c : Enricher.Context} {s t : PodSpec}

lemma pulls_default : Pulls Q default where
  policies policy hpolicy := by cases hpolicy
  inits container hcontainer := by cases hcontainer

lemma Pulls.of_eq (hs : s.Pulls Q) (hpolicies : t.pullPolicies = s.pullPolicies)
    (hinits : t.inits = s.inits) : t.Pulls Q :=
  ⟨hpolicies ▸ hs.policies, hinits ▸ hs.inits⟩

lemma pullPolicies_probeLast (liveness readiness : Option Probe) (s : PodSpec) :
    (Enricher.HealthChecks.probeLast liveness readiness s).pullPolicies = s.pullPolicies := by
  unfold Enricher.HealthChecks.probeLast
  split
  next => rfl
  next container hlast =>
    obtain ⟨init, hinit⟩ := List.getLast?_eq_some_iff.mp hlast
    unfold pullPolicies PodSpec.withContainers
    dsimp only
    rw [hinit, List.dropLast_concat, List.map_append, List.map_append]
    rfl

lemma Pulls.probeLast (hs : s.Pulls Q) (liveness readiness : Option Probe) :
    (Enricher.HealthChecks.probeLast liveness readiness s).Pulls Q := by
  refine hs.of_eq (pullPolicies_probeLast liveness readiness s) ?_
  obtain ⟨containers, heq, _⟩ := @Enricher.HealthChecks.probeLast_cases liveness readiness s
  rw [heq]
  rfl

/-- The containers of a new controller have the policy of the blueprint, one for each image. -/
lemma forall₂_of_appends (h : PodSpec.Appends c s) : List.Forall₂ (fun _ container =>
      container.imagePullPolicy = (Enricher.DefaultController.blueprint c).pullPolicy?)
    c.images s.containers ∧ s.inits = [] := by
  have hmade : ∀ {t : PodTemplateSpec},
      ((Enricher.DefaultController.blueprint c).podTemplate c.images).Returns t →
      List.Forall₂ (fun _ container =>
          container.imagePullPolicy = (Enricher.DefaultController.blueprint c).pullPolicy?)
        c.images (t.spec.getD default).containers ∧ (t.spec.getD default).inits = [] := by
    intro t ht
    obtain ⟨hlength, hcontainers⟩ := Blueprint.containers_podTemplate ht
    refine ⟨List.forall₂_iff_get.mpr ⟨hlength.symm, fun i _ hi => ?_⟩, ?_⟩
    · obtain ⟨image, made, hmade, hattached⟩ := hcontainers _ (List.get_mem _ ⟨i, hi⟩)
      exact (Blueprint.imagePullPolicy_attach hattached).trans
        (Blueprint.imagePullPolicy_container hmade)
    · rw [inits, Blueprint.initContainers_podTemplate ht]
      rfl
  cases h with
  | controller template => exact hmade template
  | job template => exact hmade template

end PodSpec

/-! ### Adding to nothing -/

namespace StandardEnricher

variable {c : Enricher.Context} {platform : Config.Platform} {e : StandardEnricher}
  {steps : List StandardEnricher} {Q : Option String → Prop} {r s : Resource}
  {before after : Collection}

/-- A service, or a controller with the pods of the blueprint. -/
def Fresh (c : Enricher.Context) (r : Resource) : Prop :=
  r.kind = .service ∨ r.kind.isController = true ∧ PodSpec.Appends c r.pod

lemma fresh_of_defaultController
    (h : ((defaultController.enricher c).addMissing platform []).Returns after) :
    ∀ r ∈ after, Fresh c r := by
  obtain ⟨hdeclared, _⟩ | ⟨_, _, rfl⟩ | ⟨_, kind, added, hkind, hadded, rfl⟩ :=
    Enricher.DefaultController.addMissing_cases h
  · cases hdeclared
  · simp
  · intro r hr
    cases List.mem_singleton.mp hr
    obtain ⟨_, hadded', _⟩ := Enricher.DefaultController.returns_controller? hadded
    exact .inr ⟨hadded' ▸ Enricher.DefaultController.isController_of_addedKind? hkind,
      Enricher.DefaultController.pod_controller hadded⟩

/-- The enrichers in front of that of images make a controller and a service of nothing. -/
lemma fresh_of_addAll
    (h : (addAll c platform [naming, defaultController, defaultService] []).Returns after) :
    ∀ r ∈ after, Fresh c r := by
  rw [addAll_front_nil, Logged.returns_bind] at h
  obtain ⟨made, hmade, hservice⟩ := h
  refine forall_of_addMissing hservice (fun {r s} hrs hr => ?_) (fun r hr => ?_)
    (fresh_of_defaultController hmade)
  · by_cases hkind : r.kind = .service
    · exact .inl ((kind_of_completes hrs).trans hkind)
    · obtain rfl | ⟨_, _, rfl⟩ := hrs
      · exact hr
      · rwa [Enricher.DefaultService.complete_of_kind hkind]
  · exact .inl (kind_of_appends (by decide) hr).2

/-- The policy that the container of some image ends up with. -/
def Settled (c : Enricher.Context) (policy : Option String) : Prop :=
  ∃ image ∈ c.images, policy = some (Enricher.Images.settledPolicy c image)

lemma pulls_of_fillContainers {s t : PodSpec} {containers : List Container}
    (hs : PodSpec.Appends c s)
    (h : (Enricher.Images.fillContainers c c.images s.containers).Returns containers)
    (ht : t = s.withContainers containers) : t.Pulls (Settled c) := by
  obtain ⟨hpolicies, hinits⟩ := PodSpec.forall₂_of_appends hs
  have hfilled := Enricher.Images.forall₂_fillContainers
    Enricher.Images.imagePullPolicy_of_fillContainer hpolicies h
  subst ht
  constructor
  · refine List.forall_mem_map.mpr ?_
    exact forall_of_forall₂ (fun hsettled himage => ⟨_, himage, hsettled⟩) hfilled fun _ => id
  · intro container hcontainer
    change container ∈ s.inits at hcontainer
    rw [hinits] at hcontainer
    cases hcontainer

lemma pulls_of_images (hbefore : ∀ r ∈ before, Fresh c r)
    (h : ((images.enricher c).addMissing platform before).Returns after) :
    ∀ r ∈ after, r.pod.Pulls (Settled c) := by
  have hservice : ∀ {r : Resource}, r.kind = .service → r.pod.Pulls (Settled c) := by
    intro r hr
    rw [Resource.pod_of_podless (hr ▸ by decide)]
    exact PodSpec.pulls_default
  dsimp only [enricher, Enricher.Images.enricher] at h
  split at h
  next hempty =>
    cases Logged.returns_pure.mp h
    intro r hr
    obtain hkind | ⟨_, happends⟩ := hbefore r hr
    · exact hservice hkind
    · have hfilled : (Enricher.Images.fillContainers c c.images r.pod.containers).Returns
          r.pod.containers := by
        rw [List.isEmpty_iff.mp hempty]
        exact Logged.returns_pure.mpr rfl
      exact pulls_of_fillContainers happends hfilled rfl
  next hne =>
    have himages : c.images.isEmpty = false := by simpa using hne
    refine Logged.forall_of_returns_mapM (P := Fresh c) (fun {r s} hrs hr => ?_) h hbefore
    obtain hkind | ⟨hcontroller, happends⟩ := hr
    · exact hservice ((kind_of_completes (e := images) (.inr ⟨himages, hrs⟩)).trans hkind)
    · obtain ⟨rfl, hnot⟩ | ⟨containers, hcontainers, hpod⟩ := Enricher.Images.pod_of_complete hrs
      · rw [hcontroller] at hnot
        cases hnot
      · exact pulls_of_fillContainers happends hcontainers hpod

/-- Behind the enrichers of controllers and of images, no policy is changed. -/
lemma pulls_of_addAll (hcontroller : defaultController ∉ steps) (himages : images ∉ steps)
    (h : (addAll c platform steps before).Returns after)
    (hbefore : ∀ r ∈ before, r.pod.Pulls Q) : ∀ r ∈ after, r.pod.Pulls Q := by
  refine Logged.returns_foldlM (R := fun b d : Collection =>
    (∀ r ∈ b, r.pod.Pulls Q) → ∀ r ∈ d, r.pod.Pulls Q) (fun _ => id)
    (fun hab hbc => hbc ∘ hab) (fun step hstep _ _ hrun => ?_) h hbefore
  have hne : step ≠ defaultController := fun heq => hcontroller (heq ▸ hstep)
  have hne' : step ≠ images := fun heq => himages (heq ▸ hstep)
  refine forall_of_addMissing hrun (fun hrs hr => ?_) (fun r hr => ?_)
  · obtain hpod | ⟨liveness, readiness, hpod⟩ := probed_of_completes hne hne' hrs <;> rw [hpod]
    · exact hr
    · exact hr.probeLast liveness readiness
  · rw [Resource.pod_of_podless ((kind_of_appends hne hr).2 ▸ by decide)]
    exact PodSpec.pulls_default

/-- All that is added to nothing has settled policies. -/
lemma pulls_of_addAll_nil (h : (addAll c platform all []).Returns after) :
    ∀ r ∈ after, r.pod.Pulls (Settled c) := by
  rw [addAll_all, Logged.returns_bind] at h
  obtain ⟨fresh, hfresh, h⟩ := h
  obtain ⟨filled, hfilled, h⟩ := Logged.returns_bind.mp h
  exact pulls_of_addAll (by decide) (by decide) h
    (pulls_of_images (fresh_of_addAll hfresh) hfilled)

end StandardEnricher

/-! ### Adapting -/

lemma Enricher.ImageTriggers.pullPolicies_addTriggers {c : Context}
    (triggers : List DeploymentTrigger) (containers : List Container) :
    (addTriggers c triggers containers).1.map (·.imagePullPolicy) =
      containers.map (·.imagePullPolicy) := by
  have hsame := forall₂_addTriggers (c := c)
    (R := fun x y => x.imagePullPolicy = y.imagePullPolicy) (fun _ => rfl) (fun _ => rfl) triggers
    containers
  rw [← List.forall₂_eq_eq_eq, List.forall₂_map_left_iff, List.forall₂_map_right_iff]
  exact hsame.flip.imp fun _ _ h => h.symm

namespace StandardEnricher

variable {c : Enricher.Context} {platform : Config.Platform} {e : StandardEnricher}
  {Q : Option String → Prop} {r s : Resource}

lemma pulls_of_adaptResource (h : (e.adaptResource c platform r).Returns s)
    (hr : r.pod.Pulls Q) : s.pod.Pulls Q := by
  by_cases hvolumes : e = volumePermissions
  · subst hvolumes
    obtain hpod | ⟨container, hcontainer, hpod⟩ :=
      Enricher.VolumePermissions.pod_adaptResource h <;> rw [hpod]
    · exact hr
    · refine ⟨hr.policies, fun init hinit => ?_⟩
      obtain hinit | hinit := List.mem_append.mp hinit
      · exact hr.inits init hinit
      · cases List.mem_singleton.mp hinit
        obtain ⟨_, _, hcontainer⟩ := Except.bind_eq_ok.mp hcontainer
        cases hcontainer
        rfl
  by_cases htriggers : e = imageTriggers
  · subst htriggers
    cases Logged.returns_pure.mp h
    split
    next =>
      obtain hself | ⟨pod, hpod, hnew, _⟩ := Enricher.ImageTriggers.adaptResource_cases (c := c) r
      · rwa [hself]
      · rw [Resource.pod_eq hpod] at hr
        rw [Resource.pod_eq hnew]
        exact hr.of_eq (Enricher.ImageTriggers.pullPolicies_addTriggers _ _) rfl
    next => exact hr
  · have hpods := samePods_of_returns hvolumes htriggers h
    rwa [Resource.pod, hpods.podSpec]

end StandardEnricher

/-! ### Whole enrichments -/

namespace Enrichment

open Enricher (Context)

variable {e : Enrichment} {platform : Config.Platform} {after : Collection}

lemma pulls_enrich (hruns : e.Runs StandardEnricher.all)
    (h : (e.enrich platform []).Returns after) :
    ∀ r ∈ after, r.pod.Pulls (StandardEnricher.Settled e.context) := by
  obtain ⟨added, hadded, hadapted⟩ := hruns.returns_enrich.mp h
  have hpulls := StandardEnricher.pulls_of_addAll_nil hadded
  apply Collection.forall_of_adapt (fun _ => StandardEnricher.pulls_of_adaptResource) hadapted
  intro r hr
  obtain ⟨old, hold, rfl⟩ := List.mem_map.mp hr
  rw [Labelling.pod_labelResource]
  exact hpulls old hold

/-- Where no other pull policy is configured than those that a cluster knows, all containers of the
controller that is made of nothing have one of them if some policy is configured for it; likewise if
the project is not released and the setting for images is not blank.  With no policy configured, the
containers of a released project get the policy of released versions. -/
theorem imagePullPolicy_enrich {files : FileTree} {b : Config.Build} (hb : b.enricher.IsPlain)
    (he : ofContext files StandardEnricher.registry (.ofBuild files b) = .ok e)
    (hpolicies : (Context.ofBuild files b).NamesPullPolicies)
    (h : (e.enrich platform []).Returns after) :
    ((Enricher.DefaultController.configuredPolicy? (.ofBuild files b)).isSome = true ∨
        b.project.isReleased = false ∧ Enricher.Images.HasPullPolicy (.ofBuild files b) →
      ∀ r ∈ after, ∀ s, r.podSpec? = some s → ∀ container ∈ s.containers ++ s.inits,
        ∃ policy ∈ pullPolicies, container.imagePullPolicy = some policy) ∧
    (Enricher.DefaultController.configuredPolicy? (.ofBuild files b) = none →
      b.project.isReleased = true →
      ∀ r ∈ after, ∀ s, r.podSpec? = some s → ∀ container ∈ s.containers,
        container.imagePullPolicy = some "PullAlways") := by
  rw [ofContext_of_isPlain (c := .ofBuild files b) hb] at he
  cases he
  have hpulls := pulls_enrich (runs_all_of_isPlain (c := .ofBuild files b) hb) h
  have hsettled : ∀ r ∈ after, ∀ s, r.podSpec? = some s → ∀ container ∈ s.containers,
      ∃ image, container.imagePullPolicy =
        some (Enricher.Images.settledPolicy (.ofBuild files b) image) := by
    intro r hr s hs container hcontainer
    have hpod := (hpulls r hr).policies
    rw [Resource.pod_eq hs] at hpod
    obtain ⟨image, _, himage⟩ := hpod _ (List.mem_map_of_mem hcontainer)
    exact ⟨image, himage⟩
  constructor
  · intro hgiven r hr s hs container hcontainer
    obtain hcontainer | hinit := List.mem_append.mp hcontainer
    · obtain ⟨image, himage⟩ := hsettled r hr s hs container hcontainer
      exact ⟨_, Enricher.Images.mem_of_settledPolicy hpolicies hgiven, himage⟩
    · have hpod := (hpulls r hr).inits
      rw [Resource.pod_eq hs] at hpod
      exact ⟨_, by decide, hpod container hinit⟩
  · intro hconfigured hreleased r hr s hs container hcontainer
    obtain ⟨image, himage⟩ := hsettled r hr s hs container hcontainer
    have hproject : (Context.ofBuild files b).project.isReleased = true := hreleased
    rw [himage, Enricher.Images.settledPolicy_of_unconfigured hconfigured, hproject]
    rfl

/-- A released project with one image and a setting for controllers. -/
def releasing (policy : String) : Config.Build where
  project := { (default : Config.Project) with
    artifactId := "shop", groupId := "org", version := some "1.0.0" }
  images := [{ (default : Config.Image) with name := some "org/web" }]
  resources := default
  enricher := (default : Config.Selection).withSetting Enricher.DefaultController.name
    Enricher.DefaultController.pullPolicyKey.name policy
  platform := .kubernetes

def releasingEnrichment (policy : String) : Enrichment :=
  ⟨.ofBuild default (releasing policy),
    StandardEnricher.all.map (StandardEnricher.enricher (.ofBuild default (releasing policy)))⟩

lemma ofContext_releasing (policy : String) :
    ofContext default StandardEnricher.registry (.ofBuild default (releasing policy)) =
      .ok (releasingEnrichment policy) :=
  ofContext_of_isPlain (c := .ofBuild default (releasing policy)) ⟨rfl, rfl, rfl⟩

/-- A container in what a computation returns. -/
lemma exists_container_of_any {x : Logged Collection} {p : Container → Bool}
    (h : x.outcome.toOption.any (fun after => after.any fun r =>
      r.podSpec?.any fun s => s.containers.any p) = true) :
    ∃ after r s container, x.Returns after ∧ r ∈ after ∧ r.podSpec? = some s ∧
      container ∈ s.containers ∧ p container = true := by
  obtain ⟨after, hx, hafter⟩ := Logged.exists_returns_of_any h
  obtain ⟨r, hr, hpod⟩ := List.any_eq_true.mp hafter
  cases hs : r.podSpec? with
  | none =>
    rw [hs] at hpod
    cases hpod
  | some s =>
    rw [hs] at hpod
    obtain ⟨container, hcontainer, hp⟩ := List.any_eq_true.mp hpod
    exact ⟨after, r, s, container, hx, hr, hs, hcontainer, hp⟩

/-- A setting for controllers is used; where it is blank, the policy of released versions is. -/
theorem imagePullPolicy_enrich_releasing :
    (releasing "Never").enricher.IsPlain ∧ (releasing "").enricher.IsPlain ∧
    (Context.ofBuild default (releasing "Never")).NamesPullPolicies ∧
    (Context.ofBuild default (releasing "")).NamesPullPolicies ∧
    (∃ after r s, ((releasingEnrichment "Never").enrich .kubernetes []).Returns after ∧
      r ∈ after ∧ r.podSpec? = some s ∧ s.containers ≠ [] ∧
      ∀ container ∈ s.containers ++ s.inits,
        ∃ policy ∈ pullPolicies, container.imagePullPolicy = some policy) ∧
    ∃ after r s, ((releasingEnrichment "").enrich .kubernetes []).Returns after ∧
      r ∈ after ∧ r.podSpec? = some s ∧ s.containers ≠ [] ∧
      ∀ container ∈ s.containers, container.imagePullPolicy = some "PullAlways" := by
  have hplain : ∀ policy, (releasing policy).enricher.IsPlain := fun _ => ⟨rfl, rfl, rfl⟩
  have hnever : (Context.ofBuild default (releasing "Never")).NamesPullPolicies :=
    ⟨by decide +kernel, by decide +kernel, by decide +kernel⟩
  have hblank : (Context.ofBuild default (releasing "")).NamesPullPolicies :=
    ⟨by decide +kernel, by decide +kernel, by decide +kernel⟩
  obtain ⟨after, r, s, container, h, hr, hs, hcontainer, _⟩ := exists_container_of_any
    (x := (releasingEnrichment "Never").enrich .kubernetes []) (p := fun _ => true)
    (by decide +kernel)
  obtain ⟨after', r', s', container', h', hr', hs', hcontainer', _⟩ := exists_container_of_any
    (x := (releasingEnrichment "").enrich .kubernetes []) (p := fun _ => true)
    (by decide +kernel)
  have hsettled := (imagePullPolicy_enrich (hplain _) (ofContext_releasing _) hnever h).1
    (.inl (by decide +kernel)) r hr s hs
  have hreleased := (imagePullPolicy_enrich (hplain _) (ofContext_releasing _) hblank h').2
    (by decide +kernel) (by decide +kernel) r' hr' s' hs'
  exact ⟨hplain _, hplain _, hnever, hblank,
    ⟨after, r, s, h, hr, hs, List.ne_nil_of_mem hcontainer, hsettled⟩,
    after', r', s', h', hr', hs', List.ne_nil_of_mem hcontainer', hreleased⟩

/-- What a released project gets is no policy that a cluster knows. -/
theorem exists_imagePullPolicy_notMem :
    (releasing "").enricher.IsPlain ∧
    ofContext default StandardEnricher.registry (.ofBuild default (releasing "")) =
      .ok (releasingEnrichment "") ∧
    (Context.ofBuild default (releasing "")).NamesPullPolicies ∧
    ∃ after, ((releasingEnrichment "").enrich .kubernetes []).Returns after ∧
      ∃ r ∈ after, ∃ s, r.podSpec? = some s ∧ ∃ container ∈ s.containers,
        ∀ policy ∈ pullPolicies, container.imagePullPolicy ≠ some policy := by
  obtain ⟨after, r, s, container, h, hr, hs, hcontainer, hpolicy⟩ := exists_container_of_any
    (x := (releasingEnrichment "").enrich .kubernetes [])
    (p := fun container =>
      decide (∀ policy ∈ pullPolicies, container.imagePullPolicy ≠ some policy))
    (by decide +kernel)
  exact ⟨⟨rfl, rfl, rfl⟩, ofContext_releasing "",
    ⟨by decide +kernel, by decide +kernel, by decide +kernel⟩, after, h, r, hr, s, hs, container,
    hcontainer, of_decide_eq_true hpolicy⟩

end Enrichment

end Manifests
