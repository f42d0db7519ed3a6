import Manifests.Proofs.Pods.Defaults

/-! Controllers that are declared without a specification.  The enricher of controllers makes a pod
template for a deployment alone and fills it with the defaults of the build; the other kinds get
theirs from the enricher of images, which fills in no more than the images say. -/
namespace Manifests

namespace Enricher

lemma RegistrySecrets.returns_complete_self {c : Context} {r : Resource} (h : r.kind ≠ .secret) :
    (complete c r).Returns r := by
  unfold complete
  split
  next hcontent _ => exact absurd (congrArg Content.kind hcontent) h
  next => exact Logged.returns_pure.mpr rfl

/-- The kinds that declare a controller are those that get probes. -/
lemma HealthChecks.isDeployOrReplica_of_declaring :
    ∀ kind ∈ DefaultController.declaringKinds, kind.isDeployOrReplica = true := by decide

/-- Filling a resource from the images, if there are any. -/
def Images.Fills (c : Context) (r s : Resource) : Prop :=
  if c.images.isEmpty then r = s else (complete c r).Returns s

lemma Images.fills_iff {c : Context} {r s : Resource} {pod : PodSpec} {containers : List Container}
    (hr : r.kind.isController = true) (hpod : r.podSpec?.getD default = pod)
    (hfilled : (fillContainers c c.images pod.containers).Returns containers) :
    Fills c r s ↔ (if c.images.isEmpty then r
      else r.ensureTemplate.modifyPodSpec (PodSpec.withContainers containers)) = s := by
  subst hpod
  unfold Fills
  split
  next => rfl
  next =>
    constructor
    · intro h
      obtain ⟨hcontroller, _⟩ | ⟨_, found, hfound, rfl⟩ := complete_cases h
      · rw [hr] at hcontroller
        cases hcontroller
      · rw [hfilled.unique hfound]
    · rintro rfl
      rw [complete, if_pos hr, Logged.returns_bind]
      refine ⟨containers, ?_, Logged.returns_pure.mpr rfl⟩
      rw [Resource.podSpec?_ensureTemplate hr]
      exact hfilled

end Enricher

namespace StandardEnricher

variable {c : Enricher.Context} {platform : Config.Platform} {e : StandardEnricher}
  {steps : List StandardEnricher} {r : Resource} {services before after : Collection}

/-! ### Steps on a controller in front of services -/

lemma returns_addAll_cons : (addAll c platform (e :: steps) before).Returns after ↔
    ∃ next, ((e.enricher c).addMissing platform before).Returns next ∧
      (addAll c platform steps next).Returns after := Logged.returns_bind

/-- A run whose first step makes collections in a known way. -/
lemma returns_addAll_of_step {ι : Type} {P : ι → Prop} {f : ι → Collection}
    (h : ∀ {next}, ((e.enricher c).addMissing platform before).Returns next ↔
      ∃ x, P x ∧ f x = next) :
    (addAll c platform (e :: steps) before).Returns after ↔
      ∃ x, P x ∧ (addAll c platform steps (f x)).Returns after := by
  rw [returns_addAll_cons]
  constructor
  · rintro ⟨_, hnext, hafter⟩
    obtain ⟨x, hx, rfl⟩ := h.mp hnext
    exact ⟨x, hx, hafter⟩
  · rintro ⟨x, hx, hafter⟩
    exact ⟨f x, h.mpr ⟨x, hx, rfl⟩, hafter⟩

lemma returns_naming : ((naming.enricher c).addMissing platform [r]).Returns after ↔
    [Enricher.Naming.nameResource
      (c.resourceName Enricher.Naming.name Enricher.Naming.nameKey) r] = after :=
  Logged.returns_pure

lemma returns_defaultController (hr : r.kind ∈ Enricher.DefaultController.declaringKinds) :
    ((defaultController.enricher c).addMissing platform [r]).Returns after ↔
      ∃ t, ((Enricher.DefaultController.blueprint c).podTemplate c.images).Returns t ∧
        [Enricher.DefaultController.complete c (t.spec.getD default) r] = after := by
  have hkind : Collection.hasKind [r] Enricher.DefaultController.declaringKinds = true := by
    simpa [Collection.hasKind] using hr
  dsimp only [enricher, Enricher.DefaultController.enricher]
  rw [if_pos hkind, Enricher.DefaultController.completeAll, Logged.returns_bind]
  exact exists_congr fun t => and_congr_right fun _ => Logged.returns_pure

lemma returns_defaultService (hr : r.kind ≠ .service) :
    ((defaultService.enricher c).addMissing platform [r]).Returns after ↔
      ∃ declared, Enricher.DefaultService.declaration c = .ok declared ∧
        r :: declared.service?.toList = after := by
  have hkind : Collection.hasKind [r] [.service] = false := by
    simpa [Collection.hasKind] using hr
  dsimp only [enricher, Enricher.DefaultService.enricher]
  rw [Enricher.DefaultService.addMissing, Logged.returns_bind]
  refine exists_congr fun declared => and_congr_right fun _ => ?_
  dsimp only
  rw [if_neg (by simp [hkind])]
  split
  next hnone =>
    rw [hnone]
    exact Logged.returns_pure
  next service hservice =>
    have hadded := Enricher.DefaultService.returns_addService [r]
      (Enricher.DefaultService.headless_of_service? hservice)
    rw [hservice]
    exact ⟨hadded.unique, fun h => h ▸ hadded⟩

/-- A list of computations whose later items stay as they are. -/
lemma returns_mapM_cons {f : Resource → Logged Resource} (h : ∀ q ∈ services, (f q).Returns q) :
    ((r :: services).mapM f).Returns after ↔ ∃ s, (f r).Returns s ∧ s :: services = after := by
  rw [List.mapM_cons, Logged.returns_bind]
  refine exists_congr fun s => and_congr_right fun _ => ?_
  rw [Logged.returns_bind]
  constructor
  · rintro ⟨rest, hrest, h'⟩
    rw [hrest.unique (mapM_self h)] at h'
    exact Logged.returns_pure.mp h'
  · rintro rfl
    exact ⟨services, mapM_self h, Logged.returns_pure.mpr rfl⟩

lemma returns_images (hservices : ∀ q ∈ services, q.kind = .service) :
    ((images.enricher c).addMissing platform (r :: services)).Returns after ↔
      ∃ s, Enricher.Images.Fills c r s ∧ s :: services = after := by
  unfold Enricher.Images.Fills
  dsimp only [enricher, Enricher.Images.enricher]
  split
  next => simp
  next =>
    refine returns_mapM_cons fun q hq => ?_
    rw [Enricher.Images.complete, hservices q hq]
    exact Logged.returns_pure.mpr rfl

lemma returns_healthChecks (hr : r.kind ∈ Enricher.DefaultController.declaringKinds)
    (hservices : ∀ q ∈ services, q.kind = .service) :
    ((healthChecks.enricher c).addMissing platform (r :: services)).Returns after ↔
      ∃ probes : Option Probe × Option Probe,
        (Config.ProbeDeclaration.buildOptional c.policy.liveness = .ok probes.1 ∧
          Config.ProbeDeclaration.buildOptional c.policy.readiness = .ok probes.2) ∧
        r.modifyPodSpec (Enricher.HealthChecks.probeLast probes.1 probes.2) :: services =
          after := by
  have hkind := Enricher.HealthChecks.isDeployOrReplica_of_declaring _ hr
  dsimp only [enricher, Enricher.HealthChecks.enricher]
  rw [Enricher.HealthChecks.addMissing, Logged.returns_bind, Prod.exists]
  refine exists_congr fun liveness => ?_
  simp only [Logged.returns_bind, and_assoc]
  rw [← exists_and_left]
  refine exists_congr fun readiness => and_congr_right fun _ => and_congr_right fun _ => ?_
  split
  next hnone =>
    simp only [Bool.and_eq_true, Option.isNone_iff_eq_none] at hnone
    obtain ⟨rfl, rfl⟩ := hnone
    rw [Resource.modifyPodSpec_eq_self (Enricher.HealthChecks.completed_none r hkind)]
    exact Logged.returns_pure
  next =>
    rw [returns_mapM_cons fun q hq => ?_]
    · simp only [Enricher.HealthChecks.returns_complete, if_pos hkind, exists_eq_left']
    · rw [Enricher.HealthChecks.returns_complete, hservices q hq]
      rfl

lemma returns_registrySecrets (hr : r.kind ≠ .secret)
    (hservices : ∀ q ∈ services, q.kind = .service) :
    ((registrySecrets.enricher c).addMissing platform (r :: services)).Returns after ↔
      r :: services = after := by
  have hself : ((r :: services).mapM (Enricher.RegistrySecrets.complete c)).Returns
      (r :: services) := by
    refine mapM_self (List.forall_mem_cons.mpr ⟨?_, fun q hq => ?_⟩)
    · exact Enricher.RegistrySecrets.returns_complete_self hr
    · refine Enricher.RegistrySecrets.returns_complete_self ?_
      rw [hservices q hq]
      decide
  exact ⟨hself.unique, fun h => h ▸ hself⟩

lemma returns_addAll_behind_probes (hr : r.kind ≠ .secret)
    (hservices : ∀ q ∈ services, q.kind = .service) :
    (addAll c platform [projectLabels, podAnnotations, volumePermissions, imageTriggers,
      registrySecrets] (r :: services)).Returns after ↔ r :: services = after := by
  simp only [returns_addAll_cons]
  constructor
  · rintro ⟨_, h₁, _, h₂, _, h₃, _, h₄, _, h₅, h⟩
    cases Logged.returns_pure.mp h₁
    cases Logged.returns_pure.mp h₂
    cases Logged.returns_pure.mp h₃
    cases Logged.returns_pure.mp h₄
    cases (returns_registrySecrets hr hservices).mp h₅
    exact Logged.returns_pure.mp h
  · intro h
    exact ⟨_, Logged.returns_pure.mpr rfl, _, Logged.returns_pure.mpr rfl, _,
      Logged.returns_pure.mpr rfl, _, Logged.returns_pure.mpr rfl, _,
      (returns_registrySecrets hr hservices).mpr rfl, Logged.returns_pure.mpr h⟩

/-! ### Whole runs -/

lemma kind_of_fills {s : Resource} (h : Enricher.Images.Fills c r s) : s.kind = r.kind := by
  unfold Enricher.Images.Fills at h
  split at h
  next => rw [h]
  next hne => exact kind_of_completes (e := images) (.inr ⟨by simpa using hne, h⟩)

/-- What adding to a single declared controller comes to. -/
lemma returns_addAll_declared (hr : r.kind ∈ Enricher.DefaultController.declaringKinds) :
    (addAll c platform all [r]).Returns after ↔
      ∃ t, ((Enricher.DefaultController.blueprint c).podTemplate c.images).Returns t ∧
      ∃ declared, Enricher.DefaultService.declaration c = .ok declared ∧
      ∃ s, Enricher.Images.Fills c (Enricher.DefaultController.complete c (t.spec.getD default)
        (Enricher.Naming.nameResource
          (c.resourceName Enricher.Naming.name Enricher.Naming.nameKey) r)) s ∧
      ∃ probes : Option Probe × Option Probe,
        (Config.ProbeDeclaration.buildOptional c.policy.liveness = .ok probes.1 ∧
          Config.ProbeDeclaration.buildOptional c.policy.readiness = .ok probes.2) ∧
        s.modifyPodSpec (Enricher.HealthChecks.probeLast probes.1 probes.2) ::
          declared.service?.toList = after := by
  generalize hnamed : Enricher.Naming.nameResource
    (c.resourceName Enricher.Naming.name Enricher.Naming.nameKey) r = named
  have hkind : named.kind = r.kind := kind_of_completes (e := naming) (c := c) hnamed.symm
  have hcomplete : ∀ spec, (Enricher.DefaultController.complete c spec named).kind = r.kind :=
    fun spec => (Enricher.DefaultController.extends_complete c spec named).kind.trans hkind
  have hservices : ∀ d : Config.ServiceDeclaration, ∀ q ∈ d.service?.toList, q.kind = .service :=
    fun d q hq => Enricher.DefaultService.kind_of_service? (Option.mem_toList.mp hq)
  have hne : ∀ kind ∈ Enricher.DefaultController.declaringKinds,
      kind ≠ .service ∧ kind ≠ .secret := by decide
  -- One step after the other, each on the controller in front.
  change (addAll c platform (naming :: _) [r]).Returns after ↔ _
  simp only [returns_addAll_cons (e := naming), returns_naming, hnamed, exists_eq_left']
  rw [returns_addAll_of_step (returns_defaultController (hkind ▸ hr))]
  refine exists_congr fun t => and_congr_right fun _ => ?_
  rw [returns_addAll_of_step (returns_defaultService (hcomplete _ ▸ (hne _ hr).1))]
  refine exists_congr fun declared => and_congr_right fun _ => ?_
  rw [returns_addAll_of_step (returns_images (hservices declared))]
  refine exists_congr fun s => and_congr_right fun hs => ?_
  have hfilled : s.kind = r.kind := (kind_of_fills hs).trans (hcomplete _)
  rw [returns_addAll_of_step (returns_healthChecks (hfilled ▸ hr) (hservices declared))]
  refine exists_congr fun probes => and_congr_right fun _ => ?_
  refine returns_addAll_behind_probes ?_ (hservices declared)
  rw [Resource.kind_modifyPodSpec, hfilled]
  exact (hne _ hr).2

end StandardEnricher

/-! ### Pods of controllers without a specification -/

/-- The specification is absent, for a kind that has one. -/
def Resource.Unspecified (r : Resource) : Prop := r.content.envelope = r.content

lemma Resource.Unspecified.podSpec?_eq_none {r : Resource} (h : r.Unspecified) :
    r.podSpec? = none := by
  obtain ⟨m, content⟩ := r
  cases content with
  | service | secret | configMap => rfl
  | _ =>
    cases h
    rfl

namespace Enricher

variable {c : Context} {r s : Resource} {t : PodTemplateSpec} {containers : List Container}

lemma DefaultController.podSpec?_ensureDeployment (replicas : Int32) (h : r.kind = .deployment) :
    (ensureDeployment replicas r).podSpec? = some (r.podSpec?.getD default) := by
  obtain ⟨m, content⟩ := r
  cases content with
  | deployment spec => cases spec <;> rfl
  | _ => cases h

lemma DefaultController.isController_of_declaring :
    ∀ kind ∈ declaringKinds, kind.isController = true := by decide

/-- Only a deployment gets a pod specification where it has none. -/
lemma DefaultController.podSpec?_complete (spec : PodSpec) (h : r.podSpec? = none) :
    (complete c spec r).podSpec? = if r.kind = .deployment
      then some ((default : PodSpec).fill spec (defaultName c)) else none := by
  rw [complete, Resource.podSpec?_modifyPodSpec]
  split
  next hkind =>
    rw [podSpec?_ensureDeployment _ hkind, h]
    rfl
  next hkind =>
    rw [ensureDeployment_eq_self fun hdeployment => absurd hdeployment hkind, h]
    rfl

lemma Images.podSpec?_of_fills {pod : PodSpec} (hr : r.kind.isController = true)
    (hpod : r.podSpec?.getD default = pod)
    (hfilled : (fillContainers c c.images pod.containers).Returns containers)
    (h : Fills c r s) : s.podSpec? =
      if c.images.isEmpty then r.podSpec? else some (pod.withContainers containers) := by
  rw [← (fills_iff hr hpod hfilled).mp h]
  split
  next => rfl
  next =>
    rw [Resource.podSpec?_modifyPodSpec, Resource.podSpec?_ensureTemplate hr, hpod]
    rfl

/-- What fills a controller without a specification: a deployment has the pods of the blueprint
then, any other one the same pods without defaults, as far as there are images. -/
lemma exists_podSpec_of_fills
    (ht : ((DefaultController.blueprint c).podTemplate c.images).Returns t) :
    ∃ pod : PodSpec, pod.containers.length = c.images.length ∧
      ∀ r : Resource, r.kind.isController = true → r.podSpec? = none →
        (∃ s, Images.Fills c (DefaultController.complete c (t.spec.getD default) r) s) ∧
        ∀ s, Images.Fills c (DefaultController.complete c (t.spec.getD default) r) s →
          s.podSpec? = if r.kind = .deployment then some pod
            else if c.images.isEmpty then none else some (pod.withoutDefaults c) := by
  obtain ⟨containers, serviceAccountName, volumes, hmade, hspec⟩ :=
    Blueprint.exists_spec_podTemplate ht
  obtain ⟨filled, hlength, hfilled, hplain⟩ := Images.exists_filled_of_forall₂ hmade
  rw [hspec]
  refine ⟨{ (default : PodSpec) with containers := filled, serviceAccountName, volumes }, hlength,
    fun r hr hnone => ?_⟩
  have hcontroller : ∀ spec, (DefaultController.complete c spec r).kind.isController = true :=
    fun spec => (DefaultController.extends_complete c spec r).kind ▸ hr
  have hpod := DefaultController.podSpec?_complete (c := c)
    { (default : PodSpec) with containers, serviceAccountName, volumes } hnone
  rw [PodSpec.fill_default] at hpod
  split at hpod
  next hkind =>
    have hgiven := congrArg (Option.getD · default) hpod
    refine ⟨⟨_, (Images.fills_iff (hcontroller _) hgiven hfilled).mpr rfl⟩, fun s hs => ?_⟩
    rw [Images.podSpec?_of_fills (hcontroller _) hgiven hfilled hs, hpod, if_pos hkind]
    split
    next hempty =>
      -- Without images there are no containers, before or after.
      rw [List.isEmpty_iff] at hempty
      rw [hempty] at hmade hlength
      cases hmade
      rw [List.eq_nil_of_length_eq_zero hlength]
    next => rfl
  next hkind =>
    have hgiven := congrArg (Option.getD · default) hpod
    refine ⟨⟨_, (Images.fills_iff (hcontroller _) hgiven hplain).mpr rfl⟩, fun s hs => ?_⟩
    rw [Images.podSpec?_of_fills (hcontroller _) hgiven hplain hs, hpod, if_neg hkind]
    rfl

end Enricher

namespace StandardEnricher

variable {c : Enricher.Context} {platform : Config.Platform} {r : Resource} {after : Collection}

/-- A run that completes one controller without a specification completes every one, each with the
pods of one deployment up to the defaults. -/
lemma exists_podSpec_of_addAll (hr : r.kind ∈ Enricher.DefaultController.declaringKinds)
    (h : (addAll c platform all [r]).Returns after) : ∃ pod : PodSpec,
      ∀ q : Resource, q.kind ∈ Enricher.DefaultController.declaringKinds → q.Unspecified →
        (∃ after, (addAll c platform all [q]).Returns after) ∧
        ∀ after, (addAll c platform all [q]).Returns after → ∃ s, after[0]? = some s ∧
          s.podSpec? = if q.kind = .deployment then some pod
            else if c.images.isEmpty then none else some (pod.withoutDefaults c) := by
  obtain ⟨t, ht, declared, hdeclared, _, _, ⟨liveness, readiness⟩, hprobes, _⟩ :=
    (returns_addAll_declared hr).mp h
  obtain ⟨pod, hlength, hpod⟩ := Enricher.exists_podSpec_of_fills ht
  refine ⟨Enricher.HealthChecks.probeLast liveness readiness pod, fun q hq hunspecified => ?_⟩
  have hcontent := Enricher.Naming.content_nameResource
    (c.resourceName Enricher.Naming.name Enricher.Naming.nameKey) q
  have hkind : (Enricher.Naming.nameResource (c.resourceName Enricher.Naming.name
      Enricher.Naming.nameKey) q).kind = q.kind := congrArg Content.kind hcontent
  have hnone : (Enricher.Naming.nameResource (c.resourceName Enricher.Naming.name
      Enricher.Naming.nameKey) q).podSpec? = none := by
    apply Resource.Unspecified.podSpec?_eq_none
    rw [Resource.Unspecified, hcontent]
    exact hunspecified
  obtain ⟨⟨s, hs⟩, hfilled⟩ := hpod _
    (hkind.symm ▸ Enricher.DefaultController.isController_of_declaring _ hq) hnone
  refine ⟨⟨_, (returns_addAll_declared hq).mpr
    ⟨t, ht, declared, hdeclared, s, hs, (liveness, readiness), hprobes, rfl⟩⟩, ?_⟩
  -- The template and the probes are those of the first run, since they do not look at `q`.
  intro after h
  obtain ⟨t', ht', declared', -, s', hs', ⟨liveness', readiness'⟩, hprobes', rfl⟩ :=
    (returns_addAll_declared hq).mp h
  cases ht.unique ht'
  cases hprobes.1.symm.trans hprobes'.1
  cases hprobes.2.symm.trans hprobes'.2
  refine ⟨_, rfl, ?_⟩
  rw [Resource.podSpec?_modifyPodSpec, hfilled s' hs', hkind]
  split
  next => rfl
  next =>
    split
    next => rfl
    next => exact congrArg some (Enricher.HealthChecks.probeLast_withoutDefaults hlength)

end StandardEnricher

namespace Enrichment

variable {e : Enrichment}

/-- Adding to a controller that is declared without a specification succeeds where it does for a
deployment.  A deployment gets the pods of the blueprint, and another controller gets the same pods
without what comes from the defaults; it has none where the build has no images. -/
theorem podSpec_addMissing_declared (platform : Config.Platform) {files : FileTree}
    {b : Config.Build} (hb : b.enricher.IsPlain)
    (he : ofContext files StandardEnricher.registry (.ofBuild files b) = .ok e) {r d : Resource}
    (hr : r.kind ∈ Enricher.DefaultController.declaringKinds) (hd : d.kind = .deployment)
    (hrunspecified : r.Unspecified) (hdunspecified : d.Unspecified) :
    ((∃ after, (e.addMissing platform [r]).Returns after) ↔
      ∃ after, (e.addMissing platform [d]).Returns after) ∧
    ∀ after after', (e.addMissing platform [r]).Returns after →
      (e.addMissing platform [d]).Returns after' →
      ∃ r' d' pod, after[0]? = some r' ∧ after'[0]? = some d' ∧ d'.podSpec? = some pod ∧
        r'.podSpec? = if r.kind = .deployment then some pod
          else if b.images.isEmpty then none
          else some (pod.withoutDefaults (.ofBuild files b)) := by
  rw [ofContext_of_isPlain (c := .ofBuild files b) hb] at he
  cases he
  have hd' : d.kind ∈ Enricher.DefaultController.declaringKinds := by
    rw [hd]
    decide
  simp only [(runs_all_of_isPlain (c := .ofBuild files b) hb).addMissing]
  refine ⟨⟨?_, ?_⟩, ?_⟩
  · rintro ⟨after, h⟩
    obtain ⟨_, hpod⟩ := StandardEnricher.exists_podSpec_of_addAll hr h
    exact (hpod d hd' hdunspecified).1
  · rintro ⟨after, h⟩
    obtain ⟨_, hpod⟩ := StandardEnricher.exists_podSpec_of_addAll hd' h
    exact (hpod r hr hrunspecified).1
  · intro after after' h h'
    obtain ⟨pod, hpod⟩ := StandardEnricher.exists_podSpec_of_addAll hr h
    obtain ⟨r', hr', hrpod⟩ := (hpod r hr hrunspecified).2 after h
    obtain ⟨s, hs, hspod⟩ := (hpod d hd' hdunspecified).2 after' h'
    rw [if_pos hd] at hspod
    exact ⟨r', s, pod, hr', hs, hspod, hrpod⟩

/-- A build with an image that exposes a port. -/
def exposing : Config.Build where
  project := { (default : Config.Project) with artifactId := "shop", groupId := "org" }
  images := [{ (default : Config.Image) with
    name := some "org/web:1", build := some { (default : Config.ImageBuild) with
      ports := ["8080"] } }]
  resources := default
  enricher := default
  platform := .kubernetes

def exposingEnrichment : Enrichment :=
  ⟨.ofBuild default exposing,
    StandardEnricher.all.map (StandardEnricher.enricher (.ofBuild default exposing))⟩

/-- A controller of which there is only the name. -/
def bareController (content : Content) : Resource where
  metadata := { (default : ObjectMeta) with name := some "web" }
  content := content

theorem podSpec_addMissing_bareReplicaSet :
    exposing.enricher.IsPlain ∧
    ofContext default StandardEnricher.registry (.ofBuild default exposing) =
      .ok exposingEnrichment ∧
    (bareController (.replicaSet none)).kind ∈ Enricher.DefaultController.declaringKinds ∧
    (bareController (.deployment none)).kind = .deployment ∧
    (bareController (.replicaSet none)).Unspecified ∧
    (bareController (.deployment none)).Unspecified ∧
    ∃ after after' r' d' pod,
      (exposingEnrichment.addMissing .kubernetes [bareController (.replicaSet none)]).Returns
        after ∧
      (exposingEnrichment.addMissing .kubernetes [bareController (.deployment none)]).Returns
        after' ∧
      after[0]? = some r' ∧ after'[0]? = some d' ∧ d'.podSpec? = some pod ∧
      r'.podSpec? = some (pod.withoutDefaults (.ofBuild default exposing)) := by
  have hplain : exposing.enricher.IsPlain := ⟨rfl, rfl, rfl⟩
  have hcontext : ofContext default StandardEnricher.registry (.ofBuild default exposing) =
      .ok exposingEnrichment :=
    ofContext_of_isPlain (c := .ofBuild default exposing) hplain
  have hkind : (bareController (.replicaSet none)).kind ∈
      Enricher.DefaultController.declaringKinds := by decide
  obtain ⟨hiff, hpods⟩ := podSpec_addMissing_declared .kubernetes hplain hcontext hkind
    (d := bareController (.deployment none)) rfl rfl rfl
  obtain ⟨after, h⟩ : ∃ after, (exposingEnrichment.addMissing .kubernetes
      [bareController (.replicaSet none)]).Returns after :=
    Logged.exists_returns (by decide +kernel)
  obtain ⟨after', h'⟩ := hiff.mp ⟨after, h⟩
  obtain ⟨r', d', pod, hr', hd', hpod, hreplicas⟩ := hpods after after' h h'
  exact ⟨hplain, hcontext, hkind, rfl, rfl, rfl, after, after', r', d', pod, h, h', hr', hd', hpod,
    hreplicas⟩

/-- The pods of a replica set do not get the ports that those of a deployment do. -/
theorem exists_podSpec_ne_addMissing :
    ofContext default StandardEnricher.registry (.ofBuild default exposing) =
      .ok exposingEnrichment ∧
    ∃ after after',
      (exposingEnrichment.addMissing .kubernetes [bareController (.replicaSet none)]).Returns
        after ∧
      (exposingEnrichment.addMissing .kubernetes [bareController (.deployment none)]).Returns
        after' ∧
      after[0]?.bind (·.podSpec?) ≠ after'[0]?.bind (·.podSpec?) := by
  obtain ⟨after, h, hafter⟩ := Logged.exists_returns_of_any
    (x := exposingEnrichment.addMissing .kubernetes [bareController (.replicaSet none)])
    (p := fun after => (after[0]?.bind (·.podSpec?)).any fun s =>
      s.containers.all (·.ports.isNone)) (by decide +kernel)
  obtain ⟨after', h', hafter'⟩ := Logged.exists_returns_of_any
    (x := exposingEnrichment.addMissing .kubernetes [bareController (.deployment none)])
    (p := fun after => !(after[0]?.bind (·.podSpec?)).any fun s =>
      s.containers.all (·.ports.isNone)) (by decide +kernel)
  refine ⟨ofContext_of_isPlain (c := .ofBuild default exposing) ⟨rfl, rfl, rfl⟩, after, after', h,
    h', fun heq => ?_⟩
  rw [← heq, hafter] at hafter'
  cases hafter'

end Enrichment

end Manifests
