import Manifests.Enricher.Standard
import Manifests.Proofs.Outcome

/-! The steps of the standard enrichers, resource by resource.  An enricher that adds changes every
resource by itself and may append one; an enricher that adapts changes every resource by itself. -/
namespace Manifests

namespace Enricher

namespace DefaultController

variable {c : Context} {platform : Config.Platform} {before after : Collection}

/-- The kind that the type setting stands for. -/
def addedKind? (c : Context) (platform : Config.Platform) : Option Kind :=
  kindOf? platform (Text.lower (Text.trim (c.textOr name typeKey "deployment")))

lemma returns_controllerKind? {kind : Option Kind} :
    (controllerKind? c platform).Returns kind ↔ addedKind? c platform = kind := by
  dsimp only [controllerKind?]
  split
  · rw [Logged.returns_bind]
    exact ⟨fun ⟨_, _, h⟩ => Logged.returns_pure.mp h, fun h => ⟨(), rfl, Logged.returns_pure.mpr h⟩⟩
  · exact Logged.returns_pure

/-- Every kind of controller can be made. -/
lemma exists_of_returns_controller? {b : Blueprint} {kind : Kind} {images : List Config.Image}
    {added : Option Resource} (hkind : kind.isController = true)
    (h : (b.controller? kind images).Returns added) : ∃ r, added = some r := by
  rw [Blueprint.controller?, if_pos hkind] at h
  simp only [Logged.returns_bind, Logged.returns_ofExcept, Logged.returns_pure] at h
  obtain ⟨name, _, t, _, rfl⟩ := h
  cases kind <;> first | exact ⟨_, rfl⟩ | cases hkind

lemma isController_of_addedKind? {kind : Kind} (h : addedKind? c platform = some kind) :
    kind.isController = true := by
  unfold addedKind? kindOf? at h
  split at h
  · split at h <;> cases h <;> rfl
  all_goals cases h
  all_goals rfl

/-- Controllers that are declared are completed; else one is added, unless its type is unknown. -/
lemma addMissing_cases (h : ((enricher c).addMissing platform before).Returns after) :
    (before.hasKind declaringKinds = true ∧
      ∃ t, ((blueprint c).podTemplate c.images).Returns t ∧
        after = before.map (complete c (t.spec.getD default))) ∨
    (before.hasKind declaringKinds = false ∧ addedKind? c platform = none ∧ after = before) ∨
    (before.hasKind declaringKinds = false ∧ ∃ kind added, addedKind? c platform = some kind ∧
      ((blueprint c).controller? kind c.images).Returns (some added) ∧
      after = before ++ [added]) := by
  dsimp only [enricher] at h
  split at h
  next hkind =>
    obtain ⟨t, ht, h⟩ := Logged.returns_bind.mp h
    exact .inl ⟨hkind, t, ht, (Logged.returns_pure.mp h).symm⟩
  next hkind =>
    rw [Bool.not_eq_true] at hkind
    obtain ⟨kind, hadded, h⟩ := Logged.returns_bind.mp h
    rw [returns_controllerKind?] at hadded
    cases kind with
    | none => exact .inr (.inl ⟨hkind, hadded, (Logged.returns_pure.mp h).symm⟩)
    | some kind =>
      simp only [Logged.returns_bind, Logged.returns_pure] at h
      obtain ⟨_, _, added, hcontroller, rfl⟩ := h
      obtain ⟨added, rfl⟩ :=
        exists_of_returns_controller? (isController_of_addedKind? hadded) hcontroller
      exact .inr (.inr ⟨hkind, kind, added, hadded, hcontroller, rfl⟩)

end DefaultController

namespace DefaultService

variable {c : Context}

/-- What a declaration makes is a service. -/
lemma kind_of_service? {d : Config.ServiceDeclaration} {service : Resource}
    (h : d.service? = some service) : service.kind = .service := by
  unfold Config.ServiceDeclaration.service? at h
  split at h
  · cases h
  · cases h
    rfl

/-- A service without ports is headless. -/
lemma headless_of_service? {d : Config.ServiceDeclaration} {service : Resource}
    (h : d.service? = some service) :
    (serviceSpec? service).bind (·.ports) = none → d.headless = true := by
  unfold Config.ServiceDeclaration.service? at h
  split at h
  next => cases h
  next hnot =>
    cases h
    intro hports
    dsimp only [serviceSpec?, Option.bind_some] at hports
    split at hports
    next hempty => simpa [hempty] using hnot
    next => cases hports

lemma returns_addService {service : Resource} {headless : Bool} (before : Collection)
    (hheadless : (serviceSpec? service).bind (·.ports) = none → headless = true) :
    (addService service headless before).Returns (before ++ [service]) := by
  unfold addService
  split
  next => exact Logged.returns_bind.mpr ⟨(), rfl, Logged.returns_pure.mpr rfl⟩
  next hnone =>
    rw [if_pos (hheadless hnone)]
    exact Logged.returns_bind.mpr ⟨(), rfl, Logged.returns_pure.mpr rfl⟩

/-- Services that are declared are completed; else the one that the images call for is added. -/
lemma addMissing_cases {before after : Collection} (h : (addMissing c before).Returns after) :
    ∃ d, declaration c = .ok d ∧
      ((before.hasKind [.service] = true ∧
        after = before.map (complete c (d.service?.bind serviceSpec?))) ∨
      (before.hasKind [.service] = false ∧ d.service? = none ∧ after = before) ∨
      (before.hasKind [.service] = false ∧ ∃ service, d.service? = some service ∧
        after = before ++ [service])) := by
  obtain ⟨d, hd, h⟩ := Logged.returns_bind.mp h
  refine ⟨d, hd, ?_⟩
  dsimp only at h
  split at h
  next hkind => exact .inl ⟨hkind, (Logged.returns_pure.mp h).symm⟩
  next hkind =>
    rw [Bool.not_eq_true] at hkind
    split at h
    next hnone => exact .inr (.inl ⟨hkind, hnone, (Logged.returns_pure.mp h).symm⟩)
    next service hservice =>
      refine .inr (.inr ⟨hkind, service, hservice, ?_⟩)
      exact h.unique (returns_addService before (headless_of_service? hservice))

end DefaultService

end Enricher

namespace StandardEnricher

variable {c : Enricher.Context} {platform : Config.Platform} {e : StandardEnricher}
  {before after : Collection}

/-! ### Adding -/

/-- What an enricher makes of a resource when it adds to a collection. -/
def Completes (c : Enricher.Context) : StandardEnricher → Resource → Resource → Prop
  | naming, r, s =>
    s = Enricher.Naming.nameResource
      (c.resourceName Enricher.Naming.name Enricher.Naming.nameKey) r
  | defaultController, r, s => s = r ∨
    ∃ t, ((Enricher.DefaultController.blueprint c).podTemplate c.images).Returns t ∧
      s = Enricher.DefaultController.complete c (t.spec.getD default) r
  | defaultService, r, s => s = r ∨ ∃ d, Enricher.DefaultService.declaration c = .ok d ∧
    s = Enricher.DefaultService.complete c (d.service?.bind Enricher.DefaultService.serviceSpec?) r
  | images, r, s => s = r ∨ c.images.isEmpty = false ∧ (Enricher.Images.complete c r).Returns s
  | healthChecks, r, s =>
    s = r ∨ ∃ liveness readiness, (Enricher.HealthChecks.complete liveness readiness r).Returns s
  | registrySecrets, r, s => (Enricher.RegistrySecrets.complete c r).Returns s
  | projectLabels, r, s | podAnnotations, r, s | volumePermissions, r, s | imageTriggers, r, s =>
    s = r

/-- What an enricher may append to a collection. -/
def Appends (c : Enricher.Context) (platform : Config.Platform) :
    StandardEnricher → Resource → Prop
  | defaultController, r => ∃ kind, Enricher.DefaultController.addedKind? c platform = some kind ∧
    ((Enricher.DefaultController.blueprint c).controller? kind c.images).Returns (some r)
  | defaultService, r => ∃ d, Enricher.DefaultService.declaration c = .ok d ∧ d.service? = some r
  | naming, _ | images, _ | healthChecks, _ | projectLabels, _ | podAnnotations, _
  | volumePermissions, _ | imageTriggers, _ | registrySecrets, _ => False

/-- Nothing is appended and every resource is changed by itself. -/
lemma exists_of_forall₂ {R : Resource → Resource → Prop} {A : Resource → Prop}
    (h : List.Forall₂ R before after) : ∃ kept extra, after = kept ++ extra ∧
      List.Forall₂ R before kept ∧ ∀ r ∈ extra, A r :=
  ⟨after, [], (List.append_nil after).symm, h, by simp⟩

lemma exists_of_append {R : Resource → Resource → Prop} {A : Resource → Prop}
    {extra : Collection} (hR : ∀ r, R r r) (hextra : ∀ r ∈ extra, A r) :
    ∃ kept extra', before ++ extra = kept ++ extra' ∧ List.Forall₂ R before kept ∧
      ∀ r ∈ extra', A r :=
  ⟨before, extra, rfl, List.forall₂_same.mpr fun r _ => hR r, hextra⟩

lemma forall₂_map {R : Resource → Resource → Prop} {f : Resource → Resource} (h : ∀ r, R r (f r)) :
    List.Forall₂ R before (before.map f) :=
  List.forall₂_map_right_iff.mpr (List.forall₂_same.mpr fun r _ => h r)

lemma addMissing_cases (h : ((e.enricher c).addMissing platform before).Returns after) :
    ∃ kept extra, after = kept ++ extra ∧ List.Forall₂ (e.Completes c) before kept ∧
      ∀ r ∈ extra, e.Appends c platform r := by
  cases e with
  | naming =>
    cases Logged.returns_pure.mp h
    exact exists_of_forall₂ (forall₂_map fun r => rfl)
  | defaultController =>
    obtain ⟨_, t, ht, rfl⟩ | ⟨_, _, rfl⟩ | ⟨_, kind, added, hkind, hadded, rfl⟩ :=
      Enricher.DefaultController.addMissing_cases h
    · exact exists_of_forall₂ (forall₂_map fun r => .inr ⟨t, ht, rfl⟩)
    · exact exists_of_forall₂ (List.forall₂_same.mpr fun r _ => .inl rfl)
    · refine exists_of_append (fun r => .inl rfl) fun r hr => ?_
      cases List.mem_singleton.mp hr
      exact ⟨kind, hkind, hadded⟩
  | defaultService =>
    obtain ⟨d, hd, ⟨_, rfl⟩ | ⟨_, _, rfl⟩ | ⟨_, service, hservice, rfl⟩⟩ :=
      Enricher.DefaultService.addMissing_cases h
    · exact exists_of_forall₂ (forall₂_map fun r => .inr ⟨d, hd, rfl⟩)
    · exact exists_of_forall₂ (List.forall₂_same.mpr fun r _ => .inl rfl)
    · refine exists_of_append (fun r => .inl rfl) fun r hr => ?_
      cases List.mem_singleton.mp hr
      exact ⟨d, hd, hservice⟩
  | images =>
    dsimp only [enricher, Enricher.Images.enricher] at h
    split at h
    next =>
      cases Logged.returns_pure.mp h
      exact exists_of_forall₂ (List.forall₂_same.mpr fun r _ => .inl rfl)
    next hne =>
      exact exists_of_forall₂
        ((Logged.returns_mapM.mp h).imp fun _ _ h => .inr ⟨by simpa using hne, h⟩)
  | healthChecks =>
    obtain ⟨liveness, _, h⟩ := Logged.returns_bind.mp h
    obtain ⟨readiness, _, h⟩ := Logged.returns_bind.mp h
    split at h
    · cases Logged.returns_pure.mp h
      exact exists_of_forall₂ (List.forall₂_same.mpr fun r _ => .inl rfl)
    · exact exists_of_forall₂ ((Logged.returns_mapM.mp h).imp fun _ _ h => .inr ⟨_, _, h⟩)
  | registrySecrets => exact exists_of_forall₂ (Logged.returns_mapM.mp h)
  | projectLabels | podAnnotations | volumePermissions | imageTriggers =>
    cases Logged.returns_pure.mp h
    exact exists_of_forall₂ (List.forall₂_same.mpr fun r _ => rfl)

/-- What an enricher makes of every resource and what it appends decide about the result. -/
lemma forall_of_addMissing {P : Resource → Prop}
    (h : ((e.enricher c).addMissing platform before).Returns after)
    (hcompletes : ∀ {r s}, e.Completes c r s → P r → P s)
    (happends : ∀ r, e.Appends c platform r → P r) (hP : ∀ r ∈ before, P r) :
    ∀ r ∈ after, P r := by
  obtain ⟨kept, extra, rfl, hkept, hextra⟩ := addMissing_cases h
  intro r hr
  obtain hr | hr := List.mem_append.mp hr
  · exact forall_of_forall₂ (R := e.Completes c) hcompletes hkept hP r hr
  · exact happends r (hextra r hr)

/-! ### Adapting -/

/-- What an enricher does to every resource when it adapts a collection. -/
def adaptResource (c : Enricher.Context) (platform : Config.Platform) :
    StandardEnricher → Resource → Logged Resource
  | projectLabels, r =>
    pure (Enricher.ProjectLabels.labelResource (Enricher.ProjectLabels.labels c) r)
  | podAnnotations, r => pure (Enricher.PodAnnotations.annotateResource r)
  | volumePermissions, r => r.adaptTemplate (Enricher.VolumePermissions.adaptTemplate c)
  | imageTriggers, r =>
    pure (if platform = .openshift then Enricher.ImageTriggers.adaptResource c r else r)
  | naming, r | defaultController, r | defaultService, r | images, r | healthChecks, r
  | registrySecrets, r => pure r

lemma returns_pure_map {f : Resource → Resource} :
    (pure (before.map f) : Logged Collection).Returns after ↔
      List.Forall₂ (fun r s => (pure (f r) : Logged Resource).Returns s) before after := by
  simp only [Logged.returns_pure]
  rw [← List.forall₂_eq_eq_eq, List.forall₂_map_left_iff]

lemma returns_adapt :
    ((e.enricher c).adapt platform before).Returns after ↔
      List.Forall₂ (fun r s => (e.adaptResource c platform r).Returns s) before after := by
  cases e with
  | projectLabels | podAnnotations => exact returns_pure_map
  | volumePermissions => exact Logged.returns_mapM
  | imageTriggers =>
    dsimp only [enricher, Enricher.ImageTriggers.enricher, adaptResource]
    split
    · exact returns_pure_map
    · have h := @returns_pure_map before after id
      rwa [List.map_id] at h
  | naming | defaultController | defaultService | images | healthChecks | registrySecrets =>
    have h := @returns_pure_map before after id
    rwa [List.map_id] at h

end StandardEnricher
end Manifests
