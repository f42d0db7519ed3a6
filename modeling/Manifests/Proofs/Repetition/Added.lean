import Manifests.Proofs.Repetition.Adapting
import Manifests.Proofs.Repetition.Adding

/-! What the standard enrichers leave behind when they add in their standard order: collections to
which each of them would add nothing, up to the names of declared ports.  The enrichers behind one
keep what it left, and so do the labelling and the adaptation. -/
namespace Manifests

namespace Collection

variable {before after : Collection} {kinds : List Kind}

lemma hasKind_append (c d : Collection) (kinds : List Kind) :
    (c ++ d).hasKind kinds = (c.hasKind kinds || d.hasKind kinds) := List.any_append

lemma hasKind_eq_false_iff : before.hasKind kinds = false ↔ ∀ r ∈ before, r.kind ∉ kinds := by
  simp [hasKind]

lemma hasKind_of_forall₂
    (h : List.Forall₂ (fun r s => Resource.kind s = Resource.kind r) before after) :
    after.hasKind kinds = before.hasKind kinds := by
  unfold hasKind
  induction h with
  | nil => rfl
  | cons hkind _ ih => rw [List.any_cons, List.any_cons, hkind, ih]

lemma hasKind_map (kinds : List Kind) {f : Resource → Resource} (hf : ∀ r, (f r).kind = r.kind)
    (d : Collection) : Collection.hasKind (d.map f) kinds = d.hasKind kinds :=
  hasKind_of_forall₂ (List.forall₂_map_right_iff.mpr (List.forall₂_same.mpr fun r _ => hf r))

end Collection

namespace StandardEnricher

variable {c : Enricher.Context} {platform : Config.Platform} {steps : List StandardEnricher}
  {e e' : StandardEnricher} {r s : Resource} {before after : Collection}

/-! ### What every resource keeps -/

lemma hasKind_of_addMissing {kinds : List Kind}
    (h : ((e.enricher c).addMissing platform before).Returns after)
    (hbefore : before.hasKind kinds = true) : after.hasKind kinds = true := by
  obtain ⟨kept, extra, rfl, hkept, _⟩ := addMissing_cases h
  rw [Collection.hasKind_append,
    Collection.hasKind_of_forall₂ (hkept.imp fun _ _ => kind_of_completes), hbefore, Bool.true_or]

/-- A kind that is not appended does not turn up. -/
lemma hasKind_eq_of_addMissing {kinds : List Kind}
    (h : ((e.enricher c).addMissing platform before).Returns after)
    (happends : ∀ r, e.Appends c platform r → r.kind ∉ kinds) :
    after.hasKind kinds = before.hasKind kinds := by
  obtain ⟨kept, extra, rfl, hkept, hextra⟩ := addMissing_cases h
  have hnone : Collection.hasKind extra kinds = false :=
    Collection.hasKind_eq_false_iff.mpr fun r hr => happends r (hextra r hr)
  rw [Collection.hasKind_append,
    Collection.hasKind_of_forall₂ (hkept.imp fun _ _ => kind_of_completes), hnone, Bool.or_false]

/-! ### What one enricher leaves behind -/

/-- Without a declared controller there are no pods, and with one the controllers that the images
fill have pods to be filled, if they do not get them. -/
structure Ready (steps : List StandardEnricher) (d : Collection) : Prop where
  undeclared : d.hasKind Enricher.DefaultController.declaringKinds = false →
    ∀ r ∈ d, r.kind.isController = false ∧ r.podSpec? = none
  pods : images ∈ steps → d.hasKind Enricher.DefaultController.declaringKinds = true →
    ∀ r ∈ d, r.kind.isController = true → r.kind = .deployment ∨ r.podSpec?.isSome = true

/-- A collection to which an enricher adds nothing, up to the names of declared ports. -/
def Added (c : Enricher.Context) (platform : Config.Platform) (steps : List StandardEnricher) :
    StandardEnricher → Collection → Prop
  | naming, d => ∀ r ∈ d, r.Named
  | defaultController, d =>
    (d.hasKind Enricher.DefaultController.declaringKinds = false ∧
      Enricher.DefaultController.addedKind? c platform = none) ∨
    (d.hasKind Enricher.DefaultController.declaringKinds = true ∧
      ∃ t, ((Enricher.DefaultController.blueprint c).podTemplate c.images).Returns t ∧
        ∀ r ∈ d, Enricher.DefaultController.Completed c (t.spec.getD default) r ∧
          (images ∈ steps → r.kind.isController = true → r.podSpec?.isSome = true))
  | defaultService, d => ∃ declared, Enricher.DefaultService.declaration c = .ok declared ∧
    (d.hasKind [.service] = true ∨ declared.service? = none) ∧
    ∀ r ∈ d, Enricher.DefaultService.Completed c
      (declared.service?.bind Enricher.DefaultService.serviceSpec?) r
  | images, d => c.images.isEmpty = true ∨ ∀ r ∈ d, Enricher.Images.Completed c r
  | healthChecks, d => ∃ liveness readiness,
    Config.ProbeDeclaration.buildOptional c.policy.liveness = .ok liveness ∧
    Config.ProbeDeclaration.buildOptional c.policy.readiness = .ok readiness ∧
    ∀ r ∈ d, Enricher.HealthChecks.Completed liveness readiness r
  | registrySecrets, d => ∀ r ∈ d, Enricher.RegistrySecrets.Completed c r
  | projectLabels, _ | podAnnotations, _ | volumePermissions, _ | imageTriggers, _ => True

lemma mapM_self {f : Resource → Logged Resource} (h : ∀ r ∈ before, (f r).Returns r) :
    (before.mapM f).Returns before :=
  Logged.returns_mapM.mpr (List.forall₂_same.mpr h)

lemma map_self {f : Resource → Resource} (h : ∀ r ∈ before, f r = r) : before.map f = before :=
  (List.map_congr_left h).trans (List.map_id _)

lemma Added.returns_self_defaultController (h : Added c platform steps defaultController before) :
    ((defaultController.enricher c).addMissing platform before).Returns before := by
  dsimp only [enricher, Enricher.DefaultController.enricher]
  obtain ⟨hkind, hnone⟩ | ⟨hkind, t, ht, hcompleted⟩ := h
  · rw [if_neg (by simp [hkind])]
    refine Logged.returns_bind.mpr ⟨none, ?_, Logged.returns_pure.mpr rfl⟩
    exact Enricher.DefaultController.returns_controllerKind?.mpr hnone
  · rw [if_pos hkind]
    refine Logged.returns_bind.mpr ⟨t, ht, Logged.returns_pure.mpr ?_⟩
    exact map_self fun r hr => (hcompleted r hr).1.complete_eq_self

lemma Added.returns_self_defaultService (h : Added c platform steps defaultService before)
    (hnames : (Enricher.DefaultService.declared? c).isSome = true →
      ∀ r ∈ before, r.kind = .service → Enricher.DefaultService.PortsNamed c r) :
    ((defaultService.enricher c).addMissing platform before).Returns before := by
  obtain ⟨declared, hdeclared, hkind, hcompleted⟩ := h
  refine Logged.returns_bind.mpr ⟨declared, hdeclared, ?_⟩
  dsimp only
  split
  next =>
    refine Logged.returns_pure.mpr (map_self fun r hr => ?_)
    by_cases hr' : r.kind = .service
    · refine (hcompleted r hr).complete_eq_self fun hsome => hnames ?_ r hr hr'
      rw [Enricher.DefaultService.declared?_of_declaration hdeclared]
      cases hservice : declared.service? with
      | none => simp [hservice] at hsome
      | some service => rfl
    · exact Enricher.DefaultService.complete_of_kind hr'
  next hnot =>
    rw [hkind.resolve_left hnot]
    exact Logged.returns_pure.mpr rfl

/-- Nothing is added, provided that the ports of the declared service have names. -/
lemma Added.returns_self (h : Added c platform steps e before)
    (hnames : e = defaultService → (Enricher.DefaultService.declared? c).isSome = true →
      ∀ r ∈ before, r.kind = .service → Enricher.DefaultService.PortsNamed c r) :
    ((e.enricher c).addMissing platform before).Returns before := by
  cases e with
  | naming =>
    exact Logged.returns_pure.mpr
      (map_self fun r hr => Enricher.Naming.nameResource_eq_self (h r hr))
  | defaultController => exact h.returns_self_defaultController
  | defaultService => exact h.returns_self_defaultService (hnames rfl)
  | images =>
    dsimp only [enricher, Enricher.Images.enricher]
    split
    next => exact Logged.returns_pure.mpr rfl
    next hne => exact mapM_self fun r hr => (h.resolve_left hne r hr).returns_self
  | healthChecks =>
    obtain ⟨liveness, readiness, hliveness, hreadiness, hcompleted⟩ := h
    refine Logged.returns_bind.mpr ⟨liveness, hliveness, ?_⟩
    refine Logged.returns_bind.mpr ⟨readiness, hreadiness, ?_⟩
    split
    · exact Logged.returns_pure.mpr rfl
    · exact mapM_self fun r hr => (hcompleted r hr).returns_self
  | registrySecrets => exact mapM_self fun r hr => (h r hr).returns_self
  | projectLabels | podAnnotations | volumePermissions | imageTriggers =>
    exact Logged.returns_pure.mpr rfl

/-- Where no controller is declared nothing has gaps for the default controller to fill. -/
lemma Ready.completed {spec : PodSpec} (h : Ready steps before)
    (hkind : before.hasKind Enricher.DefaultController.declaringKinds = false)
    (hr : r ∈ before) : Enricher.DefaultController.Completed c spec r ∧
      (images ∈ steps → r.kind.isController = true → r.podSpec?.isSome = true) := by
  obtain ⟨hnot, hpods⟩ := h.undeclared hkind r hr
  constructor
  · refine Enricher.DefaultController.completed_of_podless (fun hdeployment => ?_) hpods
    rw [hdeployment] at hnot
    cases hnot
  · intro _ hcontroller
    rw [hnot] at hcontroller
    cases hcontroller

lemma added_defaultController (hready : Ready steps before)
    (hrecognised : before.hasKind Enricher.DefaultController.declaringKinds = true ∨
      ∀ kind, Enricher.DefaultController.addedKind? c platform = some kind →
        kind ∈ Enricher.DefaultController.declaringKinds)
    (h : ((defaultController.enricher c).addMissing platform before).Returns after) :
    Added c platform steps defaultController after := by
  obtain ⟨hkind, t, ht, rfl⟩ | ⟨hkind, hnone, rfl⟩ |
      ⟨hkind, kind, added, hadded, hcontroller, rfl⟩ :=
    Enricher.DefaultController.addMissing_cases h
  · refine .inr ⟨hasKind_of_addMissing h hkind, t, ht, fun s hs => ?_⟩
    obtain ⟨r, hr, rfl⟩ := List.mem_map.mp hs
    refine ⟨Enricher.DefaultController.completed_complete c _ r, fun himages hcontroller => ?_⟩
    refine Enricher.DefaultController.isSome_podSpec?_complete
      (hready.pods himages hkind r hr ?_)
    rwa [(Enricher.DefaultController.extends_complete c _ r).kind] at hcontroller
  · exact .inl ⟨hkind, hnone⟩
  · have hdeclaring : kind ∈ Enricher.DefaultController.declaringKinds :=
      hrecognised.resolve_left (by simp [hkind]) kind hadded
    obtain ⟨t, ht, hcompleted, hpod⟩ :=
      Enricher.DefaultController.completed_of_returns_controller? hdeclaring hcontroller
    obtain ⟨_, rfl, _⟩ := Enricher.DefaultController.returns_controller? hcontroller
    refine .inr ⟨?_, t, ht, fun r hr => ?_⟩
    · rw [Collection.hasKind_append]
      simp [Collection.hasKind, hdeclaring]
    · obtain hr | hr := List.mem_append.mp hr
      · exact hready.completed hkind hr
      · cases List.mem_singleton.mp hr
        exact ⟨hcompleted, fun _ _ => hpod⟩

lemma added_defaultService (hnamed : Text.isBlank c.project.defaultResourceName = false)
    (h : ((defaultService.enricher c).addMissing platform before).Returns after) :
    Added c platform steps defaultService after := by
  have hname : Text.isBlank (Enricher.DefaultService.defaultName c) = false :=
    Enricher.Context.isBlank_resourceName hnamed _ _
  obtain ⟨d, hd, hcases⟩ := Enricher.DefaultService.addMissing_cases h
  have hother : before.hasKind [.service] = false → ∀ r ∈ before,
      Enricher.DefaultService.Completed c
        (d.service?.bind Enricher.DefaultService.serviceSpec?) r := by
    intro hkind r hr
    refine Enricher.DefaultService.completed_of_kind fun hservice => ?_
    exact Collection.hasKind_eq_false_iff.mp hkind r hr (List.mem_singleton.mpr hservice)
  refine ⟨d, hd, ?_⟩
  obtain ⟨hkind, rfl⟩ | ⟨hkind, hnone, rfl⟩ | ⟨hkind, service, hservice, rfl⟩ := hcases
  · refine ⟨.inl (hasKind_of_addMissing h hkind), fun s hs => ?_⟩
    obtain ⟨r, _, rfl⟩ := List.mem_map.mp hs
    exact Enricher.DefaultService.completed_complete hname
      (fun f => Enricher.DefaultService.portsFilled_of_declaration hd) r
  · exact ⟨.inr hnone, hother hkind⟩
  · obtain ⟨hadded, hcompleted⟩ :=
      Enricher.DefaultService.completed_of_declaration hname hd hservice
    refine ⟨.inl ?_, fun r hr => ?_⟩
    · rw [Collection.hasKind_append]
      simp [Collection.hasKind, hadded]
    · obtain hr | hr := List.mem_append.mp hr
      · exact hother hkind r hr
      · cases List.mem_singleton.mp hr
        exact hcompleted

/-- What an enricher leaves behind, given what it finds. -/
lemma added_of_addMissing (hnamed : Text.isBlank c.project.defaultResourceName = false)
    (hready : e = defaultController → Ready steps before)
    (hrecognised : e = defaultController →
      before.hasKind Enricher.DefaultController.declaringKinds = true ∨
      ∀ kind, Enricher.DefaultController.addedKind? c platform = some kind →
        kind ∈ Enricher.DefaultController.declaringKinds)
    (h : ((e.enricher c).addMissing platform before).Returns after) :
    Added c platform steps e after := by
  cases e with
  | naming =>
    cases Logged.returns_pure.mp h
    intro s hs
    obtain ⟨r, _, rfl⟩ := List.mem_map.mp hs
    exact Enricher.Naming.named_nameResource
      (Enricher.Context.isBlank_resourceName hnamed _ _) r
  | defaultController => exact added_defaultController (hready rfl) (hrecognised rfl) h
  | defaultService => exact added_defaultService hnamed h
  | images =>
    dsimp only [enricher, Enricher.Images.enricher] at h
    split at h
    next hempty => exact .inl hempty
    next =>
      exact .inr (Logged.forall_of_returns_mapM (P := fun _ => True)
        (fun hrs _ => Enricher.Images.completed_of_returns hrs) h fun _ _ => trivial)
  | healthChecks =>
    obtain ⟨liveness, hliveness, h⟩ := Logged.returns_bind.mp h
    obtain ⟨readiness, hreadiness, h⟩ := Logged.returns_bind.mp h
    refine ⟨liveness, readiness, hliveness, hreadiness, ?_⟩
    split at h
    next hnone =>
      simp only [Bool.and_eq_true, Option.isNone_iff_eq_none] at hnone
      obtain ⟨rfl, rfl⟩ := hnone
      exact fun r _ => Enricher.HealthChecks.completed_none r
    next =>
      exact Logged.forall_of_returns_mapM (P := fun _ => True)
        (fun hrs _ => Enricher.HealthChecks.completed_of_returns hrs) h fun _ _ => trivial
  | registrySecrets =>
    exact Logged.forall_of_returns_mapM (P := fun _ => True)
      (fun hrs _ => Enricher.RegistrySecrets.completed_of_returns hrs) h fun _ _ => trivial
  | projectLabels | podAnnotations | volumePermissions | imageTriggers => trivial

/-! ### What the enrichers behind it keep -/

/-- Only two enrichers append, and only one of them appends a service. -/
lemma kind_of_appends (he : e ≠ defaultController) (h : e.Appends c platform r) :
    e = defaultService ∧ r.kind = .service := by
  cases e with
  | defaultController => exact absurd rfl he
  | defaultService =>
    obtain ⟨d, _, hservice⟩ := h
    exact ⟨rfl, Enricher.DefaultService.kind_of_service? hservice⟩
  | naming | images | healthChecks | projectLabels | podAnnotations | volumePermissions
  | imageTriggers | registrySecrets => exact h.elim

lemma not_appends (hcontroller : e ≠ defaultController) (hservice : e ≠ defaultService) :
    ¬e.Appends c platform r :=
  fun h => hservice (kind_of_appends hcontroller h).1

/-- The other enrichers only change what is there. -/
lemma completes_of_addMissing (hcontroller : e ≠ defaultController)
    (hservice : e ≠ defaultService)
    (h : ((e.enricher c).addMissing platform before).Returns after) :
    List.Forall₂ (e.Completes c) before after := by
  obtain ⟨kept, extra, rfl, hkept, hextra⟩ := addMissing_cases h
  have hnil : extra = [] := List.eq_nil_iff_forall_not_mem.mpr fun r hr =>
    not_appends hcontroller hservice (hextra r hr)
  rwa [hnil, List.append_nil]

lemma named_of_appends (hnamed : Text.isBlank c.project.defaultResourceName = false)
    (h : e.Appends c platform r) : r.Named := by
  cases e with
  | defaultController =>
    obtain ⟨kind, _, hcontroller⟩ := h
    exact (Enricher.DefaultController.returns_controller? hcontroller).1
  | defaultService =>
    obtain ⟨d, hd, hservice⟩ := h
    obtain ⟨hkind, hcompleted⟩ := Enricher.DefaultService.completed_of_declaration
      (Enricher.Context.isBlank_resourceName hnamed _ _) hd hservice
    exact hcompleted.named hkind
  | naming | images | healthChecks | projectLabels | podAnnotations | volumePermissions
  | imageTriggers | registrySecrets => exact h.elim

/-- A controller without gaps stays one. -/
lemma controller_of_completes {spec : PodSpec} (he : e ≠ defaultController)
    (hpolicy : e = images → Enricher.Images.HasPullPolicy c)
    (hspec : c.images.isEmpty = false → spec.containers ≠ [])
    (hpods : e = images → r.kind.isController = true → r.podSpec?.isSome = true)
    (h : e.Completes c r s) (hr : Enricher.DefaultController.Completed c spec r) :
    Enricher.DefaultController.Completed c spec s := by
  by_cases himages : e = images
  · subst himages
    obtain rfl | ⟨hne, h⟩ := h
    · exact hr
    · exact hr.images (hpolicy rfl) (hspec hne) (hpods rfl) h
  · by_cases hprobes : e = healthChecks
    · subst hprobes
      obtain rfl | ⟨_, _, h⟩ := h
      · exact hr
      · exact hr.probes h
    · exact hr.of_sameWorkload (sameWorkload_of_completes he himages hprobes h)

/-- A service is no controller, and nothing is missing in it. -/
lemma completed_of_service {spec : PodSpec} (h : r.kind = .service) :
    Enricher.DefaultController.Completed c spec r ∧
      (images ∈ steps → r.kind.isController = true → r.podSpec?.isSome = true) := by
  constructor
  · refine Enricher.DefaultController.completed_of_podless ?_
      (Resource.podSpec?_of_podless (h ▸ by decide)).1
    rw [h]
    decide
  · intro _ hcontroller
    rw [h] at hcontroller
    cases hcontroller

lemma Added.keeps_defaultController (hcontroller : e ≠ defaultController) (hsteps : e ∈ steps)
    (hpolicy : e = images → Enricher.Images.HasPullPolicy c)
    (hstep : ((e.enricher c).addMissing platform before).Returns after)
    (h : Added c platform steps defaultController before) :
    Added c platform steps defaultController after := by
  obtain ⟨hkind, hnone⟩ | ⟨hkind, t, ht, hcompleted⟩ := h
  · refine .inl ⟨?_, hnone⟩
    rw [hasKind_eq_of_addMissing hstep fun r hr => ?_, hkind]
    rw [(kind_of_appends hcontroller hr).2]
    decide
  · refine .inr ⟨hasKind_of_addMissing hstep hkind, t, ht, forall_of_addMissing hstep
      (fun hrs hr => ⟨?_, fun himages hs => ?_⟩) (fun r hr => ?_) hcompleted⟩
    · exact controller_of_completes hcontroller hpolicy
        (Enricher.DefaultController.containers_ne_nil_of_returns_podTemplate ht)
        (fun heq => hr.2 (heq ▸ hsteps)) hrs hr.1
    · rw [kind_of_completes hrs] at hs
      exact isSome_podSpec?_of_completes hrs (hr.2 himages hs)
    · exact completed_of_service (kind_of_appends hcontroller hr).2

lemma Added.keeps_defaultService (hnaming : e ≠ naming) (hcontroller : e ≠ defaultController)
    (hservice : e ≠ defaultService)
    (hstep : ((e.enricher c).addMissing platform before).Returns after)
    (h : Added c platform steps defaultService before) :
    Added c platform steps defaultService after := by
  obtain ⟨d, hd, hkind, hcompleted⟩ := h
  refine ⟨d, hd, hkind.imp_left (hasKind_of_addMissing hstep),
    forall_of_addMissing hstep (fun {r s} hrs hr => ?_)
      (fun r hr => absurd hr (not_appends hcontroller hservice)) hcompleted⟩
  by_cases hkind : r.kind = .service
  · rw [eq_of_completes_service hnaming hservice hkind hrs]
    exact hr
  · exact Enricher.DefaultService.completed_of_kind (kind_of_completes hrs ▸ hkind)

/-- What an enricher left stays as the enrichers behind it in the standard order leave it. -/
lemma Added.keeps (hsub : [e, e'].Sublist all) (hsteps : e' ∈ steps)
    (hnamed : Text.isBlank c.project.defaultResourceName = false)
    (hpolicy : e' = images → Enricher.Images.HasPullPolicy c)
    (hstep : ((e'.enricher c).addMissing platform before).Returns after)
    (h : Added c platform steps e before) : Added c platform steps e after := by
  have hlater : ∀ x, ¬[e, x].Sublist all → e' ≠ x := by
    rintro x hx rfl
    exact hx hsub
  cases e with
  | naming =>
    exact forall_of_addMissing hstep named_of_completes (fun r => named_of_appends hnamed) h
  | defaultController =>
    exact h.keeps_defaultController (hlater defaultController (by decide)) hsteps hpolicy hstep
  | defaultService =>
    exact h.keeps_defaultService (hlater naming (by decide)) (hlater defaultController (by decide))
      (hlater defaultService (by decide)) hstep
  | images =>
    have hcontroller : e' ≠ defaultController := hlater defaultController (by decide)
    refine h.imp_right (forall_of_addMissing hstep (fun {r s} hrs hr => ?_) fun r hr =>
      absurd hr (not_appends hcontroller (hlater defaultService (by decide))))
    by_cases hprobes : e' = healthChecks
    · subst hprobes
      obtain rfl | ⟨_, _, hrs⟩ := hrs
      · exact hr
      · exact hr.probes hrs
    · exact hr.of_sameWorkload
        (sameWorkload_of_completes hcontroller (hlater images (by decide)) hprobes hrs)
  | healthChecks =>
    have hcontroller : e' ≠ defaultController := hlater defaultController (by decide)
    obtain ⟨liveness, readiness, hliveness, hreadiness, hcompleted⟩ := h
    refine ⟨liveness, readiness, hliveness, hreadiness,
      forall_of_addMissing hstep (fun {r s} hrs hr => ?_) (fun r hr =>
        absurd hr (not_appends hcontroller (hlater defaultService (by decide)))) hcompleted⟩
    exact hr.of_sameWorkload (sameWorkload_of_completes hcontroller
      (hlater images (by decide)) (hlater healthChecks (by decide)) hrs)
  | registrySecrets => cases e' <;> exact absurd hsub (by decide)
  | projectLabels | podAnnotations | volumePermissions | imageTriggers => trivial

end StandardEnricher
end Manifests
