import Manifests.Proofs.Repetition.Added
import Manifests.Proofs.Repetition.Resources

/-! Enriching a second time.  Labelling and adapting repeat themselves in any case, so a second
enrichment changes nothing exactly if no enricher finds anything to add. -/
namespace Manifests

/-- A run that makes no progress made none on its way. -/
lemma Logged.returns_foldlM_of_le {α β : Type} {μ : β → Nat} {f : β → α → Logged β} {xs : List α}
    {b c : β} (step : ∀ x ∈ xs, ∀ {b c}, (f b x).Returns c → Advances μ b c)
    (h : (xs.foldlM f b).Returns c) (hle : μ c ≤ μ b) : ∀ x ∈ xs, (f b x).Returns b := by
  induction xs with
  | nil => simp
  | cons x xs ih =>
    rw [List.foldlM_cons, returns_bind] at h
    obtain ⟨d, hd, h⟩ := h
    have hrest : Advances μ d c :=
      returns_foldlM (R := Advances μ) .refl .trans
        (fun y hy => step y (List.mem_cons_of_mem x hy)) h
    -- The first step made no progress either, so it returned what it got.
    obtain rfl : d = b := (step x List.mem_cons_self hd).eq_of_le (hrest.le.trans hle)
    exact List.forall_mem_cons.mpr
      ⟨hd, ih (fun y hy => step y (List.mem_cons_of_mem x hy)) h⟩

namespace StandardEnricher

variable {c : Enricher.Context} {platform : Config.Platform} {steps : List StandardEnricher}
  {e : StandardEnricher} {before after : Collection}

/-- What an enricher left stays under the labelling and the adaptation. -/
lemma Added.of_frame (hservers : e = registrySecrets → ∀ id, c.policy.annotations.all.get?
      Enricher.RegistrySecrets.serverIdKey = some id → c.project.server? id = none)
    (hframe : List.Forall₂ (Resource.Frame c) before after) (h : Added c platform steps e before) :
    Added c platform steps e after := by
  have hkinds : ∀ kinds, after.hasKind kinds = before.hasKind kinds := fun kinds =>
    Collection.hasKind_of_forall₂ (hframe.imp fun _ _ h => h.service.kind)
  cases e with
  | naming =>
    refine forall_of_forall₂ (fun {r s} hrs hr => ?_) hframe h
    obtain ⟨name, hname, hblank⟩ := Resource.named_iff.mp hr
    exact Resource.named_of_name (hrs.service.name.trans hname) hblank
  | defaultController =>
    obtain ⟨hkind, hnone⟩ | ⟨hkind, t, ht, hcompleted⟩ := h
    · exact .inl ⟨(hkinds _).trans hkind, hnone⟩
    · refine .inr ⟨(hkinds _).trans hkind, t, ht,
        forall_of_forall₂ (fun {r s} hrs hr => ⟨hr.1.of_sameWorkload hrs.workload, ?_⟩)
          hframe hcompleted⟩
      intro himages hcontroller
      rw [hrs.service.kind] at hcontroller
      obtain ⟨old, hold⟩ := Option.isSome_iff_exists.mp (hr.2 himages hcontroller)
      obtain ⟨pod, _, hpod, _⟩ := hrs.workload.symm.exists_podSpec hold
      exact Option.isSome_iff_exists.mpr ⟨pod, hpod⟩
  | defaultService =>
    obtain ⟨d, hd, hkind, hcompleted⟩ := h
    exact ⟨d, hd, hkind.imp_left (hkinds _).trans,
      forall_of_forall₂ (fun hrs hr => hr.of_sameService hrs.service) hframe hcompleted⟩
  | images =>
    exact h.imp_right (forall_of_forall₂ (fun hrs hr => hr.of_sameWorkload hrs.workload) hframe)
  | healthChecks =>
    obtain ⟨liveness, readiness, hliveness, hreadiness, hcompleted⟩ := h
    exact ⟨liveness, readiness, hliveness, hreadiness,
      forall_of_forall₂ (fun hrs hr => hr.of_sameWorkload hrs.workload) hframe hcompleted⟩
  | registrySecrets =>
    refine forall_of_forall₂ (fun {r s} hrs hr hkind id hid => ?_) hframe h
    rw [hrs.service.kind] at hkind
    obtain hid | hpolicy := hrs.server hkind id hid
    · exact hr hkind id hid
    · exact hservers rfl id hpolicy
  | projectLabels | podAnnotations | volumePermissions | imageTriggers => trivial

/-- Names come before controllers, and leave kinds and pods alone. -/
lemma Ready.name (h : Ready steps before)
    (hstep : ((naming.enricher c).addMissing platform before).Returns after) :
    Ready steps after ∧ after.hasKind Enricher.DefaultController.declaringKinds =
      before.hasKind Enricher.DefaultController.declaringKinds := by
  cases Logged.returns_pure.mp hstep
  have hkind : ∀ name (r : Resource), (Enricher.Naming.nameResource name r).kind = r.kind :=
    fun name r => congrArg Content.kind (Enricher.Naming.content_nameResource name r)
  have hkinds := Collection.hasKind_map Enricher.DefaultController.declaringKinds (hkind
    (c.resourceName Enricher.Naming.name Enricher.Naming.nameKey)) before
  have hpod : ∀ name (r : Resource), (Enricher.Naming.nameResource name r).podSpec? = r.podSpec? :=
    fun name r => congrArg (fun content : Content => content.template?.bind (·.spec))
      (Enricher.Naming.content_nameResource name r)
  refine ⟨⟨fun hnone s hs => ?_, fun himages hsome s hs => ?_⟩, hkinds⟩
  · obtain ⟨r, hr, rfl⟩ := List.mem_map.mp hs
    rw [hkind, hpod]
    exact h.undeclared (hkinds ▸ hnone) r hr
  · obtain ⟨r, hr, rfl⟩ := List.mem_map.mp hs
    rw [hkind, hpod]
    exact h.pods himages (hkinds ▸ hsome) r hr

/-- A controller is declared, or the one that is added declares itself. -/
def Recognises (c : Enricher.Context) (platform : Config.Platform) (d : Collection) : Prop :=
  d.hasKind Enricher.DefaultController.declaringKinds = true ∨
    ∀ kind, Enricher.DefaultController.addedKind? c platform = some kind →
      kind ∈ Enricher.DefaultController.declaringKinds

/-- All enrichers of a run in the standard order leave a collection to which they add nothing. -/
lemma added_of_run (hsub : steps.Sublist all)
    (hnamed : Text.isBlank c.project.defaultResourceName = false)
    (hpolicy : images ∈ steps → Enricher.Images.HasPullPolicy c)
    (hready : defaultController ∈ steps → Ready steps before ∧ Recognises c platform before)
    (h : (addAll c platform steps before).Returns after) :
    ∀ step ∈ steps, Added c platform steps step after := by
  refine Logged.returns_foldlM_forall
    (I := fun step d => step = defaultController → Ready steps d ∧ Recognises c platform d)
    (fun {x y} hxy {b d} hstep hb hy => ?_) (fun step _ {b d} hstep hb => ?_)
    (fun {x y} hxy {b d} hstep hb => ?_) (fun step hmem heq => hready (heq ▸ hmem)) h
  · subst hy
    obtain rfl : x = naming := by
      have hall := hxy.trans hsub
      cases x <;> first | rfl | exact absurd hall (by decide)
    obtain ⟨hb, hrecognises⟩ := hb rfl
    obtain ⟨hd, hkinds⟩ := hb.name hstep
    exact ⟨hd, hrecognises.imp_left hkinds.trans⟩
  · exact added_of_addMissing hnamed (fun heq => (hb heq).1) (fun heq => (hb heq).2) hstep
  · have hmem : y ∈ steps := hxy.subset (by simp)
    exact hb.keeps (hxy.trans hsub) hmem hnamed (fun heq => hpolicy (heq ▸ hmem)) hstep

/-- A service that is complete names its ports. -/
lemma portsNamed_of_addMissing (h : ((defaultService.enricher c).addMissing platform after).Returns
      after) (hdeclared : (Enricher.DefaultService.declared? c).isSome = true) :
    ∀ r ∈ after, r.kind = .service → Enricher.DefaultService.PortsNamed c r := by
  intro r hr hkind
  obtain ⟨d, hd, ⟨_, hmap⟩ | ⟨hnone, _⟩ | ⟨_, service, _, hlonger⟩⟩ :=
    Enricher.DefaultService.addMissing_cases h
  · refine Enricher.DefaultService.portsNamed_of_complete hd hdeclared hkind ?_
    exact List.map_inj_left.mp (hmap.symm.trans (List.map_id after).symm) r hr
  · have hother := Collection.hasKind_eq_false_iff.mp hnone r hr
    exact absurd (List.mem_singleton.mpr hkind) hother
  · exact absurd (congrArg List.length hlonger) (by simp)

/-- A collection to which no controller is added declares one, if there is a kind to add. -/
lemma hasKind_of_addMissing_self
    (h : ((defaultController.enricher c).addMissing platform after).Returns after) :
    after.hasKind Enricher.DefaultController.declaringKinds = true ∨
      Enricher.DefaultController.addedKind? c platform = none := by
  obtain ⟨hkind, _⟩ | ⟨_, hnone, _⟩ | ⟨_, _, added, _, _, hlonger⟩ :=
    Enricher.DefaultController.addMissing_cases h
  · exact .inl hkind
  · exact .inr hnone
  · exact absurd (congrArg List.length hlonger) (by simp)

end StandardEnricher

/-- No kinds change when a collection is adapted. -/
lemma Collection.hasKind_of_adapt {c : Enricher.Context} {platform : Config.Platform}
    {steps : List StandardEnricher} {before after : Collection} {kinds : List Kind}
    (h : (StandardEnricher.adaptAll c platform steps before).Returns after) :
    after.hasKind kinds = before.hasKind kinds := by
  refine Logged.returns_foldlM (R := fun b d : Collection => d.hasKind kinds = b.hasKind kinds)
    (fun _ => rfl) (fun hab hbc => hbc.trans hab) (fun step _ {_ _} hstep => ?_) h
  exact hasKind_of_forall₂ ((StandardEnricher.returns_adapt.mp hstep).imp fun _ _ hrs =>
    (StandardEnricher.relabelled_of_returns hrs).kind)

namespace Enrichment

variable {e : Enrichment} {steps : List StandardEnricher} {platform : Config.Platform}
  {before after : Collection}

/-- Where enrichers do not find anything to add, there is nothing to label or to adapt in a result
either. -/
lemma returns_enrich_self (hruns : e.Runs steps) (h : (e.enrich platform before).Returns after)
    (hadd : ∀ step ∈ steps, ((step.enricher e.context).addMissing platform after).Returns after) :
    (e.enrich platform after).Returns after := by
  obtain ⟨added, _, hadapted⟩ := hruns.returns_enrich.mp h
  obtain ⟨hlabel, hadapt⟩ := Collection.adapt_self_of_label hadapted
  rw [hruns.returns_enrich]
  refine ⟨after, Logged.returns_foldlM_self hadd, ?_⟩
  rw [hlabel]
  exact hadapt

/-- Enrichers that together add nothing do not add anything one by one. -/
lemma addMissing_self_of_enrich (server? : String → Option Config.RegistryServer)
    (hruns : e.Runs steps)
    (hpolicy : .images ∈ steps → Enricher.Images.HasPullPolicy e.context)
    (hservers : .registrySecrets ∈ steps → server? = e.context.project.server?)
    (hannotations : ∀ id, e.context.policy.annotations.all.get?
      Enricher.RegistrySecrets.serverIdKey = some id → server? id = none)
    (h : (e.enrich platform after).Returns after) :
    ∀ step ∈ steps, ((step.enricher e.context).addMissing platform after).Returns after := by
  obtain ⟨added, hadded, hadapted⟩ := hruns.returns_enrich.mp h
  have hlabel := Labelling.progress_le_label (d := e.context.project.defaultResourceName)
    hannotations steps added
  have hadapt := Logged.returns_foldlM
    (R := fun b d : Collection =>
      totalProgress (Resource.progress e.context.project.defaultResourceName server?) b ≤
        totalProgress (Resource.progress e.context.project.defaultResourceName server?) d)
    (fun _ => Nat.le_refl _) Nat.le_trans
    (fun _ _ => StandardEnricher.progress_le_adapt hannotations) hadapted
  refine Logged.returns_foldlM_of_le (fun step hstep => ?_) hadded (hlabel.trans hadapt)
  exact StandardEnricher.advances_addMissing (fun heq => hpolicy (heq ▸ hstep))
    fun heq => hservers (heq ▸ hstep)

/-- A second enrichment changes nothing exactly if no enricher finds anything to add.  A blank pull
policy, or a server that the policy annotates secrets with, could be taken away by one enricher and
given back by another. -/
lemma returns_enrich_self_iff (hruns : e.Runs steps)
    (hpolicy : .images ∈ steps → Enricher.Images.HasPullPolicy e.context)
    (hservers : .registrySecrets ∈ steps → ∀ id, e.context.policy.annotations.all.get?
      Enricher.RegistrySecrets.serverIdKey = some id → e.context.project.server? id = none)
    (h : (e.enrich platform before).Returns after) :
    (e.enrich platform after).Returns after ↔
      ∀ step ∈ steps, ((step.enricher e.context).addMissing platform after).Returns after := by
  refine ⟨fun hself => ?_, returns_enrich_self hruns h⟩
  by_cases hsecrets : .registrySecrets ∈ steps
  · exact addMissing_self_of_enrich _ hruns hpolicy (fun _ => rfl) (hservers hsecrets) hself
  · exact addMissing_self_of_enrich (fun _ => none) hruns hpolicy
      (fun hmem => absurd hmem hsecrets) (fun _ _ => rfl) hself

/-! ### Runs in the standard order -/

/-- Enrichers that run in the standard order, on names and pods that they can complete. -/
structure Regular (e : Enrichment) (steps : List StandardEnricher) (platform : Config.Platform)
    (before : Collection) : Prop where
  ordered : steps.Sublist StandardEnricher.all
  named : Text.isBlank e.context.project.defaultResourceName = false
  untrimmed : .imageTriggers ∈ steps → platform = .openshift →
    e.context.isOn Enricher.ImageTriggers.name Enricher.ImageTriggers.trimImageKey = false
  ready : .defaultController ∈ steps → StandardEnricher.Ready steps before

/-- The labelling and the adaptation keep what adding left. -/
lemma Runs.added (hruns : e.Runs steps) (hregular : e.Regular steps platform before)
    (hpolicy : .images ∈ steps → Enricher.Images.HasPullPolicy e.context)
    (hservers : .registrySecrets ∈ steps → ∀ id, e.context.policy.annotations.all.get?
      Enricher.RegistrySecrets.serverIdKey = some id → e.context.project.server? id = none)
    (hrecognises : .defaultController ∈ steps →
      StandardEnricher.Recognises e.context platform before)
    (h : (e.enrich platform before).Returns after) :
    ∀ step ∈ steps, StandardEnricher.Added e.context platform steps step after := by
  intro step hstep
  obtain ⟨added, hadded, hadapted⟩ := hruns.returns_enrich.mp h
  have hframe : ∀ {b d : Collection}, List.Forall₂ (Resource.Frame e.context) b d →
      StandardEnricher.Added e.context platform steps step b →
      StandardEnricher.Added e.context platform steps step d :=
    StandardEnricher.Added.of_frame fun heq => hservers (heq ▸ hstep)
  have hleft := StandardEnricher.added_of_run hregular.ordered hregular.named hpolicy
    (fun hmem => ⟨hregular.ready hmem, hrecognises hmem⟩) hadded step hstep
  have hlabelled := hframe (List.forall₂_map_right_iff.mpr (List.forall₂_same.mpr fun r _ =>
    Labelling.frame_labelResource steps r)) hleft
  refine Logged.returns_foldlM
    (R := fun b d => StandardEnricher.Added e.context platform steps step b →
      StandardEnricher.Added e.context platform steps step d) (fun _ => id)
    (fun hab hbc => hbc ∘ hab) (fun x hx {b d} hxd => ?_) hadapted hlabelled
  refine hframe ((StandardEnricher.returns_adapt.mp hxd).imp fun r s => ?_)
  exact StandardEnricher.frame_of_returns fun heq => hregular.untrimmed (heq ▸ hx)

/-- No kind of controller turns up but the one that is added. -/
lemma Runs.hasKind (hruns : e.Runs steps) {kind : Kind}
    (hadded : Enricher.DefaultController.addedKind? e.context platform = some kind)
    (hkind : kind ∉ Enricher.DefaultController.declaringKinds)
    (h : (e.enrich platform before).Returns after) :
    after.hasKind Enricher.DefaultController.declaringKinds =
      before.hasKind Enricher.DefaultController.declaringKinds := by
  obtain ⟨added, hrun, hadapted⟩ := hruns.returns_enrich.mp h
  have happends : ∀ (step : StandardEnricher) r, step.Appends e.context platform r →
      r.kind ∉ Enricher.DefaultController.declaringKinds := by
    intro step r hr
    by_cases hstep : step = .defaultController
    · subst hstep
      obtain ⟨kind', hkind', hcontroller⟩ := hr
      cases hadded.symm.trans hkind'
      rwa [(Enricher.DefaultController.returns_controller? hcontroller).2.1]
    · rw [(StandardEnricher.kind_of_appends hstep hr).2]
      decide
  have hadd : added.hasKind Enricher.DefaultController.declaringKinds =
      before.hasKind Enricher.DefaultController.declaringKinds := by
    refine Logged.returns_foldlM (R := fun b d : Collection =>
      d.hasKind Enricher.DefaultController.declaringKinds =
        b.hasKind Enricher.DefaultController.declaringKinds) (fun _ => rfl)
      (fun hab hbc => hbc.trans hab) (fun step _ {_ _} hstep => ?_) hrun
    exact StandardEnricher.hasKind_eq_of_addMissing hstep (happends step)
  rw [Collection.hasKind_of_adapt hadapted, Collection.hasKind_map _
    (Labelling.kind_labelResource _ _), hadd]

/-- What enrichers may find to add to the result of a regular run is a name for a port of the
declared service, or a controller beside one of a kind that declares none. -/
lemma returns_enrich_self_iff_of_regular (hruns : e.Runs steps)
    (hregular : e.Regular steps platform before)
    (hpolicy : .images ∈ steps → Enricher.Images.HasPullPolicy e.context)
    (hservers : .registrySecrets ∈ steps → ∀ id, e.context.policy.annotations.all.get?
      Enricher.RegistrySecrets.serverIdKey = some id → e.context.project.server? id = none)
    (h : (e.enrich platform before).Returns after) :
    (e.enrich platform after).Returns after ↔
      (.defaultService ∈ steps → (Enricher.DefaultService.declared? e.context).isSome = true →
        ∀ r ∈ after, r.kind = .service → Enricher.DefaultService.PortsNamed e.context r) ∧
      (.defaultController ∈ steps →
        StandardEnricher.Recognises e.context platform before) := by
  rw [returns_enrich_self_iff hruns hpolicy hservers h]
  constructor
  · intro hself
    refine ⟨fun hmem => StandardEnricher.portsNamed_of_addMissing (hself _ hmem), fun hmem => ?_⟩
    by_contra hnot
    obtain ⟨hbefore, hkinds⟩ := not_or.mp hnot
    obtain ⟨kind, hkind⟩ := not_forall.mp hkinds
    obtain ⟨hadded, hdeclaring⟩ := Classical.not_imp.mp hkind
    obtain hafter | hnone := StandardEnricher.hasKind_of_addMissing_self (hself _ hmem)
    · exact hbefore ((hruns.hasKind hadded hdeclaring h).symm.trans hafter)
    · cases hadded.symm.trans hnone
  · rintro ⟨hports, hrecognises⟩ step hstep
    exact (hruns.added hregular hpolicy hservers hrecognises h step hstep).returns_self
      fun heq => hports (heq ▸ hstep)

theorem enrich_twice_iff (hruns : e.Runs steps)
    (hpolicy : .images ∈ steps → Enricher.Images.HasPullPolicy e.context)
    (hservers : .registrySecrets ∈ steps → ∀ id, e.context.policy.annotations.all.get?
      Enricher.RegistrySecrets.serverIdKey = some id → e.context.project.server? id = none)
    (h : (e.enrich platform before).Returns after) :
    ((e.enrich platform after).Returns after ↔
      ∀ step ∈ steps, ((step.enricher e.context).addMissing platform after).Returns after) ∧
    (e.Regular steps platform before → ((e.enrich platform after).Returns after ↔
      (.defaultService ∈ steps → (Enricher.DefaultService.declared? e.context).isSome = true →
        ∀ r ∈ after, r.kind = .service → Enricher.DefaultService.PortsNamed e.context r) ∧
      (.defaultController ∈ steps →
        StandardEnricher.Recognises e.context platform before))) :=
  ⟨returns_enrich_self_iff hruns hpolicy hservers h, fun hregular =>
    returns_enrich_self_iff_of_regular hruns hregular hpolicy hservers h⟩

theorem enrich_twice_shop :
    ∃ after, shop.Runs (StandardEnricher.all.erase .registrySecrets) ∧
      (shop.enrich .openshift shopManifests).Returns after ∧
      (shop.enrich .openshift after).Returns after := by
  have hruns : shop.Runs (StandardEnricher.all.erase .registrySecrets) := by rfl
  obtain ⟨after, h⟩ : ∃ after, (shop.enrich .openshift shopManifests).Returns after :=
    Logged.exists_returns (by decide +kernel)
  have hpolicy : Enricher.Images.HasPullPolicy shop.context := by
    intro policy hpolicy
    have hnone : shop.context.text? Enricher.Images.name Enricher.Images.pullPolicyKey = none := by
      decide +kernel
    cases hnone.symm.trans hpolicy
  have hdeclared : shopManifests.hasKind Enricher.DefaultController.declaringKinds = true := by
    decide
  have hregular : shop.Regular (StandardEnricher.all.erase .registrySecrets) .openshift
      shopManifests :=
    { ordered := by decide
      named := by decide +kernel
      untrimmed := fun _ _ => by decide +kernel
      ready := fun _ => ⟨fun hnone => (by rw [hdeclared] at hnone; cases hnone), fun _ _ r hr _ =>
        .inl (by cases List.mem_singleton.mp hr; rfl)⟩ }
  refine ⟨after, hruns, h, ?_⟩
  refine ((enrich_twice_iff hruns (fun _ => hpolicy) (fun hmem => absurd hmem (by decide)) h).2
    hregular).mpr ⟨fun _ hsome => ?_, fun _ => .inl hdeclared⟩
  -- The image exposes no port, so no service is declared.
  have hnone : (Enricher.DefaultService.declared? shop.context).isSome = false := by
    decide +kernel
  rw [hnone] at hsome
  cases hsome

end Enrichment
end Manifests
