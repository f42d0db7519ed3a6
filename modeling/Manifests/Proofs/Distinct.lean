import Manifests.Proofs.Identity
import Manifests.Proofs.Repetition.Enrichment

/-! Resources of one kind and name, which would overwrite each other.  An enrichment of resources
that are named apart makes none, unless it adds a controller of a kind that it does not recognise as
one that is declared: beside a controller of that kind and name, or once more when it runs again. -/
namespace Manifests

namespace Enricher.DefaultController

variable {c : Context} {platform : Config.Platform}

/-- The name of the controller to add: that of the policy, unless it is blank. -/
def addedName (c : Context) : String :=
  (c.policy.controllerName.filter fun n => !Text.isBlank n).getD (defaultName c)

lemma controllerName_completedPolicy :
    (completedPolicy c).controllerName = some (addedName c) := by
  dsimp only [completedPolicy, addedName, fillText]
  cases c.policy.controllerName with
  | none => rfl
  | some name =>
    cases hblank : Text.isBlank name <;> simp [Option.filter, Text.isSome_nonBlank?, hblank]

lemma identity_of_returns_controller? {kind : Kind} {r : Resource}
    (h : ((blueprint c).controller? kind c.images).Returns (some r)) :
    r.identity = (kind, some (addedName c)) := by
  obtain ⟨hnamed, hkind, hname, _⟩ := returns_controller? h
  obtain ⟨name, hsome, hblank⟩ := Resource.named_iff.mp hnamed
  have hadded : some name = some (addedName c) :=
    (hsome.symm.trans hname).trans controllerName_completedPolicy
  refine Prod.ext hkind ?_
  change r.name? = some (addedName c)
  rw [← hadded, Resource.name?, hsome]
  simp [hblank]

end Enricher.DefaultController

namespace StandardEnricher

open Enricher.DefaultController (declaringKinds addedKind? addedName)

variable {c : Enricher.Context} {platform : Config.Platform} {steps : List StandardEnricher}
  {e : StandardEnricher} {r s : Resource} {before after : Collection}

/-! ### What one enricher adds -/

/-- What becomes of the kinds and names when an enricher adds to a collection. -/
inductive Grows (c : Enricher.Context) (platform : Config.Platform) (e : StandardEnricher)
    (before : Collection) : Collection → Prop where
  | kept {after : Collection} (resources : List.Forall₂ Resource.KeepsIdentity before after)
      (declared : e = defaultController →
        before.hasKind declaringKinds = true ∨ addedKind? c platform = none) :
      Grows c platform e before after
  | service {s : Resource} (step : e = defaultService) (kind : s.kind = .service)
      (undeclared : before.hasKind [.service] = false) : Grows c platform e before (before ++ [s])
  | controller {s : Resource} {kind : Kind} (step : e = defaultController)
      (added : addedKind? c platform = some kind)
      (identity : s.identity = (kind, some (addedName c)))
      (undeclared : before.hasKind declaringKinds = false) :
      Grows c platform e before (before ++ [s])

lemma keepsIdentity_of_completes (h : e.Completes c r s) : r.KeepsIdentity s :=
  .of_keepsText (kind_of_completes h) (keepsName_of_completes h)

lemma name_adaptResource (h : (e.adaptResource c platform r).Returns s) :
    s.metadata.name = r.metadata.name := by
  cases e with
  | projectLabels =>
    cases Logged.returns_pure.mp h
    rfl
  | podAnnotations =>
    cases Logged.returns_pure.mp h
    unfold Enricher.PodAnnotations.annotateResource
    split <;> rfl
  | volumePermissions =>
    obtain ⟨_, rfl, _⟩ := Enricher.VolumePermissions.adaptResource_cases h
    rfl
  | imageTriggers =>
    cases Logged.returns_pure.mp h
    split
    · exact congrArg ObjectMeta.name (Enricher.ImageTriggers.adaptResource_keeps r).1
    · rfl
  | naming | defaultController | defaultService | images | healthChecks | registrySecrets =>
    cases Logged.returns_pure.mp h
    rfl

lemma keepsIdentity_of_adaptResource (h : (e.adaptResource c platform r).Returns s) :
    r.KeepsIdentity s := .of_name (relabelled_of_returns h).kind (name_adaptResource h)

lemma grows_of_addMissing (h : ((e.enricher c).addMissing platform before).Returns after) :
    Grows c platform e before after := by
  by_cases hcontroller : e = defaultController
  · subst hcontroller
    obtain ⟨hkind, t, ht, rfl⟩ | ⟨_, hnone, rfl⟩ | ⟨hkind, _, _, hadded, hcontroller, rfl⟩ :=
      Enricher.DefaultController.addMissing_cases h
    · have hcompletes : ∀ r, defaultController.Completes c r _ := fun r => .inr ⟨t, ht, rfl⟩
      exact .kept (forall₂_map fun r => keepsIdentity_of_completes (hcompletes r))
        fun _ => .inl hkind
    · exact .kept (List.forall₂_same.mpr fun r _ => .refl r) fun _ => .inr hnone
    · exact .controller rfl hadded
        (Enricher.DefaultController.identity_of_returns_controller? hcontroller) hkind
  · by_cases hservice : e = defaultService
    · subst hservice
      obtain ⟨d, hd, ⟨_, rfl⟩ | ⟨_, _, rfl⟩ | ⟨hkind, service, hservice, rfl⟩⟩ :=
        Enricher.DefaultService.addMissing_cases h
      · have hcompletes : ∀ r, defaultService.Completes c r _ := fun r => .inr ⟨d, hd, rfl⟩
        exact .kept (forall₂_map fun r => keepsIdentity_of_completes (hcompletes r)) nofun
      · exact .kept (List.forall₂_same.mpr fun r _ => .refl r) nofun
      · have happends : defaultService.Appends c platform service := ⟨d, hd, hservice⟩
        exact .service rfl (kind_of_appends hcontroller happends).2 hkind
    · have hkept := completes_of_addMissing hcontroller hservice h
      exact .kept (hkept.imp fun _ _ => keepsIdentity_of_completes)
        fun heq => absurd heq hcontroller

/-! ### Runs -/

/-- Whatever controllers the steps add finds no other one of its kind and name. -/
def HasRoom (c : Enricher.Context) (platform : Config.Platform) (steps : List StandardEnricher)
    (d : Collection) : Prop :=
  Recognises c platform d ∨ ∀ kind, addedKind? c platform = some kind →
    steps.count defaultController = 0 ∨ steps.count defaultController = 1 ∧
      ∀ r ∈ d, r.kind = kind → r.Named ∧ r.name? ≠ some (addedName c)

lemma Grows.pairwise_apart (h : Grows c platform e before after)
    (hroom : HasRoom c platform (e :: steps) before) (hbefore : before.Pairwise Resource.Apart) :
    after.Pairwise Resource.Apart := by
  cases h with
  | kept hresources _ => exact Collection.pairwise_apart_of_forall₂ hresources hbefore
  | @service s _ hkind hundeclared =>
    refine Collection.pairwise_apart_append hbefore fun r hr hsame => ?_
    have hother := Collection.hasKind_eq_false_iff.mp hundeclared r hr
    exact absurd (List.mem_singleton.mpr (hsame.trans hkind)) hother
  | @controller s kind hstep hadded hidentity hundeclared =>
    refine Collection.pairwise_apart_append hbefore fun r hr hsame => ?_
    obtain ⟨hkind, hname⟩ := Prod.mk.inj hidentity
    have hrkind : r.kind = kind := hsame.trans hkind
    obtain (hdeclared | hrecognised) | hroom := hroom
    · cases hundeclared.symm.trans hdeclared
    · have hother := Collection.hasKind_eq_false_iff.mp hundeclared r hr
      exact absurd (hrkind ▸ hrecognised kind hadded) hother
    · obtain hzero | ⟨_, hothers⟩ := hroom kind hadded
      · rw [hstep, List.count_cons_self] at hzero
        cases hzero
      · obtain ⟨hnamed, hne⟩ := hothers r hr hrkind
        exact ⟨hnamed, Option.isSome_iff_exists.mpr ⟨_, hname⟩, hname ▸ hne⟩

lemma Grows.hasRoom (h : Grows c platform e before after)
    (hroom : HasRoom c platform (e :: steps) before) : HasRoom c platform steps after := by
  cases h with
  | kept hresources hdeclared =>
    have hkinds : after.hasKind declaringKinds = before.hasKind declaringKinds :=
      Collection.hasKind_of_forall₂ (hresources.imp fun _ _ h => h.kind)
    -- Where the enricher of controllers finds nothing to add, it will not find anything later.
    by_cases hstep : e = defaultController
    · refine .inl ((hdeclared hstep).imp hkinds.trans fun hnone kind hadded => ?_)
      cases hnone.symm.trans hadded
    · refine hroom.imp (.imp_left hkinds.trans) fun hroom kind hadded => ?_
      rw [← List.count_cons_of_ne hstep]
      refine (hroom kind hadded).imp_right (.imp_right fun hothers => ?_)
      refine forall_of_forall₂ (fun {r s} hrs hr hkind => ?_) hresources hothers
      obtain ⟨hnamed, hne⟩ := hr (hrs.kind.symm.trans hkind)
      exact ⟨hrs.named hnamed, hrs.name hnamed ▸ hne⟩
  | @service s hstep hkind _ =>
    refine hroom.imp (.imp_left fun hdeclared => ?_) fun hroom kind hadded => ?_
    · rw [Collection.hasKind_append, hdeclared, Bool.true_or]
    · rw [← List.count_cons_of_ne (hstep ▸ by decide : e ≠ defaultController)]
      refine (hroom kind hadded).imp_right (.imp_right fun hothers r hr hrkind => ?_)
      obtain hr | hr := List.mem_append.mp hr
      · exact hothers r hr hrkind
      · cases List.mem_singleton.mp hr
        have hcontroller := Enricher.DefaultController.isController_of_addedKind? hadded
        rw [← hrkind, hkind] at hcontroller
        cases hcontroller
  | @controller s kind hstep hadded hidentity hundeclared =>
    obtain (hdeclared | hrecognised) | hroom := hroom
    · cases hundeclared.symm.trans hdeclared
    · have hkind : s.kind = kind := congrArg Prod.fst hidentity
      refine .inl (.inl ?_)
      rw [Collection.hasKind_append]
      simp [Collection.hasKind, hkind, hrecognised kind hadded]
    · obtain hcount | ⟨hcount, _⟩ := hroom kind hadded
      all_goals rw [hstep, List.count_cons_self] at hcount
      · cases hcount
      · exact .inr fun _ _ => .inl (Nat.succ.inj hcount)

lemma pairwise_apart_of_addAll (h : (addAll c platform steps before).Returns after)
    (hroom : HasRoom c platform steps before) (hbefore : before.Pairwise Resource.Apart) :
    after.Pairwise Resource.Apart := by
  unfold addAll at h
  induction steps generalizing before with
  | nil => exact Logged.returns_pure.mp h ▸ hbefore
  | cons step steps ih =>
    rw [List.foldlM_cons, Logged.returns_bind] at h
    obtain ⟨d, hd, h⟩ := h
    have hgrows := grows_of_addMissing hd
    exact ih h (hgrows.hasRoom hroom) (hgrows.pairwise_apart hroom hbefore)

/-- A controller that is not recognised is added again and again. -/
lemma Grows.count_le {kind : Kind} (h : Grows c platform e before after)
    (hadded : addedKind? c platform = some kind) (hkind : kind ∉ declaringKinds)
    (hbefore : before.hasKind declaringKinds = false) :
    after.hasKind declaringKinds = false ∧
      (before.map Resource.identity).count (kind, some (addedName c)) +
          [e].count defaultController ≤
        (after.map Resource.identity).count (kind, some (addedName c)) := by
  cases h with
  | kept hresources hdeclared =>
    have hstep : e ≠ defaultController := by
      intro hstep
      obtain hdeclared | hnone := hdeclared hstep
      · cases hbefore.symm.trans hdeclared
      · cases hadded.symm.trans hnone
    rw [Collection.hasKind_of_forall₂ (hresources.imp fun _ _ h => h.kind), hbefore,
      List.count_singleton, if_neg (by simpa using hstep), Nat.add_zero]
    exact ⟨rfl, Collection.count_le_of_forall₂ hresources _ _⟩
  | @service s hstep hservice _ =>
    subst hstep
    rw [Collection.hasKind_append, hbefore, List.map_append, List.count_append]
    refine ⟨?_, Nat.le_add_right _ _⟩
    simp [Collection.hasKind, hservice, declaringKinds]
  | @controller s kind' hstep hadded' hidentity _ =>
    cases hadded.symm.trans hadded'
    have hskind : s.kind = kind := congrArg Prod.fst hidentity
    rw [Collection.hasKind_append, hbefore, List.map_append, List.count_append, hstep]
    refine ⟨by simpa [Collection.hasKind, hskind] using hkind, Nat.add_le_add_left ?_ _⟩
    rw [List.map_singleton, hidentity, List.count_singleton_self, List.count_singleton_self]

lemma count_le_of_addAll {kind : Kind} (h : (addAll c platform steps before).Returns after)
    (hadded : addedKind? c platform = some kind) (hkind : kind ∉ declaringKinds)
    (hbefore : before.hasKind declaringKinds = false) :
    (before.map Resource.identity).count (kind, some (addedName c)) +
        steps.count defaultController ≤
      (after.map Resource.identity).count (kind, some (addedName c)) := by
  unfold addAll at h
  induction steps generalizing before with
  | nil =>
    cases Logged.returns_pure.mp h
    exact Nat.le_refl _
  | cons step steps ih =>
    rw [List.foldlM_cons, Logged.returns_bind] at h
    obtain ⟨d, hd, h⟩ := h
    obtain ⟨hnone, hcount⟩ := (grows_of_addMissing hd).count_le hadded hkind hbefore
    have hrest := ih h hnone
    have hsteps : (step :: steps).count defaultController =
        [step].count defaultController + steps.count defaultController := by
      rw [← List.count_append, List.singleton_append]
    omega

lemma hasRoom_of_count_le (hnamed : ∀ r ∈ before, r.Named)
    (h : Recognises c platform before ∨ ∀ kind, addedKind? c platform = some kind →
      steps.count defaultController +
        (before.map Resource.identity).count (kind, some (addedName c)) ≤ 1) :
    HasRoom c platform steps before := by
  refine h.imp_right fun hcount kind hadded => ?_
  have hle := hcount kind hadded
  by_cases hzero : steps.count defaultController = 0
  · exact .inl hzero
  · refine .inr ⟨by omega, fun r hr hkind => ⟨hnamed r hr, fun hname => ?_⟩⟩
    have hmem : (kind, some (addedName c)) ∈ before.map Resource.identity :=
      List.mem_map.mpr ⟨r, hr, Prod.ext hkind hname⟩
    have hpos := List.count_pos_iff.mpr hmem
    omega

end StandardEnricher

namespace Enrichment

open Enricher.DefaultController (addedKind? addedName)

variable {e : Enrichment} {steps : List StandardEnricher} {platform : Config.Platform}
  {before after : Collection}

/-- Labelling and adapting leave kinds and names alone. -/
lemma keepsIdentities_of_adaptAll {policy : Config.Policy} {enrichers : List Enricher}
    {c : Enricher.Context} {added : Collection}
    (h : (StandardEnricher.adaptAll c platform steps
      (added.map (Labelling.labelResource policy enrichers))).Returns after) :
    List.Forall₂ Resource.KeepsIdentity added after := by
  have hlabelled : List.Forall₂ Resource.KeepsIdentity added
      (added.map (Labelling.labelResource policy enrichers)) :=
    StandardEnricher.forall₂_map fun r => .of_name (Labelling.kind_labelResource ..) rfl
  refine forall₂_trans .trans hlabelled ?_
  refine Logged.returns_foldlM (R := List.Forall₂ Resource.KeepsIdentity)
    (fun _ => List.forall₂_same.mpr fun r _ => .refl r) (forall₂_trans .trans) ?_ h
  intro step _ b d hstep
  exact (StandardEnricher.returns_adapt.mp hstep).imp fun _ _ =>
    StandardEnricher.keepsIdentity_of_adaptResource

lemma Runs.distinct_iff (hruns : e.Runs steps) (hnamed : ∀ r ∈ before, r.Named)
    (hdistinct : before.Distinct) (h : (e.enrich platform before).Returns after) :
    after.Distinct ↔ StandardEnricher.Recognises e.context platform before ∨
      ∀ kind, addedKind? e.context platform = some kind →
        steps.count .defaultController +
          (before.map Resource.identity).count (kind, some (addedName e.context)) ≤ 1 := by
  obtain ⟨added, hadded, hadapted⟩ := hruns.returns_enrich.mp h
  have hkept := keepsIdentities_of_adaptAll hadapted
  constructor
  · intro hafter
    by_contra hnot
    obtain ⟨hrecognises, hcount⟩ := not_or.mp hnot
    obtain ⟨hdeclared, hkinds⟩ := not_or.mp hrecognises
    obtain ⟨kind, hkind⟩ := not_forall.mp hkinds
    obtain ⟨hkind, hdeclaring⟩ := Classical.not_imp.mp hkind
    obtain ⟨kind', hcount⟩ := not_forall.mp hcount
    obtain ⟨hkind', hcount⟩ := Classical.not_imp.mp hcount
    cases hkind.symm.trans hkind'
    -- Every run of the enricher adds one more controller of this kind and name.
    have hgrown := StandardEnricher.count_le_of_addAll hadded hkind hdeclaring
      (Bool.eq_false_iff.mpr hdeclared)
    have hfound := Collection.count_le_of_forall₂ hkept kind (addedName e.context)
    have hunique := List.nodup_iff_count_le_one.mp hafter (kind, some (addedName e.context))
    omega
  · intro hroom
    exact Collection.distinct_of_pairwise (Collection.pairwise_apart_of_forall₂ hkept
      (StandardEnricher.pairwise_apart_of_addAll hadded
        (StandardEnricher.hasRoom_of_count_le hnamed hroom) (hdistinct.pairwise hnamed)))

theorem distinct_enrich_iff {files : FileTree} {c : Enricher.Context}
    (he : ofContext files StandardEnricher.registry c = .ok e) (hnamed : ∀ r ∈ before, r.Named)
    (hdistinct : before.Distinct) (h : (e.enrich platform before).Returns after) :
    ∃ steps, e.Runs steps ∧
      (after.Distinct ↔ StandardEnricher.Recognises e.context platform before ∨
        ∀ kind, addedKind? e.context platform = some kind →
          steps.count .defaultController +
            (before.map Resource.identity).count (kind, some (addedName e.context)) ≤ 1) := by
  obtain ⟨added, hadded, _⟩ := returns_enrich.mp h
  obtain ⟨active, hactive, _⟩ := Logged.returns_bind.mp hadded
  obtain ⟨steps, hruns⟩ := exists_runs he hactive
  exact ⟨steps, hruns, hruns.distinct_iff hnamed hdistinct h⟩

/-- The context of a project for which a stateful set is to be added where no controller is
declared. -/
def statefulContext : Enricher.Context where
  project := { (default : Config.Project) with artifactId := "shop", groupId := "org" }
  images := []
  policy := default
  selection := (default : Config.Selection).withSetting Enricher.DefaultController.name
    Enricher.DefaultController.typeKey.name "statefulset"
  envDefaults := none

/-- A stateful set that is called like the project. -/
def statefulManifests : Collection :=
  [{ metadata := { (default : ObjectMeta) with name := some "shop" }
     content := .statefulSet (some default) }]

/-- The stateful set does not count as declared, and another one of its name is added. -/
theorem distinct_enrich_statefulSet :
    ∃ e after, ofContext default StandardEnricher.registry statefulContext = .ok e ∧
      (∀ r ∈ statefulManifests, r.Named) ∧ statefulManifests.Distinct ∧
      (e.enrich .kubernetes statefulManifests).Returns after ∧ ¬after.Distinct := by
  have hplain : statefulContext.selection.IsPlain := ⟨rfl, rfl, rfl⟩
  have he : ofContext default StandardEnricher.registry statefulContext = .ok
      ⟨statefulContext, StandardEnricher.all.map (StandardEnricher.enricher statefulContext)⟩ :=
    ofContext_of_isPlain hplain
  have hnamed : ∀ r ∈ statefulManifests, r.Named := by
    intro r hr
    cases List.mem_singleton.mp hr
    rfl
  have hdistinct : statefulManifests.Distinct := List.nodup_singleton _
  obtain ⟨after, h⟩ := Logged.exists_returns (x := Enrichment.enrich ⟨statefulContext,
    StandardEnricher.all.map (StandardEnricher.enricher statefulContext)⟩ .kubernetes
    statefulManifests) (by decide +kernel)
  refine ⟨_, after, he, hnamed, hdistinct, h, ?_⟩
  obtain ⟨steps, hruns, hiff⟩ := distinct_enrich_iff he hnamed hdistinct h
  rw [hiff]
  have hadded : addedKind? statefulContext .kubernetes = some .statefulSet := by decide +kernel
  rintro ((hdeclared | hrecognised) | hcount)
  · cases hdeclared
  · exact absurd (hrecognised _ hadded) (by decide)
  · have hsteps : steps = StandardEnricher.all := hruns.unique (runs_all_of_isPlain hplain)
    rw [hsteps] at hcount
    exact absurd (hcount _ hadded) (by decide +kernel)

end Enrichment
end Manifests
