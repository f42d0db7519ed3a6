import Manifests.Proofs.Contributions
import Manifests.Proofs.Repetition.Added

/-! The annotations of pods and where they come from.  The template of a generated controller starts
with those of the policy for pods; the labelling adds the policy's entries for the kind, in which
those for all kinds come first; and what a template has is never replaced. -/
namespace Manifests

def PodTemplateSpec.annotations (t : PodTemplateSpec) : SortedMap String :=
  (t.metadata.bind (·.annotations)).getD ∅

/-- Absent metadata count as empty. -/
lemma PodTemplateSpec.annotations_eq (t : PodTemplateSpec) :
    t.annotations = (t.metadata.getD default).annotations.getD ∅ := by
  unfold annotations
  cases t.metadata <;> rfl

namespace Resource

/-- The annotations of the pods; none where there is no template for them. -/
def podAnnotations (r : Resource) : SortedMap String :=
  (r.template?.map PodTemplateSpec.annotations).getD ∅

/-- The resource has a pod specification, and the template around it has the annotations. -/
structure Annotated (annotations : SortedMap String) (r : Resource) : Prop where
  podAnnotations : r.podAnnotations = annotations
  podSpec : r.podSpec?.isSome = true

lemma exists_template_of_podAnnotations {r : Resource} {k v : String}
    (h : r.podAnnotations.get? k = some v) :
    ∃ t, r.template? = some t ∧ t.annotations.get? k = some v := by
  unfold podAnnotations at h
  cases ht : r.template? with
  | none =>
    rw [ht] at h
    cases h
  | some t =>
    rw [ht] at h
    exact ⟨t, rfl, h⟩

lemma podAnnotations_modifyTemplate {r : Resource} {f : PodTemplateSpec → PodTemplateSpec}
    (hf : ∀ t, (f t).annotations = t.annotations) :
    (r.modifyTemplate f).podAnnotations = r.podAnnotations := by
  unfold podAnnotations
  rw [template?_modifyTemplate, Option.map_map]
  exact congrArg (fun g => (r.template?.map g).getD ∅) (funext hf)

@[simp] lemma podAnnotations_modifyPodSpec (f : PodSpec → PodSpec) (r : Resource) :
    (r.modifyPodSpec f).podAnnotations = r.podAnnotations :=
  podAnnotations_modifyTemplate fun _ => rfl

@[simp] lemma podAnnotations_ensureTemplate (r : Resource) :
    r.ensureTemplate.podAnnotations = r.podAnnotations := by
  obtain ⟨m, content⟩ := r
  cases content with
  | service | secret | configMap => rfl
  | podTemplate t => cases t <;> rfl
  | deployment spec | statefulSet spec | daemonSet spec | job spec => cases spec <;> rfl
  | replicaSet spec | replicationController spec | deploymentConfig _ spec =>
    cases spec with
    | none => rfl
    | some s =>
      change (s.template.getD default).ensureSpec.annotations =
        (s.template.map PodTemplateSpec.annotations).getD ∅
      cases s.template <;> rfl

lemma podAnnotations_of_podless {r : Resource} (h : r.kind ∈ podlessKinds) :
    r.podAnnotations = ∅ := by
  obtain ⟨m, content⟩ := r
  cases content with
  | service | secret | configMap => rfl
  | _ => simp [podlessKinds, kind, Content.kind] at h

end Resource

/-! ### Adding what is missing -/

namespace Enricher.DefaultController

variable {c : Context} {kind : Kind} {r : Resource}

@[simp] lemma podAnnotations_ensureDeployment (replicas : Int32) (r : Resource) :
    (ensureDeployment replicas r).podAnnotations = r.podAnnotations := by
  obtain ⟨m, content⟩ := r
  cases content with
  | deployment spec => cases spec <;> rfl
  | _ => rfl

lemma annotations_podTemplate {b : Blueprint} {images : List Config.Image} {t : PodTemplateSpec}
    (h : (b.podTemplate images).Returns t) : t.annotations = b.policy.annotations.pod := by
  simp only [Blueprint.podTemplate, Logged.returns_bind, Logged.returns_pure] at h
  obtain ⟨_, _, _, _, _, _, rfl⟩ := h
  change b.podAnnotations?.getD ∅ = _
  dsimp only [Blueprint.podAnnotations?]
  split
  next hempty => exact (SortedMap.isEmpty_iff.mp hempty).symm
  next => rfl

/-- The template of a generated controller has the annotations of the policy for pods. -/
lemma annotated_controller (h : ((blueprint c).controller? kind c.images).Returns (some r)) :
    r.Annotated c.policy.annotations.pod := by
  unfold Blueprint.controller? at h
  split at h
  next hkind =>
    simp only [Logged.returns_bind, Logged.returns_pure] at h
    obtain ⟨name, _, t, ht, h⟩ := h
    have hannotations := annotations_podTemplate ht
    obtain ⟨spec, hspec, _⟩ := returns_podTemplate ht
    cases kind with
    | service | secret | configMap | podTemplate => cases hkind
    | job =>
      cases h
      refine ⟨hannotations, ?_⟩
      change (t.spec.map PodSpec.restartOnFailure).isSome = true
      rw [hspec]
      rfl
    | _ =>
      cases h
      refine ⟨hannotations, ?_⟩
      change t.spec.isSome = true
      rw [hspec]
      rfl
  next => cases Logged.returns_pure.mp h

end Enricher.DefaultController

namespace StandardEnricher

variable {c : Enricher.Context} {platform : Config.Platform} {e : StandardEnricher}
  {steps : List StandardEnricher} {r s : Resource} {before after : Collection}

/-- No step that adds what is missing annotates the pods of a resource that is there. -/
lemma podAnnotations_of_completes (h : e.Completes c r s) :
    s.podAnnotations = r.podAnnotations := by
  have hpodless : r.kind ∈ Resource.podlessKinds → s.podAnnotations = r.podAnnotations := by
    intro hr
    rw [Resource.podAnnotations_of_podless hr,
      Resource.podAnnotations_of_podless (kind_of_completes h ▸ hr)]
  cases e with
  | naming =>
    cases h
    unfold Enricher.Naming.nameResource
    split <;> rfl
  | defaultController =>
    obtain rfl | ⟨t, _, rfl⟩ := h
    · rfl
    · simp [Enricher.DefaultController.complete]
  | defaultService =>
    by_cases hservice : r.kind = .service
    · exact hpodless (hservice ▸ by decide)
    · obtain rfl | ⟨d, _, rfl⟩ := h
      · rfl
      · rw [Enricher.DefaultService.complete_of_kind hservice]
  | images =>
    obtain rfl | ⟨_, h⟩ := h
    · rfl
    · obtain ⟨_, rfl⟩ | ⟨_, containers, _, rfl⟩ := Enricher.Images.complete_cases h
      · rfl
      · simp
  | healthChecks =>
    obtain rfl | ⟨_, _, h⟩ := h
    · rfl
    · rw [Enricher.HealthChecks.returns_complete] at h
      subst h
      split <;> simp
  | registrySecrets =>
    obtain ⟨rfl, _⟩ | ⟨hsecret, _⟩ := Enricher.RegistrySecrets.complete_cases h
    · rfl
    · exact hpodless (hsecret ▸ by decide)
  | projectLabels | podAnnotations | volumePermissions | imageTriggers =>
    cases h
    rfl

lemma annotated_of_completes {annotations : SortedMap String} (h : e.Completes c r s)
    (hr : r.Annotated annotations) : s.Annotated annotations :=
  ⟨(podAnnotations_of_completes h).trans hr.podAnnotations,
    isSome_podSpec?_of_completes h hr.podSpec⟩

lemma annotated_of_appends (h : e.Appends c platform r)
    (hkind : r.kind.isController = true) :
    r.Annotated c.policy.annotations.pod := by
  by_cases he : e = defaultController
  · subst he
    obtain ⟨_, _, h⟩ := h
    exact Enricher.DefaultController.annotated_controller h
  · rw [(kind_of_appends he h).2] at hkind
    cases hkind

/-- The controllers that are added to nothing have the annotations of the policy for pods. -/
lemma annotated_of_addAll (h : (addAll c platform steps []).Returns after) :
    ∀ r ∈ after, r.kind.isController = true → r.Annotated c.policy.annotations.pod := by
  refine Logged.returns_foldlM (R := fun b d : Collection =>
    (∀ r ∈ b, r.kind.isController = true → r.Annotated c.policy.annotations.pod) →
    ∀ r ∈ d, r.kind.isController = true → r.Annotated c.policy.annotations.pod) (fun _ => id)
    (fun hab hbc => hbc ∘ hab) (fun step _ _ _ hstep => ?_) h (by simp)
  refine forall_of_addMissing hstep (fun hrs hr hkind => ?_) fun r => annotated_of_appends
  exact annotated_of_completes hrs (hr (kind_of_completes hrs ▸ hkind))

lemma isSome_podSpec?_of_undeclared
    (h : before.hasKind Enricher.DefaultController.declaringKinds = false) :
    ∀ r ∈ before, r.kind = .deployment → r.podSpec?.isSome = true := by
  intro r hr hkind
  have hnot := Collection.hasKind_eq_false_iff.mp h r hr
  rw [hkind] at hnot
  exact absurd (by decide) hnot

/-- The enricher of controllers leaves no deployment without pods. -/
lemma isSome_podSpec?_of_defaultController
    (h : ((defaultController.enricher c).addMissing platform before).Returns after) :
    ∀ r ∈ after, r.kind = .deployment → r.podSpec?.isSome = true := by
  obtain ⟨_, t, _, rfl⟩ | ⟨hkinds, _, rfl⟩ | ⟨hkinds, _, added, _, hadded, rfl⟩ :=
    Enricher.DefaultController.addMissing_cases h
  · refine List.forall_mem_map.mpr fun r _ hdeployment => ?_
    rw [(Enricher.DefaultController.extends_complete c _ r).kind] at hdeployment
    exact Enricher.DefaultController.isSome_podSpec?_complete (.inl hdeployment)
  · exact isSome_podSpec?_of_undeclared hkinds
  · intro r hr hdeployment
    obtain hr | hr := List.mem_append.mp hr
    · exact isSome_podSpec?_of_undeclared hkinds r hr hdeployment
    · cases List.mem_singleton.mp hr
      exact (Enricher.DefaultController.annotated_controller hadded).podSpec

lemma isSome_podSpec?_of_addAll (hsteps : defaultController ∈ steps)
    (h : (addAll c platform steps before).Returns after) :
    ∀ r ∈ after, r.kind = .deployment → r.podSpec?.isSome = true := by
  refine Logged.returns_foldlM_of_mem (I := fun _ => True)
    (P := fun d : Collection => ∀ r ∈ d, r.kind = .deployment → r.podSpec?.isSome = true) hsteps
    (fun _ _ _ _ _ _ => id) ?_ ?_ trivial h
  · exact fun hstep _ => isSome_podSpec?_of_defaultController hstep
  · intro step _ b d hstep hb
    by_cases hcontroller : step = defaultController
    · subst hcontroller
      exact isSome_podSpec?_of_defaultController hstep
    · refine forall_of_addMissing hstep (fun hrs hr hdeployment => ?_)
        (fun r hr hdeployment => ?_) hb
      · exact isSome_podSpec?_of_completes hrs (hr (kind_of_completes hrs ▸ hdeployment))
      · cases hdeployment.symm.trans (kind_of_appends hcontroller hr).2

/-- A deployment that is there gets pods and keeps their annotations. -/
lemma deployment_of_addAll (hsteps : defaultController ∈ steps)
    (h : (addAll c platform steps before).Returns after) {i : Nat} (hr : before[i]? = some r)
    (hkind : r.kind = .deployment) : ∃ s, after[i]? = some s ∧ s.Annotated r.podAnnotations := by
  have hkept : KeepsItems (fun r s => s.kind = r.kind ∧ s.podAnnotations = r.podAnnotations)
      before after := by
    refine Logged.returns_foldlM (.refl fun _ => ⟨rfl, rfl⟩)
      (.trans fun hab hbc => ⟨hbc.1.trans hab.1, hbc.2.trans hab.2⟩)
      (fun step _ _ _ hstep => ?_) h
    obtain ⟨kept, extra, rfl, hkept, _⟩ := addMissing_cases hstep
    exact .append (.of_forall₂ (hkept.imp fun _ _ hrs =>
      ⟨kind_of_completes hrs, podAnnotations_of_completes hrs⟩)) extra
  obtain ⟨s, hs, hkind', hannotations⟩ := hkept i r hr
  have hdeployment : s.kind = .deployment := hkind'.trans hkind
  exact ⟨s, hs, hannotations,
    isSome_podSpec?_of_addAll hsteps h s (List.mem_of_getElem? hs) hdeployment⟩

end StandardEnricher

/-! ### Labelling and adapting -/

lemma PodTemplateSpec.get?_annotations_labelTemplate (policy : Config.Policy)
    (enrichers : List Enricher) (t : PodTemplateSpec) (k : String) :
    (Labelling.labelTemplate policy enrichers t).annotations.get? k =
      (t.annotations.get? k).or
        ((Labelling.annotations policy enrichers .podTemplate).get? k) := by
  change ((Labelling.addEntries (t.metadata.getD default).annotations _).getD ∅).get? k = _
  rw [Labelling.get?_addEntries, annotations_eq]

/-- Behind the annotations that pods have, the labelling adds those of the policy. -/
lemma Labelling.get?_podAnnotations_labelResource {c : Enricher.Context}
    {steps : List StandardEnricher} {annotations : SortedMap String} {r : Resource}
    (policy : Config.Policy) (hr : r.Annotated annotations) (k : String) :
    (labelResource policy (steps.map (StandardEnricher.enricher c)) r).podAnnotations.get? k =
      (annotations.get? k).or ((policy.annotations.forKind .podTemplate).get? k) := by
  obtain ⟨rfl, hpods⟩ := hr
  obtain ⟨pod, hpod⟩ := Option.isSome_iff_exists.mp hpods
  obtain ⟨t, ht, _⟩ := Option.bind_eq_some_iff.mp hpod
  unfold Resource.podAnnotations
  rw [template?_labelResource, ht]
  change (labelTemplate policy _ t).annotations.get? k = _
  rw [PodTemplateSpec.get?_annotations_labelTemplate, StandardEnricher.annotations_eq_forKind]
  rfl

namespace Resource

/-- A resource of the same kind whose pods have the same annotations and maybe more. -/
structure AnnotatesMore (r s : Resource) : Prop where
  kind : s.kind = r.kind
  podAnnotations : ∀ k v, r.podAnnotations.get? k = some v → s.podAnnotations.get? k = some v

lemma AnnotatesMore.refl (r : Resource) : r.AnnotatesMore r := ⟨rfl, fun _ _ => id⟩

lemma AnnotatesMore.trans {r s t : Resource} (h : r.AnnotatesMore s) (h' : s.AnnotatesMore t) :
    r.AnnotatesMore t :=
  ⟨h'.kind.trans h.kind, fun k v hk => h'.podAnnotations k v (h.podAnnotations k v hk)⟩

lemma annotatesMore_modifyTemplate {f : PodTemplateSpec → PodTemplateSpec} (r : Resource)
    (hf : ∀ t k v, t.annotations.get? k = some v → (f t).annotations.get? k = some v) :
    r.AnnotatesMore (r.modifyTemplate f) where
  kind := kind_modifyTemplate f r
  podAnnotations k v hk := by
    obtain ⟨t, ht, hk⟩ := exists_template_of_podAnnotations hk
    unfold podAnnotations
    rw [template?_modifyTemplate, ht]
    exact hf t k v hk

end Resource

namespace Enricher

lemma ProjectLabels.annotatesMore_labelResource (labels : SortedMap String) (r : Resource) :
    r.AnnotatesMore (labelResource labels r) :=
  have h := Resource.annotatesMore_modifyTemplate { r with metadata := label labels r.metadata }
    (f := fun t => { t with metadata := some (label labels (t.metadata.getD default)) })
    fun t _ _ hk => by rwa [t.annotations_eq] at hk
  ⟨h.kind, h.podAnnotations⟩

lemma PodAnnotations.annotatesMore_annotateResource (r : Resource) :
    r.AnnotatesMore (annotateResource r) := by
  unfold annotateResource
  split
  next annotations _ _ =>
    refine r.annotatesMore_modifyTemplate fun t k v hk => ?_
    rw [t.annotations_eq] at hk
    change ((fillEntries (t.metadata.getD default).annotations annotations).getD ∅).get? k = some v
    rw [get?_fillEntries, hk]
    rfl
  next => exact .refl r

lemma ImageTriggers.annotatesMore_adaptResource (c : Context) (r : Resource) :
    r.AnnotatesMore (adaptResource c r) := by
  obtain ⟨m, content⟩ := r
  cases content with
  | deploymentConfig version spec =>
    cases spec with
    | none => exact .refl _
    | some s =>
      change Resource.AnnotatesMore _ ⟨m, .deploymentConfig version (some (adaptSpec c s))⟩
      unfold adaptSpec
      split
      next => exact .refl _
      next pod _ =>
        refine ⟨rfl, fun k v hk => ?_⟩
        obtain ⟨t, ht, hk⟩ := Resource.exists_template_of_podAnnotations hk
        change (((s.template.map fun t => _).map PodTemplateSpec.annotations).getD ∅).get? k =
          some v
        rw [show s.template = some t from ht]
        exact hk
  | _ => exact .refl _

end Enricher

namespace StandardEnricher

variable {c : Enricher.Context} {platform : Config.Platform} {e : StandardEnricher}
  {steps : List StandardEnricher} {r s : Resource} {before after : Collection}

/-- No adaptation replaces an annotation of pods. -/
lemma annotatesMore_of_adaptResource (h : (e.adaptResource c platform r).Returns s) :
    r.AnnotatesMore s := by
  cases e with
  | projectLabels =>
    cases Logged.returns_pure.mp h
    exact Enricher.ProjectLabels.annotatesMore_labelResource _ r
  | podAnnotations =>
    cases Logged.returns_pure.mp h
    exact Enricher.PodAnnotations.annotatesMore_annotateResource r
  | volumePermissions =>
    obtain ⟨_, rfl, _⟩ := Enricher.VolumePermissions.adaptResource_cases h
    exact r.annotatesMore_modifyTemplate fun _ _ _ => id
  | imageTriggers =>
    cases Logged.returns_pure.mp h
    split
    · exact Enricher.ImageTriggers.annotatesMore_adaptResource c r
    · exact .refl r
  | naming | defaultController | defaultService | images | healthChecks | registrySecrets =>
    exact Logged.returns_pure.mp h ▸ .refl r

lemma annotatesMore_of_adaptAll (h : (adaptAll c platform steps before).Returns after) :
    List.Forall₂ Resource.AnnotatesMore before after := by
  refine Logged.returns_foldlM (R := List.Forall₂ Resource.AnnotatesMore)
    (fun _ => List.forall₂_same.mpr fun r _ => .refl r) (forall₂_trans .trans) ?_ h
  intro step _ b d hstep
  exact (returns_adapt.mp hstep).imp fun _ _ => annotatesMore_of_adaptResource

end StandardEnricher

/-! ### Whole enrichments -/

namespace Enrichment

variable {e : Enrichment} {steps : List StandardEnricher} {platform : Config.Platform}
  {before after : Collection}

/-- What the labelling and the adaptation make of a resource whose pods have annotations. -/
structure Annotates (policy : Config.Policy) (r s : Resource) : Prop where
  kind : s.kind = r.kind
  template : ∀ {annotations : SortedMap String}, r.Annotated annotations → ∀ k v,
    (policy.annotations.forKind .podTemplate).get? k = some v →
      ∃ t, s.template? = some t ∧ t.annotations.get? k = some ((annotations.get? k).getD v)

lemma annotates_of_adaptAll {c : Enricher.Context} {policy : Config.Policy}
    (h : (StandardEnricher.adaptAll c platform steps (before.map (Labelling.labelResource policy
      (steps.map (StandardEnricher.enricher c))))).Returns after) :
    List.Forall₂ (Annotates policy) before after := by
  have hadapted := StandardEnricher.annotatesMore_of_adaptAll h
  rw [List.forall₂_map_left_iff] at hadapted
  refine hadapted.imp fun r s hrs => ⟨?_, fun {annotations} hr k v hk => ?_⟩
  · rw [hrs.kind, Labelling.kind_labelResource]
  · apply Resource.exists_template_of_podAnnotations
    apply hrs.podAnnotations
    rw [Labelling.get?_podAnnotations_labelResource policy hr, hk]
    cases annotations.get? k <;> rfl

/-- For a key of the policy's annotations, the pods of a generated controller get the value of the
section for pods, and those of a deployment without annotations the value of the policy. -/
theorem podAnnotation_enrich (platform : Config.Platform) {files : FileTree} {b : Config.Build}
    (hb : b.enricher.IsPlain)
    (he : ofContext files StandardEnricher.registry (.ofBuild files b) = .ok e) {k v : String}
    (hk : (b.resources.annotations.forKind .podTemplate).get? k = some v) :
    (∀ after, (e.enrich platform []).Returns after →
      ∀ r ∈ after, r.kind.isController = true → ∃ t, r.template? = some t ∧
        t.annotations.get? k = some ((b.resources.annotations.pod.get? k).getD v)) ∧
    ∀ before after, (e.enrich platform before).Returns after →
      ∀ (i : Nat) (r : Resource), before[i]? = some r → r.kind = .deployment →
        r.podAnnotations = ∅ → ∃ s t, after[i]? = some s ∧ s.template? = some t ∧
          t.annotations.get? k = some v := by
  rw [ofContext_of_isPlain (c := .ofBuild files b) hb] at he
  cases he
  have hruns := runs_all_of_isPlain (c := .ofBuild files b) hb
  constructor
  · intro after h
    obtain ⟨added, hadded, hadapted⟩ := hruns.returns_enrich.mp h
    refine forall_of_forall₂ (fun hrs hr hkind => ?_) (annotates_of_adaptAll hadapted)
      (StandardEnricher.annotated_of_addAll hadded)
    exact hrs.template (hr (hrs.kind ▸ hkind)) k v hk
  · intro before after h i r hr hkind hempty
    obtain ⟨added, hadded, hadapted⟩ := hruns.returns_enrich.mp h
    obtain ⟨s, hs, hannotated⟩ := StandardEnricher.deployment_of_addAll
      (StandardEnricher.mem_all _) hadded hr hkind
    obtain ⟨s', hs', hann⟩ := KeepsItems.of_forall₂ (annotates_of_adaptAll hadapted) i s hs
    rw [hempty] at hannotated
    obtain ⟨t, ht, hvalue⟩ := hann.template hannotated k v hk
    exact ⟨s', t, hs', ht, hvalue⟩

/-- A build that annotates everything with one owner and pods with another one. -/
def ownedTwice : Config.Build where
  project := { (default : Config.Project) with artifactId := "shop", groupId := "org" }
  images := []
  resources := { (default : Config.Policy) with
    annotations := { (default : Config.KindEntries) with
      all := SortedMap.ofList [("owner", "all")], pod := SortedMap.ofList [("owner", "pod")] } }
  enricher := default
  platform := .kubernetes

def ownedTwiceEnrichment : Enrichment :=
  ⟨.ofBuild default ownedTwice,
    StandardEnricher.all.map (StandardEnricher.enricher (.ofBuild default ownedTwice))⟩

/-- A deployment without annotations. -/
def plainDeployment : Resource where
  metadata := { (default : ObjectMeta) with name := some "web" }
  content := .deployment (some default)

theorem podAnnotation_enrich_ownedTwice :
    ownedTwice.enricher.IsPlain ∧
    ofContext default StandardEnricher.registry (.ofBuild default ownedTwice) =
      .ok ownedTwiceEnrichment ∧
    (ownedTwice.resources.annotations.forKind .podTemplate).get? "owner" = some "all" ∧
    (∃ after, (ownedTwiceEnrichment.enrich .kubernetes []).Returns after ∧
      ∃ r ∈ after, r.kind.isController = true ∧
        ∃ t, r.template? = some t ∧ t.annotations.get? "owner" = some "pod") ∧
    ∃ after, (ownedTwiceEnrichment.enrich .kubernetes [plainDeployment]).Returns after ∧
      plainDeployment.podAnnotations = ∅ ∧
      ∃ s t, after[0]? = some s ∧ s.template? = some t ∧
        t.annotations.get? "owner" = some "all" := by
  have hplain : ownedTwice.enricher.IsPlain := ⟨rfl, rfl, rfl⟩
  have hcontext : ofContext default StandardEnricher.registry (.ofBuild default ownedTwice) =
      .ok ownedTwiceEnrichment :=
    ofContext_of_isPlain (c := .ofBuild default ownedTwice) hplain
  have hkey : (ownedTwice.resources.annotations.forKind .podTemplate).get? "owner" = some "all" :=
    by decide
  obtain ⟨hgenerated, hdeclared⟩ := podAnnotation_enrich .kubernetes hplain hcontext hkey
  obtain ⟨after, h, hafter⟩ := Logged.exists_returns_of_any
    (x := ownedTwiceEnrichment.enrich .kubernetes [])
    (p := fun after => after.any (·.kind.isController)) (by decide +kernel)
  obtain ⟨r, hr, hkind⟩ := List.any_eq_true.mp hafter
  obtain ⟨after', h'⟩ : ∃ after,
      (ownedTwiceEnrichment.enrich .kubernetes [plainDeployment]).Returns after :=
    Logged.exists_returns (by decide +kernel)
  exact ⟨hplain, hcontext, hkey, ⟨after, h, r, hr, hkind, hgenerated after h r hr hkind⟩, after',
    h', rfl, hdeclared _ after' h' 0 plainDeployment rfl rfl rfl⟩

end Enrichment
end Manifests
