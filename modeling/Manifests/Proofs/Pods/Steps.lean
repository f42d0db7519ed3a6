import Manifests.Proofs.Repetition.Added

/-! What adding does to the pods of a collection, container by container.  Containers are compared
by their place, and a place where there is none counts as an empty container. -/
namespace Manifests

section Places
variable {α : Type} [Inhabited α]

/-- The items at each place are related, where the default item stands for a missing one. -/
def EachPlace (R : α → α → Prop) (old new : List α) : Prop :=
  ∀ i : Nat, R (old[i]?.getD default) (new[i]?.getD default)

variable {R : α → α → Prop} {l m : List α}

lemma EachPlace.refl (hR : ∀ a, R a a) (l : List α) : EachPlace R l l := by
  intro i
  exact hR _

lemma EachPlace.trans (hR : ∀ {a b c}, R a b → R b c → R a c) {x y z : List α}
    (h : EachPlace R x y) (h' : EachPlace R y z) : EachPlace R x z := by
  intro i
  exact hR (h i) (h' i)

lemma EachPlace.cons {a b : α} (h : R a b) (hl : EachPlace R l m) :
    EachPlace R (a :: l) (b :: m) := by
  intro i
  cases i with
  | zero => exact h
  | succ i => exact hl i

/-- A missing item is followed by a default one at each later place. -/
lemma EachPlace.cons_of_nil {b : α} (h : R default b) (hl : EachPlace R [] m) :
    EachPlace R [] (b :: m) := by
  intro i
  cases i with
  | zero => exact h
  | succ i => exact hl i

lemma EachPlace.of_nil (hR : R default default) (h : ∀ a ∈ l, R default a) :
    EachPlace R [] l := by
  induction l with
  | nil => exact fun _ => hR
  | cons a l ih =>
    obtain ⟨ha, hl⟩ := List.forall_mem_cons.mp h
    exact .cons_of_nil ha (ih hl)

lemma EachPlace.append (hR : R default default) (h : List.Forall₂ R l m) {extra : List α}
    (hextra : ∀ a ∈ extra, R default a) : EachPlace R l (m ++ extra) := by
  induction h with
  | nil => exact .of_nil hR hextra
  | cons h _ ih => exact ih.cons h

lemma EachPlace.of_forall₂ (hR : R default default) (h : List.Forall₂ R l m) : EachPlace R l m := by
  have happend : EachPlace R l (m ++ []) := .append hR h (by simp)
  rwa [List.append_nil] at happend

/-- Every item comes from one at its place or from nothing. -/
lemma EachPlace.forall_mem {P : α → Prop} (h : EachPlace R l m)
    (hR : ∀ {a b}, R a b → P a → P b) (hdefault : P default) (hl : ∀ a ∈ l, P a) :
    ∀ b ∈ m, P b := by
  intro b hb
  obtain ⟨i, hi⟩ := List.mem_iff_getElem?.mp hb
  have hplace := h i
  rw [hi, Option.getD_some] at hplace
  apply hR hplace
  cases hl' : l[i]? with
  | none => exact hdefault
  | some a => exact hl a (List.mem_of_getElem? hl')

end Places

/-! ### Filling containers -/

section Containers
variable {R : Container → Container → Prop}

lemma eachPlace_fillContainers (hR : ∀ c, R c c) {fallback : List Container}
    (hfill : ∀ f ∈ fallback, ∀ c, R c (c.fill f)) (containers : List Container) :
    EachPlace R containers (fillContainers containers fallback) := by
  fun_induction fillContainers containers fallback with
  | case1 containers => exact .refl hR containers
  | case2 f rest ih =>
    obtain ⟨hf, hrest⟩ := List.forall_mem_cons.mp hfill
    exact .cons_of_nil (hf default) (ih hrest)
  | case3 c containers f rest ih =>
    obtain ⟨hf, hrest⟩ := List.forall_mem_cons.mp hfill
    exact .cons (hf c) (ih hrest)

lemma eachPlace_nameFirst (hR : ∀ c, R c c) (hname : ∀ (c : Container) name, R c { c with name })
    (name : String) (containers : List Container) :
    EachPlace R containers (nameFirst name containers) := by
  cases containers with
  | nil => exact .refl hR []
  | cons c rest =>
    refine .cons ?_ (.refl hR rest)
    split
    · exact hname c name
    · exact hR c

/-- Default containers fill those at their places, or stand for all of them. -/
lemma PodSpec.eachPlace_fill (hR : ∀ c, R c c) (hname : ∀ (c : Container) name, R c { c with name })
    {fallback : PodSpec} (hfill : ∀ f ∈ fallback.containers, ∀ c, R c (c.fill f))
    (hnew : ∀ f ∈ fallback.containers, R default f) (s : PodSpec) (name : String) :
    EachPlace R s.containers (s.fill fallback name).containers := by
  unfold fill
  dsimp only
  split
  · exact eachPlace_nameFirst hR hname name s.containers
  · split
    next hempty =>
      rw [List.isEmpty_iff.mp hempty]
      exact .of_nil (hR default) hnew
    next => exact eachPlace_fillContainers hR hfill s.containers

lemma Enricher.Images.eachPlace_fillContainers {c : Context} (hR : ∀ x, R x x)
    (hfill : ∀ {image x y}, (fillContainer c image x).Returns y → R x y)
    {images : List Config.Image} {containers new : List Container}
    (h : (fillContainers c images containers).Returns new) : EachPlace R containers new := by
  fun_induction fillContainers c images containers generalizing new with
  | case1 containers =>
    cases Logged.returns_pure.mp h
    exact .refl hR containers
  | case2 image images ih =>
    simp only [Logged.returns_bind, Logged.returns_pure] at h
    obtain ⟨first, hfirst, rest, hrest, rfl⟩ := h
    exact .cons_of_nil (hfill hfirst) (ih hrest)
  | case3 image images container containers ih =>
    simp only [Logged.returns_bind, Logged.returns_pure] at h
    obtain ⟨first, hfirst, rest, hrest, rfl⟩ := h
    exact .cons (hfill hfirst) (ih hrest)

lemma Enricher.HealthChecks.eachPlace_probeLast (liveness readiness : Option Probe)
    (hR : ∀ c, R c c) (hprobed : ∀ c, R c (probed liveness readiness c)) (s : PodSpec) :
    EachPlace R s.containers (probeLast liveness readiness s).containers := by
  unfold probeLast
  split
  next => exact .refl hR s.containers
  next c hlast =>
    obtain ⟨init, hinit⟩ := List.getLast?_eq_some_iff.mp hlast
    dsimp only [PodSpec.withContainers]
    rw [hinit, List.dropLast_concat]
    apply EachPlace.of_forall₂ (hR default)
    exact List.rel_append (List.forall₂_same.mpr fun x _ => hR x) (.cons (hprobed c) .nil)

/-- Triggers may only take images away. -/
lemma Enricher.ImageTriggers.forall₂_addTriggers {c : Context} (hR : ∀ x, R x x)
    (htrim : ∀ x : Container, R x { x with image := some "" }) (triggers : List DeploymentTrigger)
    (containers : List Container) :
    List.Forall₂ R containers (addTriggers c triggers containers).1 := by
  induction containers generalizing triggers with
  | nil => exact .nil
  | cons x rest ih =>
    rw [addTriggers]
    split
    next => exact .cons (hR x) (ih triggers)
    next t _ =>
      refine .cons ?_ (ih (triggers ++ [t]))
      unfold trim
      split
      · exact htrim x
      · exact hR x

end Containers

/-! ### Pods of resources -/

def PodSpec.inits (s : PodSpec) : List Container := s.initContainers.getD []

namespace Resource

/-- The pod specification of a resource; an empty one where there is none. -/
def pod (r : Resource) : PodSpec := r.podSpec?.getD default

variable {r s : Resource}

lemma pod_eq {s : PodSpec} (h : r.podSpec? = some s) : r.pod = s := by
  rw [pod, h]
  rfl

lemma pod_of_podless (h : r.kind ∈ podlessKinds) : r.pod = default := by
  rw [pod, (podSpec?_of_podless h).1]
  rfl

/-- A change of the pod specification changes nothing where there is none. -/
lemma pod_modifyPodSpec (f : PodSpec → PodSpec) (r : Resource) :
    (r.modifyPodSpec f).pod = r.pod ∨ (r.modifyPodSpec f).pod = f r.pod := by
  unfold pod
  rw [podSpec?_modifyPodSpec]
  cases r.podSpec? with
  | none => exact .inl rfl
  | some s => exact .inr rfl

end Resource

/-- What an enricher makes of a pod specification when it adds to a collection. -/
inductive PodSpec.Completes (c : Enricher.Context) (s : PodSpec) : PodSpec → Prop
  | keep : Completes c s s
  | defaults {t : PodTemplateSpec}
      (template : ((Enricher.DefaultController.blueprint c).podTemplate c.images).Returns t) :
      Completes c s (s.fill (t.spec.getD default) (Enricher.DefaultController.defaultName c))
  | images {containers : List Container}
      (filled : (Enricher.Images.fillContainers c c.images s.containers).Returns containers) :
      Completes c s (s.withContainers containers)
  | probes (liveness readiness : Option Probe) :
      Completes c s (Enricher.HealthChecks.probeLast liveness readiness s)

/-- The pod specifications of the controllers that an enricher appends. -/
inductive PodSpec.Appends (c : Enricher.Context) : PodSpec → Prop
  | controller {t : PodTemplateSpec}
      (template : ((Enricher.DefaultController.blueprint c).podTemplate c.images).Returns t) :
      Appends c (t.spec.getD default)
  | job {t : PodTemplateSpec}
      (template : ((Enricher.DefaultController.blueprint c).podTemplate c.images).Returns t) :
      Appends c (t.spec.getD default).restartOnFailure

@[simp] lemma Blueprint.getD_nonEmpty? {α : Type} (l : List α) : (nonEmpty? l).getD [] = l := by
  cases l <;> rfl

/-- The containers of a blueprint are made from images, one from each, and have the mounts that the
volumes allow. -/
lemma Blueprint.containers_podTemplate {b : Blueprint} {images : List Config.Image}
    {t : PodTemplateSpec} (h : (b.podTemplate images).Returns t) :
    (t.spec.getD default).containers.length = images.length ∧
      ∀ container ∈ (t.spec.getD default).containers, ∃ image made,
        (b.container image).Returns made ∧
        (attach (((t.spec.getD default).volumes.getD []).map (·.name)) made).Returns container := by
  simp only [podTemplate, Logged.returns_bind, Logged.returns_pure] at h
  obtain ⟨volumes, _, containers, hcontainers, attached, hattached, rfl⟩ := h
  rw [Blueprint.containers, Logged.returns_mapM] at hcontainers
  rw [Logged.returns_mapM] at hattached
  constructor
  · exact hattached.length_eq.symm.trans hcontainers.length_eq.symm
  · dsimp only [Option.getD_some]
    rw [getD_nonEmpty?]
    have hmade : ∀ made ∈ containers, ∃ image, (b.container image).Returns made :=
      forall_of_forall₂ (P := fun _ => True) (fun hmade _ => ⟨_, hmade⟩) hcontainers
        fun _ _ => trivial
    refine forall_of_forall₂ (fun hcontainer hmade => ?_) hattached hmade
    obtain ⟨image, hmade⟩ := hmade
    exact ⟨image, _, hmade, hcontainer⟩

lemma Blueprint.initContainers_podTemplate {b : Blueprint} {images : List Config.Image}
    {t : PodTemplateSpec} (h : (b.podTemplate images).Returns t) :
    (t.spec.getD default).initContainers = none := by
  simp only [podTemplate, Logged.returns_bind, Logged.returns_pure] at h
  obtain ⟨volumes, _, containers, _, attached, _, rfl⟩ := h
  rfl

namespace Enricher

variable {c : Context} {r s : Resource}

lemma DefaultController.pod_ensureDeployment (replicas : Int32) (r : Resource) :
    (ensureDeployment replicas r).pod = r.pod := by
  obtain ⟨m, content⟩ := r
  cases content with
  | deployment spec => cases spec <;> rfl
  | _ => rfl

lemma DefaultController.pod_controller {kind : Kind} {r : Resource}
    (h : ((blueprint c).controller? kind c.images).Returns (some r)) :
    PodSpec.Appends c r.pod := by
  unfold Blueprint.controller? at h
  split at h
  next hkind =>
    simp only [Logged.returns_bind, Logged.returns_ofExcept, Logged.returns_pure] at h
    obtain ⟨name, _, t, ht, h⟩ := h
    obtain ⟨content, hcontent, rfl⟩ := Option.map_eq_some_iff.mp h
    cases kind with
    | job =>
      cases hcontent
      obtain ⟨spec, hspec, _⟩ := returns_podTemplate ht
      change PodSpec.Appends c ((t.spec.map PodSpec.restartOnFailure).getD default)
      have hjob := PodSpec.Appends.job ht
      rw [hspec] at hjob ⊢
      exact hjob
    | service | secret | configMap | podTemplate => cases hkind
    | _ =>
      cases hcontent
      exact .controller ht
  next => cases Logged.returns_pure.mp h

/-- Only what is no controller is left out by the enricher of images. -/
lemma Images.pod_of_complete (h : (complete c r).Returns s) :
    s = r ∧ r.kind.isController = false ∨ ∃ containers,
      (fillContainers c c.images r.pod.containers).Returns containers ∧
        s.pod = r.pod.withContainers containers := by
  obtain ⟨hkind, rfl⟩ | ⟨hcontroller, containers, hcontainers, rfl⟩ := complete_cases h
  · exact .inl ⟨rfl, hkind⟩
  · refine .inr ⟨containers, hcontainers, Resource.pod_eq ?_⟩
    rw [Resource.podSpec?_modifyPodSpec, Resource.podSpec?_ensureTemplate hcontroller]
    rfl

end Enricher

namespace StandardEnricher

variable {c : Enricher.Context} {platform : Config.Platform} {e : StandardEnricher}
  {r s : Resource}

/-- Apart from the enrichers of controllers and of images, pods that are there only get probes. -/
lemma probed_of_completes (hcontroller : e ≠ defaultController) (himages : e ≠ images)
    (h : e.Completes c r s) : s.pod = r.pod ∨ ∃ liveness readiness,
      s.pod = Enricher.HealthChecks.probeLast liveness readiness r.pod := by
  have hkind : s.kind = r.kind := kind_of_completes h
  have hpodless : r.kind ∈ Resource.podlessKinds → s.pod = r.pod := by
    intro hr
    rw [Resource.pod_of_podless hr, Resource.pod_of_podless (hkind ▸ hr)]
  cases e with
  | defaultController => exact absurd rfl hcontroller
  | images => exact absurd rfl himages
  | naming =>
    cases h
    unfold Enricher.Naming.nameResource
    split <;> exact .inl rfl
  | defaultService =>
    by_cases hservice : r.kind = .service
    · exact .inl (hpodless (hservice ▸ by decide))
    · obtain rfl | ⟨d, _, rfl⟩ := h
      · exact .inl rfl
      · rw [Enricher.DefaultService.complete_of_kind hservice]
        exact .inl rfl
  | healthChecks =>
    obtain rfl | ⟨liveness, readiness, h⟩ := h
    · exact .inl rfl
    · rw [Enricher.HealthChecks.returns_complete] at h
      subst h
      split
      · exact (Resource.pod_modifyPodSpec _ r).imp_right fun hpod => ⟨liveness, readiness, hpod⟩
      · exact .inl rfl
  | registrySecrets =>
    obtain ⟨rfl, _⟩ | ⟨hsecret, _⟩ := Enricher.RegistrySecrets.complete_cases h
    · exact .inl rfl
    · exact .inl (hpodless (hsecret ▸ by decide))
  | projectLabels | podAnnotations | volumePermissions | imageTriggers =>
    cases h
    exact .inl rfl

lemma pod_of_completes (h : e.Completes c r s) : PodSpec.Completes c r.pod s.pod := by
  by_cases hcontroller : e = defaultController
  · subst hcontroller
    obtain rfl | ⟨t, ht, rfl⟩ := h
    · exact .keep
    · dsimp only [Enricher.DefaultController.complete]
      rw [← Enricher.DefaultController.pod_ensureDeployment _ r]
      obtain hpod | hpod := Resource.pod_modifyPodSpec _ _ <;> rw [hpod]
      · exact .keep
      · exact .defaults ht
  by_cases himages : e = images
  · subst himages
    obtain rfl | ⟨_, h⟩ := h
    · exact .keep
    · obtain ⟨rfl, _⟩ | ⟨containers, hcontainers, hpod⟩ := Enricher.Images.pod_of_complete h
      · exact .keep
      · rw [hpod]
        exact .images hcontainers
  · obtain hpod | ⟨liveness, readiness, hpod⟩ := probed_of_completes hcontroller himages h <;>
      rw [hpod]
    · exact .keep
    · exact .probes liveness readiness

/-- A service has no pods, and a controller has those of the blueprint. -/
lemma pod_of_appends (h : e.Appends c platform r) :
    r.kind = .service ∧ r.pod = default ∨ PodSpec.Appends c r.pod := by
  by_cases he : e = defaultController
  · subst he
    obtain ⟨kind, _, hadded⟩ := h
    exact .inr (Enricher.DefaultController.pod_controller hadded)
  · have hservice : r.kind = .service := (kind_of_appends he h).2
    exact .inl ⟨hservice, Resource.pod_of_podless (hservice ▸ by decide)⟩

section Runs
variable {steps : List StandardEnricher} {before after : Collection}

/-- All that is appended is there before images are filled in. -/
lemma addAll_all : addAll c platform all before =
    addAll c platform [naming, defaultController, defaultService] before >>= addAll c platform
      [images, healthChecks, projectLabels, podAnnotations, volumePermissions, imageTriggers,
        registrySecrets] := by
  have hall : all = [naming, defaultController, defaultService] ++ [images, healthChecks,
      projectLabels, podAnnotations, volumePermissions, imageTriggers, registrySecrets] := rfl
  rw [hall]
  exact List.foldlM_append

/-- With nothing to name, the first steps add a controller and then a service. -/
lemma addAll_front_nil : addAll c platform [naming, defaultController, defaultService] [] =
    (defaultController.enricher c).addMissing platform [] >>=
      (defaultService.enricher c).addMissing platform := by
  have hnaming : (naming.enricher c).addMissing platform [] = pure [] := rfl
  simp only [addAll, List.foldlM_cons, List.foldlM_nil, hnaming, pure_bind, bind_pure]

lemma eachPlace_of_addMissing {R : PodSpec → PodSpec → Prop} (refl : ∀ s, R s s)
    (completes : ∀ {s t}, PodSpec.Completes c s t → R s t)
    (appends : ∀ {s}, PodSpec.Appends c s → R default s)
    (h : ((e.enricher c).addMissing platform before).Returns after) :
    EachPlace R (before.map Resource.pod) (after.map Resource.pod) := by
  obtain ⟨kept, extra, rfl, hkept, hextra⟩ := addMissing_cases h
  rw [List.map_append]
  apply EachPlace.append (refl default)
  · rw [List.forall₂_map_left_iff, List.forall₂_map_right_iff]
    exact hkept.imp fun _ _ hrs => completes (pod_of_completes hrs)
  · intro s hs
    obtain ⟨r, hr, rfl⟩ := List.mem_map.mp hs
    obtain ⟨_, hpod⟩ | hpod := pod_of_appends (hextra r hr)
    · rw [hpod]
      exact refl default
    · exact appends hpod

/-- What every change of a pod specification and every new one keeps, all those of a run keep. -/
lemma eachPlace_of_addAll {R : PodSpec → PodSpec → Prop} (refl : ∀ s, R s s)
    (trans : ∀ {s t u}, R s t → R t u → R s u)
    (completes : ∀ {s t}, PodSpec.Completes c s t → R s t)
    (appends : ∀ {s}, PodSpec.Appends c s → R default s)
    (h : (addAll c platform steps before).Returns after) :
    EachPlace R (before.map Resource.pod) (after.map Resource.pod) := by
  induction steps generalizing before with
  | nil =>
    cases Logged.returns_pure.mp h
    exact .refl refl _
  | cons e steps ih =>
    obtain ⟨next, hstep, hrest⟩ := Logged.returns_bind.mp h
    have hnext := eachPlace_of_addMissing refl completes appends hstep
    exact EachPlace.trans (R := R) trans hnext (ih hrest)

end Runs

end StandardEnricher
end Manifests
