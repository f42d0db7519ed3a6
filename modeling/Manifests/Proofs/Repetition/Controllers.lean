import Manifests.Proofs.Repetition.Names
import Manifests.Proofs.Repetition.Workloads
import Manifests.Proofs.Steps

/-! Completing controllers that are complete.  The gaps of their pods are filled from the blueprint
of the build, and what the images and the probes fill later leaves none.  A controller that is made
from the blueprint has no gaps either. -/
namespace Manifests

/-- Only the mounts of a container depend on the volumes. -/
lemma Blueprint.exists_mounts_of_attach {volumes : List String} {container new : Container}
    (h : (attach volumes container).Returns new) :
    ∃ mounts, new = { container with volumeMounts := mounts } := by
  unfold attach at h
  split at h
  · exact ⟨container.volumeMounts, (Logged.returns_pure.mp h).symm⟩
  · obtain ⟨_, _, h⟩ := Logged.returns_bind.mp h
    exact ⟨_, (Logged.returns_pure.mp h).symm⟩

namespace Enricher

/-! ### Gaps of controllers -/

namespace DefaultController

variable {c : Context} {spec : PodSpec} {r s : Resource}

/-- A resource without gaps: a deployment has replicas and a pod specification, and what pod
specification there is takes nothing from the default one. -/
structure Completed (c : Context) (spec : PodSpec) (r : Resource) : Prop where
  replicas : r.kind = .deployment → r.replicas?.isSome = true
  deployed : r.kind = .deployment → r.podSpec?.isSome = true
  filled : ∀ s, r.podSpec? = some s → s.fill spec (defaultName c) = s

lemma ensureDeployment_eq_self {replicas : Int32} (h : r.kind = .deployment →
    r.replicas?.isSome = true ∧ r.podSpec?.isSome = true) : ensureDeployment replicas r = r := by
  obtain ⟨m, content⟩ := r
  cases content with
  | deployment spec =>
    obtain ⟨hreplicas, hpod⟩ := h rfl
    obtain ⟨n, hn⟩ := Option.isSome_iff_exists.mp hreplicas
    obtain ⟨pod, hpod⟩ := Option.isSome_iff_exists.mp hpod
    cases spec with
    | none => cases hn
    | some s =>
      have hself : { s with replicas := some (s.replicas.getD replicas) } = s := by
        obtain ⟨⟩ := s
        cases hn
        rfl
      unfold ensureDeployment
      dsimp only [Option.getD_some]
      rw [hself]
      exact Resource.ensureTemplate_eq_self hpod
  | _ => rfl

lemma Completed.complete_eq_self (h : Completed c spec r) : complete c spec r = r := by
  dsimp only [complete]
  rw [ensureDeployment_eq_self fun hkind => ⟨h.replicas hkind, h.deployed hkind⟩]
  exact Resource.modifyPodSpec_eq_self h.filled

lemma kind_ensureDeployment (replicas : Int32) (r : Resource) :
    (ensureDeployment replicas r).kind = r.kind := by
  obtain ⟨m, content⟩ := r
  cases content <;> rfl

lemma isSome_ensureDeployment (replicas : Int32) (h : r.kind = .deployment) :
    (ensureDeployment replicas r).replicas?.isSome = true ∧
      (ensureDeployment replicas r).podSpec?.isSome = true := by
  obtain ⟨m, content⟩ := r
  cases content with
  | deployment spec => exact ⟨rfl, rfl⟩
  | _ => cases h

lemma completed_complete (c : Context) (spec : PodSpec) (r : Resource) :
    Completed c spec (complete c spec r) where
  replicas hkind := by
    dsimp only [complete] at hkind ⊢
    rw [Resource.kind_modifyPodSpec, kind_ensureDeployment] at hkind
    rw [Resource.replicas?_modifyPodSpec]
    exact (isSome_ensureDeployment _ hkind).1
  deployed hkind := by
    dsimp only [complete] at hkind ⊢
    rw [Resource.kind_modifyPodSpec, kind_ensureDeployment] at hkind
    rw [Resource.podSpec?_modifyPodSpec, Option.isSome_map]
    exact (isSome_ensureDeployment _ hkind).2
  filled s hs := by
    dsimp only [complete] at hs
    rw [Resource.podSpec?_modifyPodSpec, Option.map_eq_some_iff] at hs
    obtain ⟨old, _, rfl⟩ := hs
    exact old.fill_fill_self spec (defaultName c)

lemma isSome_podSpec?_complete (h : r.kind = .deployment ∨ r.podSpec?.isSome = true) :
    (complete c spec r).podSpec?.isSome = true := by
  dsimp only [complete]
  rw [Resource.podSpec?_modifyPodSpec, Option.isSome_map]
  by_cases hkind : r.kind = .deployment
  · exact (isSome_ensureDeployment _ hkind).2
  · rw [ensureDeployment_eq_self fun hdeployment => absurd hdeployment hkind]
    exact h.resolve_left hkind

lemma Completed.of_sameWorkload (h : r.SameWorkload s) (hr : Completed c spec r) :
    Completed c spec s where
  replicas hkind := by
    rw [h.replicas]
    exact hr.replicas (h.kind ▸ hkind)
  deployed hkind := by
    obtain ⟨old, hold⟩ := Option.isSome_iff_exists.mp (hr.deployed (h.kind ▸ hkind))
    obtain ⟨pod, _, hpod, _⟩ := h.symm.exists_podSpec hold
    rw [hpod]
    rfl
  filled pod hpod := by
    obtain ⟨old, inits, hold, rfl⟩ := h.exists_podSpec hpod
    exact congrArg (PodSpec.withInits inits) (hr.filled old hold)

/-- What has no pods has no gaps in them. -/
lemma completed_of_podless (hkind : r.kind ≠ .deployment) (h : r.podSpec? = none) :
    Completed c spec r where
  replicas hdeployment := absurd hdeployment hkind
  deployed hdeployment := absurd hdeployment hkind
  filled s hs := by
    rw [h] at hs
    cases hs

/-- The containers of a specification without gaps may be filled further, as long as there are
any. -/
lemma Completed.modifyPodSpec {f : PodSpec → PodSpec} (h : Completed c spec r)
    (hf : ∀ s, r.podSpec? = some s → ∃ containers, f s = s.withContainers containers ∧
      (s.containers ≠ [] ∨ containers = s.containers) ∧
      KeepsItems Container.Filled s.containers containers) :
    Completed c spec (r.modifyPodSpec f) where
  replicas hkind := by
    rw [Resource.kind_modifyPodSpec] at hkind
    rw [Resource.replicas?_modifyPodSpec]
    exact h.replicas hkind
  deployed hkind := by
    rw [Resource.kind_modifyPodSpec] at hkind
    rw [Resource.podSpec?_modifyPodSpec, Option.isSome_map]
    exact h.deployed hkind
  filled s hs := by
    rw [Resource.podSpec?_modifyPodSpec, Option.map_eq_some_iff] at hs
    obtain ⟨old, hold, rfl⟩ := hs
    obtain ⟨containers, heq, hne | rfl, hfilled⟩ := hf old hold
    · rw [heq]
      exact PodSpec.fill_eq_of_filled hne hfilled (h.filled old hold)
    · rw [heq]
      exact h.filled old hold

/-- Filling from images leaves no gaps where there is a pod specification to fill. -/
lemma Completed.images (hc : Images.HasPullPolicy c) (hspec : spec.containers ≠ [])
    (hpod : r.kind.isController = true → r.podSpec?.isSome = true) (hr : Completed c spec r)
    (h : (Images.complete c r).Returns s) : Completed c spec s := by
  obtain ⟨_, rfl⟩ | ⟨hkind, containers, hcontainers, rfl⟩ := Images.complete_cases h
  · exact hr
  · obtain ⟨pod, hpod⟩ := Option.isSome_iff_exists.mp (hpod hkind)
    rw [hpod] at hcontainers
    rw [Resource.ensureTemplate_eq_self hpod]
    refine hr.modifyPodSpec fun s hs => ⟨containers, rfl, .inl fun hnil => ?_, ?_⟩
    · have hfilled := (PodSpec.fill_eq_self_iff.mp (hr.filled s hs)).1
      rw [hnil, PodSpec.fillAll, if_neg (by simpa using hspec)] at hfilled
      exact hspec hfilled
    · cases hpod.symm.trans hs
      exact Images.keepsItems_fillContainers .refl (Images.filled_of_returns hc) hcontainers

lemma Completed.probes {liveness readiness : Option Probe} (hr : Completed c spec r)
    (h : (HealthChecks.complete liveness readiness r).Returns s) : Completed c spec s := by
  rw [HealthChecks.returns_complete] at h
  subst h
  split
  next =>
    refine hr.modifyPodSpec fun pod _ => ?_
    obtain ⟨containers, heq, hne, hkeeps⟩ :=
      @HealthChecks.probeLast_cases liveness readiness pod
    exact ⟨containers, heq, hne, hkeeps .refl HealthChecks.filled_probed⟩
  next => exact hr

/-! ### The controller that is added -/

lemma returns_podTemplate {b : Blueprint} {images : List Config.Image} {t : PodTemplateSpec}
    (h : (b.podTemplate images).Returns t) :
    ∃ spec, t.spec = some spec ∧ spec.containers.length = images.length := by
  simp only [Blueprint.podTemplate, Logged.returns_bind, Logged.returns_pure] at h
  obtain ⟨volumes, _, containers, hcontainers, attached, hattached, rfl⟩ := h
  refine ⟨_, rfl, ?_⟩
  rw [Blueprint.containers, Logged.returns_mapM] at hcontainers
  rw [Logged.returns_mapM] at hattached
  exact hattached.length_eq.symm.trans hcontainers.length_eq.symm

lemma containers_ne_nil_of_returns_podTemplate {b : Blueprint} {images : List Config.Image}
    {t : PodTemplateSpec} (h : (b.podTemplate images).Returns t)
    (himages : images.isEmpty = false) : (t.spec.getD default).containers ≠ [] := by
  obtain ⟨spec, hspec, hlength⟩ := returns_podTemplate h
  intro hnil
  rw [hspec, Option.getD_some] at hnil
  rw [hnil] at hlength
  rw [List.length_eq_zero_iff.mp hlength.symm] at himages
  cases himages

/-- A controller has a name and, if it is to be declared by it, the pods of the blueprint. -/
lemma returns_controller? {b : Blueprint} {kind : Kind} {images : List Config.Image} {r : Resource}
    (h : (b.controller? kind images).Returns (some r)) : r.Named ∧ r.kind = kind ∧
      r.metadata.name = b.policy.controllerName ∧ ∃ t, (b.podTemplate images).Returns t ∧
        (kind ∈ declaringKinds → r.podSpec? = t.spec ∧ r.replicas?.isSome = true) := by
  unfold Blueprint.controller? at h
  split at h
  next hkind =>
    simp only [Logged.returns_bind, Logged.returns_ofExcept, Logged.returns_pure] at h
    obtain ⟨name, hname, t, ht, h⟩ := h
    obtain ⟨content, hcontent, rfl⟩ := Option.map_eq_some_iff.mp h
    obtain ⟨hcontroller, hblank⟩ := ResourceName.check_eq_ok hname
    refine ⟨Resource.named_of_name rfl hblank, ?_, hcontroller.symm, t, ht, ?_⟩
    · cases kind <;> cases hcontent <;> rfl
    · intro hdeclaring
      cases kind with
      | replicaSet | replicationController | deployment | deploymentConfig =>
        cases hcontent
        exact ⟨rfl, rfl⟩
      | _ => exact absurd hdeclaring (by decide)
  next => cases Logged.returns_pure.mp h

/-- A controller that is made from the blueprint has no gaps, if it is declared by it. -/
lemma completed_of_returns_controller? {images : List Config.Image} {kind : Kind} {r : Resource}
    (hkind : kind ∈ declaringKinds)
    (h : ((blueprint c).controller? kind images).Returns (some r)) : ∃ t,
      ((blueprint c).podTemplate images).Returns t ∧ Completed c (t.spec.getD default) r ∧
        r.podSpec?.isSome = true := by
  obtain ⟨_, _, _, t, ht, hpods⟩ := returns_controller? h
  obtain ⟨hpod, hreplicas⟩ := hpods hkind
  obtain ⟨spec, hspec, _⟩ := returns_podTemplate ht
  rw [hspec] at hpod
  have hsome : r.podSpec?.isSome = true := by rw [hpod]; rfl
  refine ⟨t, ht, ⟨fun _ => hreplicas, fun _ => hsome, fun s hs => ?_⟩, hsome⟩
  cases hpod.symm.trans hs
  rw [hspec]
  exact spec.fill_self (defaultName c)

end DefaultController
end Enricher
end Manifests
