import Manifests.Proofs.Pods.Mounts
import Manifests.Proofs.Repetition.Frames
import Manifests.Proofs.Services.Validity

/-! The port numbers that resources use, for their containers, the hosts of these and services.  Two
enrichers add resources that use some; no other one, and neither labelling nor adapting, changes
which numbers are used. -/
namespace Manifests

def PortMapping.Uses (m : PortMapping) (n : Int32) : Prop :=
  m.containerPort = n ∨ m.hostPort = some n

def ContainerPort.Uses (p : ContainerPort) (n : Int32) : Prop :=
  p.containerPort = n ∨ p.hostPort = some n

def Container.Uses (x : Container) (n : Int32) : Prop := ∃ p ∈ x.ports.getD [], p.Uses n

def PodSpec.Uses (s : PodSpec) (n : Int32) : Prop :=
  (∃ x ∈ s.containers, x.Uses n) ∨ ∃ x ∈ s.inits, x.Uses n

/-- The port is published under this number or leads to it. -/
def ServicePort.Uses (p : ServicePort) (n : Int32) : Prop :=
  p.port = n ∨ p.targetPort = some (.int n)

def Resource.Uses (r : Resource) (n : Int32) : Prop :=
  r.pod.Uses n ∨ ∃ p ∈ r.servicePorts, p.Uses n

/-- Some resource uses the number. -/
def Collection.Uses (c : Collection) (n : Int32) : Prop := ∃ r ∈ c, r.Uses n

variable {n : Int32}

section Lists
variable {α β : Type}

lemma exists_mem_iff_of_forall₂ {P : α → Prop} {Q : β → Prop} {R : α → β → Prop} {xs : List α}
    {ys : List β} (h : List.Forall₂ R xs ys) (hR : ∀ {x y}, R x y → (P x ↔ Q y)) :
    (∃ x ∈ xs, P x) ↔ ∃ y ∈ ys, Q y := by
  induction h with
  | nil => simp
  | cons hxy _ ih => rw [List.exists_mem_cons_iff, List.exists_mem_cons_iff, hR hxy, ih]

/-- A property that the default item lacks is found at some place. -/
lemma exists_mem_iff_getD [Inhabited α] {P : α → Prop} (hdefault : ¬P default) {l : List α} :
    (∃ a ∈ l, P a) ↔ ∃ i : Nat, P (l[i]?.getD default) := by
  constructor
  · rintro ⟨a, ha, hP⟩
    obtain ⟨i, hi⟩ := List.mem_iff_getElem?.mp ha
    exact ⟨i, by rwa [hi]⟩
  · rintro ⟨i, hP⟩
    cases hi : l[i]? with
    | none =>
      rw [hi] at hP
      exact absurd hP hdefault
    | some a =>
      rw [hi] at hP
      exact ⟨a, List.mem_of_getElem? hi, hP⟩

lemma EachPlace.exists_mem_iff [Inhabited α] {P : α → Prop} {R : α → α → Prop} {l m : List α}
    (hR : ∀ {a b}, R a b → (P a ↔ P b)) (hdefault : ¬P default) (h : EachPlace R l m) :
    (∃ a ∈ l, P a) ↔ ∃ b ∈ m, P b := by
  rw [exists_mem_iff_getD hdefault, exists_mem_iff_getD hdefault]
  exact exists_congr fun i => hR (h i)

end Lists

/-! ### Pods and services -/

namespace Container

def SamePorts (x y : Container) : Prop := y.ports = x.ports

lemma SamePorts.refl (x : Container) : x.SamePorts x := rfl

lemma SamePorts.uses_iff {x y : Container} (h : x.SamePorts y) : x.Uses n ↔ y.Uses n := by
  rw [Uses, Uses, h]

lemma not_uses_of_ports {x : Container} (h : x.ports = none) : ¬x.Uses n := by
  rintro ⟨p, hp, _⟩
  rw [h] at hp
  cases hp

end Container

namespace PodSpec

variable {s : PodSpec} {containers : List Container}

lemma not_uses_default : ¬(default : PodSpec).Uses n := by
  rintro (⟨_, hx, _⟩ | ⟨_, hx, _⟩) <;> cases hx

lemma uses_withContainers (h : EachPlace Container.SamePorts s.containers containers) :
    (s.withContainers containers).Uses n ↔ s.Uses n :=
  or_congr_left (h.exists_mem_iff (P := (Container.Uses · n)) Container.SamePorts.uses_iff
    (Container.not_uses_of_ports rfl)).symm

lemma uses_probeLast (liveness readiness : Option Probe) (s : PodSpec) :
    (Enricher.HealthChecks.probeLast liveness readiness s).Uses n ↔ s.Uses n := by
  obtain ⟨containers, heq, _⟩ := @Enricher.HealthChecks.probeLast_cases liveness readiness s
  have hplace := Enricher.HealthChecks.eachPlace_probeLast liveness readiness
    Container.SamePorts.refl Container.SamePorts.refl s
  rw [heq] at hplace ⊢
  exact uses_withContainers hplace

end PodSpec

namespace Resource

variable {r s : Resource}

lemma servicePorts_of_kind (h : r.kind ≠ .service) : r.servicePorts = [] := by
  obtain ⟨m, content⟩ := r
  cases content with
  | service => exact absurd rfl h
  | _ => rfl

lemma servicePorts_modifyTemplate (f : PodTemplateSpec → PodTemplateSpec) (r : Resource) :
    (r.modifyTemplate f).servicePorts = r.servicePorts :=
  congrArg (Option.getD · []) (Content.servicePorts_modifyTemplate f r.content)

/-- Services that stay as they are keep their ports, and nothing else has any. -/
lemma servicePorts_congr (hkind : s.kind = r.kind) (h : r.kind = .service → s = r) :
    s.servicePorts = r.servicePorts := by
  by_cases hservice : r.kind = .service
  · rw [h hservice]
  · rw [servicePorts_of_kind hservice, servicePorts_of_kind (hkind ▸ hservice)]

lemma uses_congr (hpod : s.pod.Uses n ↔ r.pod.Uses n) (hports : s.servicePorts = r.servicePorts) :
    s.Uses n ↔ r.Uses n := by
  unfold Uses
  rw [hpod, hports]

end Resource

/-! ### Adding -/

namespace StandardEnricher

variable {c : Enricher.Context} {platform : Config.Platform} {e : StandardEnricher}
  {steps : List StandardEnricher} {r s : Resource} {before after : Collection}

lemma servicePorts_of_completes (hcontroller : e ≠ defaultController)
    (hservice : e ≠ defaultService) (h : e.Completes c r s) :
    s.servicePorts = r.servicePorts := by
  have hkind : s.kind = r.kind := kind_of_completes h
  cases e with
  | defaultController => exact absurd rfl hcontroller
  | defaultService => exact absurd rfl hservice
  | naming =>
    cases h
    exact Enricher.DefaultService.servicePorts_nameResource _ r
  | images =>
    refine Resource.servicePorts_congr hkind fun hr => ?_
    obtain rfl | ⟨_, h⟩ := h
    · rfl
    · obtain ⟨_, rfl⟩ | ⟨hcontroller, _⟩ := Enricher.Images.complete_cases h
      · rfl
      · rw [hr] at hcontroller
        cases hcontroller
  | healthChecks =>
    obtain rfl | ⟨liveness, readiness, h⟩ := h
    · rfl
    · rw [Enricher.HealthChecks.returns_complete] at h
      subst h
      split
      · exact Resource.servicePorts_modifyTemplate _ r
      · rfl
  | registrySecrets =>
    refine Resource.servicePorts_congr hkind fun hr => ?_
    obtain ⟨rfl, _⟩ | ⟨hsecret, _⟩ := Enricher.RegistrySecrets.complete_cases h
    · rfl
    · cases hr.symm.trans hsecret
  | projectLabels | podAnnotations | volumePermissions | imageTriggers =>
    cases h
    rfl

lemma samePorts_fillContainer {image : Config.Image} {x y : Container}
    (h : (Enricher.Images.fillContainer c image x).Returns y) : x.SamePorts y := by
  rw [Enricher.Images.fillContainer, Logged.returns_bind] at h
  obtain ⟨env, _, h⟩ := h
  cases Logged.returns_pure.mp h
  exact .refl x

lemma uses_of_completes (hcontroller : e ≠ defaultController) (hservice : e ≠ defaultService)
    (h : e.Completes c r s) : s.Uses n ↔ r.Uses n := by
  refine Resource.uses_congr ?_ (servicePorts_of_completes hcontroller hservice h)
  by_cases himages : e = images
  · subst himages
    obtain rfl | ⟨_, h⟩ := h
    · rfl
    · obtain ⟨rfl, _⟩ | ⟨containers, hcontainers, hpod⟩ := Enricher.Images.pod_of_complete h
      · rfl
      · rw [hpod]
        exact PodSpec.uses_withContainers
          (Enricher.Images.eachPlace_fillContainers .refl samePorts_fillContainer hcontainers)
  · obtain hpod | ⟨liveness, readiness, hpod⟩ := probed_of_completes hcontroller himages h <;>
      rw [hpod]
    exact PodSpec.uses_probeLast liveness readiness r.pod

lemma uses_of_addMissing (hcontroller : e ≠ defaultController) (hservice : e ≠ defaultService)
    (h : ((e.enricher c).addMissing platform before).Returns after) :
    after.Uses n ↔ before.Uses n :=
  (exists_mem_iff_of_forall₂ (completes_of_addMissing hcontroller hservice h) fun hrs =>
    (uses_of_completes hcontroller hservice hrs).symm).symm

lemma uses_of_addAll (hcontroller : defaultController ∉ steps) (hservice : defaultService ∉ steps)
    (h : (addAll c platform steps before).Returns after) : after.Uses n ↔ before.Uses n := by
  refine Logged.returns_foldlM (R := fun b d : Collection => d.Uses n ↔ b.Uses n)
    (fun _ => Iff.rfl) (fun hab hbd => hbd.trans hab) (fun step hstep _ _ hrun => ?_) h
  exact uses_of_addMissing (fun heq => hcontroller (heq ▸ hstep))
    (fun heq => hservice (heq ▸ hstep)) hrun

end StandardEnricher

/-! ### Labelling and adapting -/

lemma Labelling.uses_labelResource (policy : Config.Policy) (enrichers : List Enricher)
    (r : Resource) : (labelResource policy enrichers r).Uses n ↔ r.Uses n := by
  have hselector : ∀ more (content : Content),
      (addSelector more content).servicePorts = content.servicePorts := by
    intro more content
    cases content <;> rename_i spec <;> cases spec <;> rfl
  refine Resource.uses_congr (by rw [pod_labelResource]) (congrArg (Option.getD · []) ?_)
  unfold labelResource
  dsimp only
  split
  · exact Content.servicePorts_modifyTemplate _ r.content
  · rw [hselector, Content.servicePorts_modifyTemplate]

lemma Labelling.uses_map_labelResource (policy : Config.Policy) (enrichers : List Enricher)
    (before : Collection) :
    Collection.Uses (before.map (labelResource policy enrichers)) n ↔ before.Uses n := by
  unfold Collection.Uses
  simp only [List.mem_map, exists_exists_and_eq_and, uses_labelResource]

namespace StandardEnricher

variable {c : Enricher.Context} {platform : Config.Platform} {e : StandardEnricher}
  {steps : List StandardEnricher} {r s : Resource} {before after : Collection}

lemma servicePorts_of_adaptResource (h : (e.adaptResource c platform r).Returns s) :
    s.servicePorts = r.servicePorts := by
  cases e with
  | projectLabels =>
    cases Logged.returns_pure.mp h
    exact Resource.servicePorts_modifyTemplate _ _
  | podAnnotations =>
    cases Logged.returns_pure.mp h
    unfold Enricher.PodAnnotations.annotateResource
    split
    · exact Resource.servicePorts_modifyTemplate _ r
    · rfl
  | volumePermissions =>
    obtain ⟨_, rfl, _⟩ := Enricher.VolumePermissions.adaptResource_cases h
    exact Resource.servicePorts_modifyTemplate _ r
  | imageTriggers =>
    cases Logged.returns_pure.mp h
    split
    · obtain ⟨_, hkind, _, hservice⟩ := Enricher.ImageTriggers.adaptResource_keeps (c := c) r
      exact Resource.servicePorts_congr hkind hservice
    · rfl
  | naming | defaultController | defaultService | images | healthChecks | registrySecrets =>
    cases Logged.returns_pure.mp h
    rfl

lemma uses_of_adaptResource (h : (e.adaptResource c platform r).Returns s) :
    s.Uses n ↔ r.Uses n := by
  refine Resource.uses_congr ?_ (servicePorts_of_adaptResource h)
  by_cases hvolumes : e = volumePermissions
  · subst hvolumes
    obtain hpod | ⟨container, hcontainer, hpod⟩ :=
      Enricher.VolumePermissions.pod_adaptResource h <;> rw [hpod]
    obtain ⟨_, _, hcontainer⟩ := Except.bind_eq_ok.mp hcontainer
    cases hcontainer
    -- The init container has no ports.
    refine or_congr_right ?_
    dsimp only [PodSpec.inits, PodSpec.withInits, Option.getD_some]
    simp only [List.mem_append, List.mem_singleton, or_and_right, exists_or, exists_eq_left]
    exact or_iff_left (Container.not_uses_of_ports rfl)
  by_cases htriggers : e = imageTriggers
  · subst htriggers
    cases Logged.returns_pure.mp h
    split
    next =>
      obtain hself | ⟨pod, hpod, hnew, _⟩ := Enricher.ImageTriggers.adaptResource_cases (c := c) r
      · rw [hself]
      · rw [Resource.pod_eq hpod, Resource.pod_eq hnew]
        exact PodSpec.uses_withContainers
          (.of_forall₂ rfl (Enricher.ImageTriggers.forall₂_addTriggers .refl .refl _ _))
    next => rfl
  · have hpods := samePods_of_returns hvolumes htriggers h
    rw [Resource.pod, Resource.pod, hpods.podSpec]

lemma uses_of_adaptAll (h : (adaptAll c platform steps before).Returns after) :
    after.Uses n ↔ before.Uses n := by
  refine Logged.returns_foldlM (R := fun b d : Collection => d.Uses n ↔ b.Uses n)
    (fun _ => Iff.rfl) (fun hab hbd => hbd.trans hab) (fun step _ _ _ hrun => ?_) h
  exact (exists_mem_iff_of_forall₂ (returns_adapt.mp hrun) fun hrs =>
    (uses_of_adaptResource hrs).symm).symm

end StandardEnricher
end Manifests
