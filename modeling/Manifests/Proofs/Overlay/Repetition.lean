import Manifests.Proofs.Overlay.Containers
import Manifests.Proofs.Overlay.Maps

/-! The same override twice.  Only the containers and the ports of a service can come out different;
metadata, selectors, volumes and everything that is missing at first do not. -/
namespace Manifests

/-! ### Maps -/

namespace Overlay

variable {α : Type} (isEmpty : α → Bool)

lemma lay_lay (base patch : SortedMap α) :
    lay isEmpty (lay isEmpty base patch) patch = lay isEmpty base patch := by
  apply SortedMap.ext_get?
  intro k
  rw [get?_lay, get?_lay]
  cases patch.get? k <;> rfl

@[simp] lemma entries_entries (base patch : Option (SortedMap α)) :
    entries isEmpty (entries isEmpty base patch) patch = entries isEmpty base patch := by
  cases patch with
  | none => rfl
  | some patch =>
    cases base with
    | some base =>
      change some (lay isEmpty (lay isEmpty base patch) patch) = some (lay isEmpty base patch)
      rw [lay_lay]
    | none =>
      have hnone : entries isEmpty none (some patch) =
          if (lay isEmpty ∅ patch).isEmpty then none else some (lay isEmpty ∅ patch) := rfl
      by_cases hempty : (lay isEmpty ∅ patch).isEmpty = true
      · rw [if_pos hempty] at hnone
        rw [hnone, hnone]
      · rw [if_neg hempty] at hnone
        rw [hnone]
        exact congrArg some (lay_lay isEmpty ∅ patch)

@[simp] lemma texts_texts (base patch : Option (SortedMap String)) :
    texts (texts base patch) patch = texts base patch := entries_entries _ _ _

end Overlay

@[simp] lemma ObjectMeta.overlay_overlay (base patch : ObjectMeta) :
    (base.overlay patch).overlay patch = base.overlay patch := by
  simp [overlay, ← Option.or_assoc]

@[simp] lemma LabelSelector.overlay_overlay (base patch : LabelSelector) :
    (base.overlay patch).overlay patch = base.overlay patch := by
  simp [overlay, ← Option.or_assoc]

lemma overlayPart_overlayPart_iff {α : Type} [Inhabited α] {f : α → α → α} {base patch : Option α} :
    overlayPart f (overlayPart f base patch) patch = overlayPart f base patch ↔
      ∀ p ∈ patch, f (f (base.getD default) p) p = f (base.getD default) p := by
  cases patch with
  | none => simp [overlayPart]
  | some p => simp [overlayPart]

/-! ### Pods -/

/-- The overrides change nothing when they are laid over the containers a second time. -/
def RepeatsContainers (base patch : List Container) : Prop :=
  overlayContainers 0 (overlayContainers 0 base patch) patch = overlayContainers 0 base patch

@[simp] lemma repeatsContainers_nil (base : List Container) : RepeatsContainers base [] := rfl

lemma PodSpec.overlay_overlay_iff {base patch : PodSpec} :
    (base.overlay patch).overlay patch = base.overlay patch ↔
      RepeatsContainers base.containers patch.containers := by
  have hvolumes := KeyedList.merge?_merge?_self (p := patch.volumes)
    (KeyedList.putAll_putAll (.of_key Volume.name (fun _ _ => beq_iff_eq.trans eq_comm) _))
    base.volumes
  simp only [overlay, PodSpec.mk.injEq, Option.orElse_eq_orElse, Option.orElse_eq_or,
    ← Option.or_assoc, Option.or_self, Overlay.texts_texts, hvolumes,
    true_and, and_true]
  exact Iff.rfl

/-- The containers of a template that may be missing or have no specification. -/
def containersOf (t : Option PodTemplateSpec) : List Container :=
  ((t.bind (·.spec)).map (·.containers)).getD []

lemma PodTemplateSpec.overlay_overlay_iff {base patch : PodTemplateSpec} :
    (base.overlay patch).overlay patch = base.overlay patch ↔
      RepeatsContainers (containersOf (some base)) (containersOf (some patch)) := by
  have hmetadata : overlayPart ObjectMeta.overlay
      (overlayPart ObjectMeta.overlay base.metadata patch.metadata) patch.metadata =
        overlayPart ObjectMeta.overlay base.metadata patch.metadata := by
    simp [overlayPart_overlayPart_iff]
  simp only [overlay, PodTemplateSpec.mk.injEq, hmetadata, true_and, overlayPart_overlayPart_iff,
    PodSpec.overlay_overlay_iff]
  obtain ⟨_, spec⟩ := base
  obtain ⟨_, patch⟩ := patch
  cases patch with
  | none => simp [containersOf]
  | some p =>
    cases spec with
    | none =>
      simp only [Option.mem_some_iff, forall_eq']
      rfl
    | some s => simp [containersOf]

lemma overlayPart_template_iff {base patch : Option PodTemplateSpec} :
    overlayPart PodTemplateSpec.overlay (overlayPart PodTemplateSpec.overlay base patch) patch =
        overlayPart PodTemplateSpec.overlay base patch ↔
      RepeatsContainers (containersOf base) (containersOf patch) := by
  simp only [overlayPart_overlayPart_iff, PodTemplateSpec.overlay_overlay_iff]
  cases patch with
  | none => simp [containersOf]
  | some p =>
    cases base with
    | none =>
      simp only [Option.mem_some_iff, forall_eq']
      rfl
    | some b => simp [containersOf]

section Controllers

lemma ReplicaSetSpec.overlay_overlay_iff {base patch : ReplicaSetSpec} :
    (base.overlay patch).overlay patch = base.overlay patch ↔
      RepeatsContainers (containersOf base.template) (containersOf patch.template) := by
  simp [overlay, ← Option.or_assoc, overlayPart_template_iff]

lemma ReplicationControllerSpec.overlay_overlay_iff {base patch : ReplicationControllerSpec} :
    (base.overlay patch).overlay patch = base.overlay patch ↔
      RepeatsContainers (containersOf base.template) (containersOf patch.template) := by
  simp [overlay, ← Option.or_assoc, overlayPart_template_iff]

lemma DeploymentConfigSpec.overlay_overlay_iff {base patch : DeploymentConfigSpec} :
    (base.overlay patch).overlay patch = base.overlay patch ↔
      RepeatsContainers (containersOf base.template) (containersOf patch.template) := by
  simp [overlay, ← Option.or_assoc, overlayPart_template_iff]

lemma DeploymentSpec.overlay_overlay_iff {base patch : DeploymentSpec} :
    (base.overlay patch).overlay patch = base.overlay patch ↔
      RepeatsContainers (containersOf (some base.template))
        (containersOf (some patch.template)) := by
  simp [overlay, ← Option.or_assoc, PodTemplateSpec.overlay_overlay_iff]

lemma StatefulSetSpec.overlay_overlay_iff {base patch : StatefulSetSpec} :
    (base.overlay patch).overlay patch = base.overlay patch ↔
      RepeatsContainers (containersOf (some base.template))
        (containersOf (some patch.template)) := by
  have hname : (if patch.serviceName = "" then
      (if patch.serviceName = "" then base.serviceName else patch.serviceName)
      else patch.serviceName) =
        if patch.serviceName = "" then base.serviceName else patch.serviceName := by
    split <;> rfl
  simp [overlay, ← Option.or_assoc, PodTemplateSpec.overlay_overlay_iff, hname]

lemma DaemonSetSpec.overlay_overlay_iff {base patch : DaemonSetSpec} :
    (base.overlay patch).overlay patch = base.overlay patch ↔
      RepeatsContainers (containersOf (some base.template))
        (containersOf (some patch.template)) := by
  simp [overlay, PodTemplateSpec.overlay_overlay_iff]

lemma JobSpec.overlay_overlay_iff {base patch : JobSpec} :
    (base.overlay patch).overlay patch = base.overlay patch ↔
      RepeatsContainers (containersOf (some base.template))
        (containersOf (some patch.template)) := by
  simp [overlay, ← Option.or_assoc, PodTemplateSpec.overlay_overlay_iff]

/-- A missing specification counts as an empty one, which has no containers. -/
lemma overlayPart_controller_iff {α : Type} [Inhabited α] {f : α → α → α}
    {template : α → Option PodTemplateSpec}
    (hf : ∀ {b p}, f (f b p) p = f b p ↔
      RepeatsContainers (containersOf (template b)) (containersOf (template p)))
    (hdefault : containersOf (template default) = []) (base patch : Option α) :
    overlayPart f (overlayPart f base patch) patch = overlayPart f base patch ↔
      RepeatsContainers (containersOf (base.bind template))
        (containersOf (patch.bind template)) := by
  simp only [overlayPart_overlayPart_iff, hf]
  cases patch with
  | none => simp [containersOf]
  | some p =>
    cases base with
    | none =>
      simp only [Option.mem_some_iff, forall_eq', Option.getD_none, Option.bind_some, hdefault]
      rfl
    | some b => simp

end Controllers

/-! ### Services -/

/-- The override changes nothing when it is laid over the ports a second time. -/
def RepeatsPorts (base patch : List ServicePort) : Prop :=
  KeyedList.putAll ServicePort.isSame (KeyedList.putAll ServicePort.isSame base patch) patch =
    KeyedList.putAll ServicePort.isSame base patch

@[simp] lemma repeatsPorts_nil (base : List ServicePort) : RepeatsPorts base [] := rfl

lemma ServiceSpec.overlay_overlay_iff {base patch : ServiceSpec} :
    (base.overlay patch).overlay patch = base.overlay patch ↔
      RepeatsPorts (base.ports.getD []) (patch.ports.getD []) := by
  simp only [overlay, ServiceSpec.mk.injEq, Option.orElse_eq_orElse, Option.orElse_eq_or,
    ← Option.or_assoc, Option.or_self, Overlay.texts_texts, true_and, and_true]
  cases patch.ports with
  | none => simp [KeyedList.merge?]
  | some ports => simp [KeyedList.merge?, RepeatsPorts]

/-! ### Resources -/

namespace Content

def containers (c : Content) : List Container := containersOf c.template?

def ports (c : Content) : List ServicePort := c.servicePorts.getD []

/-- Laid over a content once more, an override of its kind has changed nothing exactly if it repeats
on the containers and on the ports of a service. -/
theorem overlay_overlay_iff {base patch : Content} (hkind : base.kind = patch.kind) :
    (base.overlay patch).overlay patch = base.overlay patch ↔
      RepeatsContainers base.containers patch.containers ∧ RepeatsPorts base.ports patch.ports := by
  cases base <;> cases patch <;> try cases hkind
  case service b p =>
    simp only [overlay, service.injEq, overlayPart_overlayPart_iff, ServiceSpec.overlay_overlay_iff]
    refine Iff.trans ?_ (and_iff_right rfl).symm
    cases p with
    | none => simp [ports, servicePorts]
    | some p =>
      simp only [Option.mem_some_iff, forall_eq']
      cases b <;> rfl
  case replicaSet b p =>
    simp only [overlay, replicaSet.injEq]
    exact (overlayPart_controller_iff ReplicaSetSpec.overlay_overlay_iff rfl b p).trans
      (and_iff_left rfl).symm
  case replicationController b p =>
    simp only [overlay, replicationController.injEq]
    exact (overlayPart_controller_iff ReplicationControllerSpec.overlay_overlay_iff rfl b p).trans
      (and_iff_left rfl).symm
  case deploymentConfig version b _ p =>
    simp only [overlay, deploymentConfig.injEq, true_and]
    exact (overlayPart_controller_iff DeploymentConfigSpec.overlay_overlay_iff rfl b p).trans
      (and_iff_left rfl).symm
  case deployment b p =>
    simp only [overlay, deployment.injEq]
    refine (overlayPart_controller_iff DeploymentSpec.overlay_overlay_iff rfl b p).trans ?_
    cases b <;> cases p <;> exact (and_iff_left rfl).symm
  case statefulSet b p =>
    simp only [overlay, statefulSet.injEq]
    refine (overlayPart_controller_iff StatefulSetSpec.overlay_overlay_iff rfl b p).trans ?_
    cases b <;> cases p <;> exact (and_iff_left rfl).symm
  case daemonSet b p =>
    simp only [overlay, daemonSet.injEq]
    refine (overlayPart_controller_iff DaemonSetSpec.overlay_overlay_iff rfl b p).trans ?_
    cases b <;> cases p <;> exact (and_iff_left rfl).symm
  case job b p =>
    simp only [overlay, job.injEq]
    refine (overlayPart_controller_iff JobSpec.overlay_overlay_iff rfl b p).trans ?_
    cases b <;> cases p <;> exact (and_iff_left rfl).symm
  case podTemplate b p =>
    simp only [overlay, podTemplate.injEq]
    exact overlayPart_template_iff.trans (and_iff_left rfl).symm
  case secret b p =>
    simp only [overlay, SecretContent.overlay, Overlay.entries_entries, Overlay.texts_texts,
      Option.orElse_eq_orElse, Option.orElse_eq_or, ← Option.or_assoc, Option.or_self, true_iff]
    exact ⟨rfl, rfl⟩
  case configMap b p =>
    simp only [overlay, ConfigMapContent.overlay, Overlay.texts_texts, true_iff]
    exact ⟨rfl, rfl⟩

end Content

/-! ### When containers and ports repeat -/

/-- An added container stands in the result as it is, and lies under itself the next time. -/
theorem repeatsContainers_iff {us ns : List Container} (h : Orderly us ns) (base : List Container) :
    RepeatsContainers base (us ++ ns) ↔
      ∀ c, c ∈ us.drop base.length ∨ c ∈ ns ∧ (∀ b ∈ base, b.name ≠ c.name) → c.IsSettled := by
  unfold RepeatsContainers
  rw [overlayContainers_eq_layAll h, overlayContainers_eq_layAll h, layAll_layAll_iff h]
  exact forall_congr' fun c => imp_congr_left mem_added_iff

/-- Ports that are the same as a third one are the same. -/
def ServicePort.Transitive (ports : List ServicePort) : Prop :=
  ∀ p ∈ ports, ∀ q ∈ ports, ∀ r ∈ ports, p.isSame q = true → q.isSame r = true → p.isSame r = true

lemma ServicePort.isSame_comm (p q : ServicePort) : p.isSame q = q.isSame p := by
  unfold isSame
  cases p.name <;> cases q.name <;> exact BEq.comm

lemma ServicePort.isSame_self (p : ServicePort) : p.isSame p = true := by
  unfold isSame
  cases p.name <;> exact beq_self_eq_true _

theorem repeatsPorts_of_transitive {patch : List ServicePort} (h : ServicePort.Transitive patch)
    (base : List ServicePort) : RepeatsPorts base patch := by
  refine KeyedList.putAll_putAll ⟨fun p _ => p.isSame_self, fun p _ q _ hpq => ?_, h⟩ base
  rwa [q.isSame_comm]

namespace Resource

theorem overlay_twice_iff {base patch : Resource} (hkind : base.kind = patch.kind) :
    (∃ merged, base.overlay patch = .ok merged ∧
      (merged.overlay patch = .ok merged ↔
        RepeatsContainers base.content.containers patch.content.containers ∧
          RepeatsPorts base.content.ports patch.content.ports)) ∧
    (∀ us ns, patch.content.containers = us ++ ns → Orderly us ns →
      (RepeatsContainers base.content.containers patch.content.containers ↔
        ∀ c, c ∈ us.drop base.content.containers.length ∨
          c ∈ ns ∧ (∀ b ∈ base.content.containers, b.name ≠ c.name) → c.IsSettled)) ∧
    (ServicePort.Transitive patch.content.ports →
      RepeatsPorts base.content.ports patch.content.ports) := by
  refine ⟨⟨_, overlay_eq_ok hkind, ?_⟩, ?_, fun h => repeatsPorts_of_transitive h _⟩
  · have hmerged : Resource.kind
        ⟨base.metadata.overlay patch.metadata, base.content.overlay patch.content⟩ = patch.kind :=
      (Content.kind_overlay _ _).trans hkind
    rw [overlay_eq_ok hmerged, Except.ok.injEq, Resource.mk.injEq, ObjectMeta.overlay_overlay,
      ← Content.overlay_overlay_iff hkind]
    exact and_iff_right rfl
  · intro us ns hcontainers h
    rw [hcontainers]
    exact repeatsContainers_iff h _

/-- A container that removes a variable. -/
def withoutDebug : Container :=
  { (default : Container) with
    name := "app", env := some [{ (default : EnvVar) with name := "DEBUG" }] }

/-- A deployment of the containers, or one without a specification. -/
def deploymentOf (containers : Option (List Container)) : Resource where
  metadata := { (default : ObjectMeta) with name := some "web" }
  content := .deployment (containers.map fun containers => { (default : DeploymentSpec) with
    template := { metadata := none, spec := some { (default : PodSpec) with containers } } })

/-- The container is added with the variable that it removes, and then without. -/
theorem overlay_twice_withoutDebug :
    (deploymentOf none).kind = (deploymentOf (some [withoutDebug])).kind ∧
      ∃ merged, (deploymentOf none).overlay (deploymentOf (some [withoutDebug])) = .ok merged ∧
        merged.overlay (deploymentOf (some [withoutDebug])) ≠ .ok merged := by
  obtain ⟨⟨merged, hmerged, hiff⟩, hcontainers, _⟩ :=
    @overlay_twice_iff (deploymentOf none) (deploymentOf (some [withoutDebug])) rfl
  refine ⟨rfl, merged, hmerged, fun hsame => ?_⟩
  have horderly : Orderly [] [withoutDebug] :=
    ⟨by simp, by decide, by simp, by simp, by decide, by simp⟩
  have hsettled := (hcontainers [] [withoutDebug] rfl horderly).mp (hiff.mp hsame).1 withoutDebug
    (.inr ⟨List.mem_singleton_self _, by decide⟩)
  exact absurd (hsettled.sets _ (List.mem_singleton_self _)) (by decide)

end Resource
end Manifests
