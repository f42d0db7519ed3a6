import Manifests.Enricher.HealthChecks
import Manifests.Enricher.Images
import Manifests.Proofs.Blank
import Manifests.Proofs.Repetition.Filling
import Manifests.Proofs.Repetition.Pods

/-! Filling containers that the images have filled, and probing those that have probes.  Probes come
behind the images and leave nothing to do for them. -/
namespace Manifests

/-! ### Pods of controllers -/

/-- A template that is there is not replaced by an empty one. -/
lemma Content.ensureTemplate_eq_self {c : Content} {t : PodTemplateSpec}
    (h : c.template? = some t) : c.ensureTemplate = c := by
  cases c with
  | service | secret | configMap => rfl
  | podTemplate u =>
    cases u with
    | none => cases h
    | some u => rfl
  | deployment spec | statefulSet spec | daemonSet spec | job spec =>
    cases spec with
    | none => cases h
    | some s => rfl
  | replicaSet spec | replicationController spec | deploymentConfig _ spec =>
    cases spec with
    | none => cases h
    | some s =>
      obtain ⟨⟩ := s
      cases h
      rfl

namespace Resource

/-- Resources of one kind with as many replicas of the same pods, up to init containers. -/
structure SameWorkload (r s : Resource) : Prop where
  kind : s.kind = r.kind
  replicas : s.replicas? = r.replicas?
  podSpec : s.podSpec?.map (PodSpec.withInits none) = r.podSpec?.map (PodSpec.withInits none)

lemma SameWorkload.refl (r : Resource) : r.SameWorkload r := ⟨rfl, rfl, rfl⟩

lemma SameWorkload.trans {r s t : Resource} (h : r.SameWorkload s) (h' : s.SameWorkload t) :
    r.SameWorkload t :=
  ⟨h'.kind.trans h.kind, h'.replicas.trans h.replicas, h'.podSpec.trans h.podSpec⟩

lemma SameWorkload.symm {r s : Resource} (h : r.SameWorkload s) : s.SameWorkload r :=
  ⟨h.kind.symm, h.replicas.symm, h.podSpec.symm⟩

/-- What holds of a pod whatever its init containers are. -/
lemma SameWorkload.exists_podSpec {r s : Resource} (h : r.SameWorkload s) {pod : PodSpec}
    (hpod : s.podSpec? = some pod) :
    ∃ old inits, r.podSpec? = some old ∧ pod = old.withInits inits := by
  have hmap := h.podSpec
  rw [hpod, Option.map_some, eq_comm, Option.map_eq_some_iff] at hmap
  obtain ⟨old, hold, heq⟩ := hmap
  exact ⟨old, pod.initContainers, hold,
    (congrArg (PodSpec.withInits pod.initContainers) heq).symm⟩

/-- Kinds of resources that run no pods. -/
def podlessKinds : List Kind := [.service, .secret, .configMap]

lemma podSpec?_of_podless {r : Resource} (h : r.kind ∈ podlessKinds) :
    r.podSpec? = none ∧ r.replicas? = none := by
  obtain ⟨m, content⟩ := r
  cases content with
  | service | secret | configMap => exact ⟨rfl, rfl⟩
  | _ => simp [podlessKinds, kind, Content.kind] at h

lemma sameWorkload_of_podless {r s : Resource} (hr : r.kind ∈ podlessKinds)
    (h : s.kind = r.kind) : r.SameWorkload s := by
  have hpods := podSpec?_of_podless hr
  have hpods' := podSpec?_of_podless (h ▸ hr)
  exact ⟨h, hpods'.2.trans hpods.2.symm, by rw [hpods.1, hpods'.1]⟩

variable {r : Resource}

lemma podSpec?_ensureTemplate (h : r.kind.isController = true) :
    r.ensureTemplate.podSpec? = some (r.podSpec?.getD default) := by
  obtain ⟨m, content⟩ := r
  cases content with
  | service | secret | configMap | podTemplate => cases h
  | deployment spec | statefulSet spec | daemonSet spec | job spec => cases spec <;> rfl
  | replicaSet spec | replicationController spec | deploymentConfig _ spec =>
    cases spec with
    | none => rfl
    | some s =>
      change (some ((s.template.getD default).spec.getD default)) =
        some ((s.template.bind (·.spec)).getD default)
      cases s.template <;> rfl

@[simp] lemma replicas?_ensureTemplate (r : Resource) :
    r.ensureTemplate.replicas? = r.replicas? := by
  obtain ⟨m, content⟩ := r
  cases content <;> rename_i spec <;> cases spec <;> rfl

@[simp] lemma replicas?_modifyPodSpec (f : PodSpec → PodSpec) (r : Resource) :
    (r.modifyPodSpec f).replicas? = r.replicas? := Content.replicas?_modifyTemplate _ r.content

@[simp] lemma kind_modifyPodSpec (f : PodSpec → PodSpec) (r : Resource) :
    (r.modifyPodSpec f).kind = r.kind := kind_modifyTemplate _ r

@[simp] lemma kind_ensureTemplate (r : Resource) : r.ensureTemplate.kind = r.kind :=
  (Content.kind_modifyTemplate _ _).trans (Content.kind_ensureTemplate r.content)

/-- A pod specification that is there is not replaced by an empty one. -/
lemma ensureTemplate_eq_self {s : PodSpec} (h : r.podSpec? = some s) : r.ensureTemplate = r := by
  obtain ⟨t, ht, hs⟩ := Option.bind_eq_some_iff.mp h
  have hspec : PodTemplateSpec.ensureSpec t = t := by
    obtain ⟨m, _⟩ := t
    cases hs
    rfl
  obtain ⟨m, content⟩ := r
  refine congrArg (Resource.mk m) ?_
  change content.ensureTemplate.modifyTemplate _ = content
  rw [Content.ensureTemplate_eq_self ht, Content.modifyTemplate_eq_self_iff]
  intro u hu
  cases ht.symm.trans hu
  exact hspec

end Resource

namespace Enricher

/-! ### Containers of images -/

namespace Images

variable {c : Context} {image : Config.Image} {container new : Container} {env : List EnvVar}

/-- A name that can be configured. -/
def Admitted (name : String) : Prop :=
  Text.isBlank name = false ∧ name ≠ Environment.namespaceName

lemma returns_admits_iff {name value : String} {admitted : Bool} :
    (Environment.admits name value).Returns admitted ↔ (admitted = true ↔ Admitted name) := by
  unfold Environment.admits Admitted
  split
  next hblank =>
    rw [Logged.returns_bind]
    cases admitted <;> simp [hblank]
  next hblank =>
    split
    next hname =>
      rw [Logged.returns_bind]
      cases admitted <;> simp [hname]
    next hname => cases admitted <;> simp [hblank, hname]

/-- Variables that are declared already are not added. -/
lemma returns_addVariables_self {entries : List (String × String)}
    (h : ∀ entry ∈ entries, Admitted entry.1 → ∃ v ∈ env, v.name = entry.1) :
    (addVariables env entries).Returns env := by
  induction entries with
  | nil => exact Logged.returns_pure.mpr rfl
  | cons entry rest ih =>
    obtain ⟨name, value⟩ := entry
    obtain ⟨hentry, hrest⟩ := List.forall_mem_cons.mp h
    rw [addVariables, Logged.returns_bind]
    by_cases hadmitted : Admitted name
    · refine ⟨true, returns_admits_iff.mpr (by simp [hadmitted]), ?_⟩
      obtain ⟨v, hv, hname⟩ := hentry hadmitted
      rw [if_pos rfl]
      split
      next hnone => exact absurd hname (by simpa using List.find?_eq_none.mp hnone v hv)
      next =>
        split
        · exact ih hrest
        · exact Logged.returns_bind.mpr ⟨(), rfl, ih hrest⟩
    · exact ⟨false, returns_admits_iff.mpr (by simp [hadmitted]), ih hrest⟩

/-- One variable is declared afterwards, if it can be. -/
lemma addVariables_cons {name value : String} {rest : List (String × String)} {new : List EnvVar}
    (h : (addVariables env ((name, value) :: rest)).Returns new) :
    ∃ declared, (Admitted name → ∃ v ∈ declared, v.name = name) ∧
      (addVariables declared rest).Returns new := by
  rw [addVariables, Logged.returns_bind] at h
  obtain ⟨admitted, hadmits, h⟩ := h
  rw [returns_admits_iff] at hadmits
  cases admitted with
  | false => exact ⟨env, fun hname => absurd (hadmits.mpr hname) (by simp), h⟩
  | true =>
    rw [if_pos rfl] at h
    split at h
    · exact ⟨_, fun _ => ⟨_, List.mem_append_right env (List.mem_singleton_self _), rfl⟩, h⟩
    next present hpresent =>
      have hname : Admitted name → ∃ v ∈ env, v.name = name := fun _ =>
        ⟨present, List.mem_of_find?_eq_some hpresent, by simpa using List.find?_some hpresent⟩
      split at h
      · exact ⟨env, hname, h⟩
      · obtain ⟨_, _, h⟩ := Logged.returns_bind.mp h
        exact ⟨env, hname, h⟩

/-- All variables that can be configured are declared in the end. -/
lemma mem_of_addVariables {new : List EnvVar} {entries : List (String × String)}
    (h : (addVariables env entries).Returns new) :
    ∀ entry ∈ entries, Admitted entry.1 → ∃ v ∈ new, v.name = entry.1 := by
  induction entries generalizing env with
  | nil => simp
  | cons entry rest ih =>
    obtain ⟨name, value⟩ := entry
    obtain ⟨declared, hname, hrest⟩ := addVariables_cons h
    refine List.forall_mem_cons.mpr ⟨fun hadmitted => ?_, ih hrest⟩
    obtain ⟨v, hv, hvname⟩ := hname hadmitted
    exact ⟨v, (prefix_addVariables hrest).subset hv, hvname⟩

/-- A container that an image has filled. -/
structure Complete (c : Context) (image : Config.Image) (container : Container) : Prop where
  name : Text.isBlank container.name = false
  reference : (container.image.bind Text.nonBlank?).isSome = true ∨ image.reference? = none
  imagePullPolicy : (container.imagePullPolicy.bind Text.nonBlank?).isSome = true ∨
    container.imagePullPolicy = some (pullPolicy c image)
  env : ∃ env, container.env = some env ∧
    env.any (·.name == Environment.namespaceName) = true ∧
    ∀ entry ∈ c.policy.env.toList, Admitted entry.1 → ∃ v ∈ env, v.name = entry.1

lemma Complete.returns_self (h : Complete c image container) :
    (fillContainer c image container).Returns container := by
  obtain ⟨env, henv, hnamespace, hdeclared⟩ := h.env
  rw [fillContainer, Logged.returns_bind]
  refine ⟨env, ?_, ?_⟩
  · rw [henv]
    exact returns_addVariables_self hdeclared
  · rw [Logged.returns_pure]
    have hpolicy : (if (container.imagePullPolicy.bind Text.nonBlank?).isSome
        then container.imagePullPolicy else some (pullPolicy c image)) =
        container.imagePullPolicy := by
      split
      next => rfl
      next hblank => exact (h.imagePullPolicy.resolve_left hblank).symm
    have himage : (if (container.image.bind Text.nonBlank?).isSome
        then container.image else image.reference? <|> container.image) = container.image := by
      split
      next => rfl
      next hblank =>
        rw [h.reference.resolve_left hblank]
        rfl
    rw [addNamespace, if_pos hnamespace, ← henv, hpolicy, himage, if_neg (by simp [h.name])]

lemma complete_of_returns (h : (fillContainer c image container).Returns new) :
    Complete c image new := by
  rw [fillContainer, Logged.returns_bind] at h
  obtain ⟨env, henv, h⟩ := h
  cases Logged.returns_pure.mp h
  constructor
  · dsimp only
    split
    next => exact image.isBlank_containerName c.project
    next hname => exact Bool.eq_false_iff.mpr hname
  · dsimp only
    split
    next himage => exact .inl himage
    next =>
      cases hreference : image.reference? with
      | none => exact .inr rfl
      | some reference =>
        exact .inl (isSome_bind_nonBlank?.mpr
          ⟨reference, rfl, Config.Image.isBlank_reference? hreference⟩)
  · dsimp only
    split
    next hpolicy => exact .inl hpolicy
    next => exact .inr rfl
  · refine ⟨addNamespace env, rfl, ?_, fun entry hentry hadmitted => ?_⟩
    · unfold addNamespace
      split
      next hnamespace => exact hnamespace
      next => simp [Environment.namespaceVariable]
    · obtain ⟨v, hv, hname⟩ := mem_of_addVariables henv entry hentry hadmitted
      exact ⟨v, (prefix_addNamespace env).subset hv, hname⟩

/-- The pull policy of the setting is not blank, so no blank one replaces another. -/
def HasPullPolicy (c : Context) : Prop :=
  ∀ policy, c.text? name pullPolicyKey = some policy → Text.isBlank policy = false

lemma HasPullPolicy.isBlank_pullPolicy (h : HasPullPolicy c) (image : Config.Image) :
    Text.isBlank (pullPolicy c image) = false := by
  unfold pullPolicy
  split
  next policy hpolicy => exact h policy hpolicy
  next => split <;> decide

lemma filled_of_returns (hc : HasPullPolicy c)
    (h : (fillContainer c image container).Returns new) : container.Filled new := by
  have hcomplete := complete_of_returns h
  rw [fillContainer, Logged.returns_bind] at h
  obtain ⟨env, henv, h⟩ := h
  cases Logged.returns_pure.mp h
  exact { Container.Filled.refl container with
    name := .inr hcomplete.name
    image := by
      refine hcomplete.reference.elim .inr fun hnone => .inl ?_
      rw [hnone]
      exact ite_self container.image
    imagePullPolicy := by
      refine .inr (hcomplete.imagePullPolicy.elim id fun hpolicy => ?_)
      rw [hpolicy, isSome_bind_nonBlank?]
      exact ⟨_, rfl, hc.isBlank_pullPolicy image⟩
    env := by
      intro declared hdeclared
      rw [hdeclared] at henv
      exact ⟨_, rfl, (prefix_addVariables henv).trans (prefix_addNamespace env)⟩ }

/-- Every image has filled the container at its place. -/
def CompleteAll (c : Context) (images : List Config.Image) (containers : List Container) : Prop :=
  ∀ (i : Nat) (image : Config.Image), images[i]? = some image →
    ∃ container, containers[i]? = some container ∧ Complete c image container

lemma CompleteAll.returns_self {images : List Config.Image} {containers : List Container}
    (h : CompleteAll c images containers) :
    (fillContainers c images containers).Returns containers := by
  induction images generalizing containers with
  | nil => cases containers <;> exact Logged.returns_pure.mpr rfl
  | cons image images ih =>
    obtain ⟨container, hcontainer, hcomplete⟩ := h 0 image rfl
    cases containers with
    | nil => cases hcontainer
    | cons first containers =>
      cases hcontainer
      rw [fillContainers, Logged.returns_bind]
      refine ⟨container, hcomplete.returns_self, Logged.returns_bind.mpr ⟨containers, ?_, ?_⟩⟩
      · exact ih fun i image' himage => h (i + 1) image' himage
      · exact Logged.returns_pure.mpr rfl

lemma completeAll_of_returns {images : List Config.Image} {containers new : List Container}
    (h : (fillContainers c images containers).Returns new) : CompleteAll c images new := by
  fun_induction fillContainers c images containers generalizing new with
  | case1 containers => exact fun i image himage => by simp at himage
  | case2 image images ih =>
    simp only [Logged.returns_bind, Logged.returns_pure] at h
    obtain ⟨first, hfirst, rest, hrest, rfl⟩ := h
    rintro (_ | i) image' himage
    · cases himage
      exact ⟨first, rfl, complete_of_returns hfirst⟩
    · exact ih hrest i image' himage
  | case3 image images container containers ih =>
    simp only [Logged.returns_bind, Logged.returns_pure] at h
    obtain ⟨first, hfirst, rest, hrest, rfl⟩ := h
    rintro (_ | i) image' himage
    · cases himage
      exact ⟨first, rfl, complete_of_returns hfirst⟩
    · exact ih hrest i image' himage

variable {r s : Resource}

lemma complete_cases (h : (complete c r).Returns s) :
    r.kind.isController = false ∧ s = r ∨ r.kind.isController = true ∧ ∃ containers,
      (fillContainers c c.images (r.podSpec?.getD default).containers).Returns containers ∧
        s = r.ensureTemplate.modifyPodSpec (PodSpec.withContainers containers) := by
  unfold complete at h
  split at h
  next hkind =>
    obtain ⟨containers, hcontainers, h⟩ := Logged.returns_bind.mp h
    rw [Resource.podSpec?_ensureTemplate hkind] at hcontainers
    exact .inr ⟨hkind, containers, hcontainers, (Logged.returns_pure.mp h).symm⟩
  next hkind => exact .inl ⟨by simpa using hkind, (Logged.returns_pure.mp h).symm⟩

/-- A controller whose containers are filled from all images. -/
def Completed (c : Context) (r : Resource) : Prop :=
  r.kind.isController = true → ∃ s, r.podSpec? = some s ∧ CompleteAll c c.images s.containers

lemma completed_of_returns (h : (complete c r).Returns s) : Completed c s := by
  intro hkind
  obtain ⟨hnot, rfl⟩ | ⟨hcontroller, containers, hcontainers, rfl⟩ := complete_cases h
  · rw [hnot] at hkind
    cases hkind
  · refine ⟨(r.podSpec?.getD default).withContainers containers, ?_,
      completeAll_of_returns hcontainers⟩
    rw [Resource.podSpec?_modifyPodSpec, Resource.podSpec?_ensureTemplate hcontroller]
    rfl

lemma Completed.returns_self (h : Completed c r) : (complete c r).Returns r := by
  unfold complete
  split
  next hkind =>
    obtain ⟨s, hs, hcomplete⟩ := h hkind
    rw [Resource.ensureTemplate_eq_self hs]
    refine Logged.returns_bind.mpr ⟨s.containers, ?_, ?_⟩
    · rw [hs]
      exact hcomplete.returns_self
    · rw [Logged.returns_pure]
      refine Resource.modifyPodSpec_eq_self fun s' hs' => ?_
      cases hs.symm.trans hs'
      rfl
  next => exact Logged.returns_pure.mpr rfl

lemma Completed.of_sameWorkload (h : r.SameWorkload s) (hr : Completed c r) : Completed c s := by
  intro hkind
  rw [h.kind] at hkind
  obtain ⟨old, hold, hcomplete⟩ := hr hkind
  obtain ⟨pod, inits, hpod, rfl⟩ := h.symm.exists_podSpec hold
  exact ⟨pod, hpod, hcomplete⟩

end Images

/-! ### Probes -/

namespace HealthChecks

variable {liveness readiness : Option Probe} {r s : Resource}

/-- The container with the probes that it lacks. -/
def probed (liveness readiness : Option Probe) (c : Container) : Container :=
  { c with
    readinessProbe := c.readinessProbe <|> readiness
    livenessProbe := c.livenessProbe <|> liveness }

def probeLast (liveness readiness : Option Probe) (s : PodSpec) : PodSpec :=
  match s.containers.getLast? with
  | none => s
  | some c => s.withContainers (s.containers.dropLast ++ [probed liveness readiness c])

lemma returns_choose {role : String} {present configured chosen : Option Probe} :
    (choose role present configured).Returns chosen ↔ (present <|> configured) = chosen := by
  cases present with
  | some probe => exact Logged.returns_pure
  | none =>
    cases configured with
    | some probe =>
      rw [choose, Logged.returns_bind]
      exact ⟨fun ⟨_, _, h⟩ => Logged.returns_pure.mp h,
        fun h => ⟨(), rfl, Logged.returns_pure.mpr h⟩⟩
    | none => exact Logged.returns_pure

lemma returns_addProbes {c d : Container} :
    (addProbes liveness readiness c).Returns d ↔ probed liveness readiness c = d := by
  simp only [addProbes, Logged.returns_bind, Logged.returns_pure, returns_choose, exists_eq_left',
    probed]

lemma returns_complete : (complete liveness readiness r).Returns s ↔
    (if r.kind.isDeployOrReplica then r.modifyPodSpec (probeLast liveness readiness)
      else r) = s := by
  unfold complete
  split
  next =>
    split
    next hlast =>
      rw [Logged.returns_pure, Resource.modifyPodSpec_eq_self]
      intro pod hpod
      have hnone : pod.containers.getLast? = none := by rwa [hpod] at hlast
      rw [probeLast, hnone]
    next c hlast =>
      have hcongr : r.modifyPodSpec (probeLast liveness readiness) = r.modifyPodSpec fun s =>
          { s with containers := s.containers.dropLast ++ [probed liveness readiness c] } := by
        refine Resource.modifyPodSpec_congr fun pod hpod => ?_
        have hsome : pod.containers.getLast? = some c := by rwa [hpod] at hlast
        rw [probeLast, hsome]
        rfl
      simp only [Logged.returns_bind, Logged.returns_pure, returns_addProbes, exists_eq_left',
        hcongr, Logged.returns_info, exists_const, true_and]
  next => exact Logged.returns_pure

/-- The last container has no probe to get. -/
def Completed (liveness readiness : Option Probe) (r : Resource) : Prop :=
  r.kind.isDeployOrReplica = true →
    ∀ s, r.podSpec? = some s → probeLast liveness readiness s = s

lemma probeLast_probeLast_self (s : PodSpec) :
    probeLast liveness readiness (probeLast liveness readiness s) =
      probeLast liveness readiness s := by
  cases hlast : s.containers.getLast? with
  | none =>
    have hself : probeLast liveness readiness s = s := by rw [probeLast, hlast]
    rw [hself, hself]
  | some c =>
    have hprobed : probed liveness readiness (probed liveness readiness c) =
        probed liveness readiness c := by
      simp only [probed, Option.orElse_orElse_self]
    have hself : probeLast liveness readiness s =
        s.withContainers (s.containers.dropLast ++ [probed liveness readiness c]) := by
      rw [probeLast, hlast]
    rw [hself, probeLast]
    change (match (s.containers.dropLast ++ [_]).getLast? with | none => _ | some c => _) = _
    rw [List.getLast?_concat]
    dsimp only [PodSpec.withContainers]
    rw [List.dropLast_concat, hprobed]

lemma completed_of_returns (h : (complete liveness readiness r).Returns s) :
    Completed liveness readiness s := by
  rw [returns_complete] at h
  subst h
  intro hkind pod hpod
  split at hkind
  next hr =>
    rw [if_pos hr, Resource.podSpec?_modifyPodSpec, Option.map_eq_some_iff] at hpod
    obtain ⟨old, _, rfl⟩ := hpod
    exact probeLast_probeLast_self old
  next hr => exact absurd hkind hr

lemma Completed.returns_self (h : Completed liveness readiness r) :
    (complete liveness readiness r).Returns r := by
  rw [returns_complete]
  split
  next hkind => exact Resource.modifyPodSpec_eq_self (h hkind)
  next => rfl

/-- Without probes there is nothing to add. -/
lemma completed_none (r : Resource) : Completed none none r := by
  intro _ pod _
  unfold probeLast
  split
  next => rfl
  next c hlast =>
    have hprobed : probed none none c = c := by
      obtain ⟨⟩ := c
      simp [probed]
    rw [hprobed, List.dropLast_append_getLast? c hlast]
    rfl

lemma probeLast_withInits (inits : Option (List Container)) (s : PodSpec) :
    probeLast liveness readiness (s.withInits inits) =
      (probeLast liveness readiness s).withInits inits := by
  unfold probeLast
  change (match s.containers.getLast? with | none => _ | some c => _) = _
  cases s.containers.getLast? <;> rfl

lemma Completed.of_sameWorkload (h : r.SameWorkload s) (hr : Completed liveness readiness r) :
    Completed liveness readiness s := by
  intro hkind pod hpod
  obtain ⟨old, inits, hold, rfl⟩ := h.exists_podSpec hpod
  rw [probeLast_withInits, hr (h.kind ▸ hkind) old hold]

lemma filled_probed (c : Container) : c.Filled (probed liveness readiness c) :=
  { Container.Filled.refl c with
    readinessProbe := .orElse _ _
    livenessProbe := .orElse _ _ }

/-- Only the last container is another one, if there is any. -/
lemma probeLast_cases (s : PodSpec) : ∃ containers,
    probeLast liveness readiness s = s.withContainers containers ∧
      (s.containers ≠ [] ∨ containers = s.containers) ∧
      ∀ {R : Container → Container → Prop}, (∀ c, R c c) →
        (∀ c, R c (probed liveness readiness c)) → KeepsItems R s.containers containers := by
  unfold probeLast
  split
  next => exact ⟨s.containers, rfl, .inr rfl, fun hR _ => .refl hR _⟩
  next c hlast =>
    refine ⟨_, rfl, .inl fun hnil => ?_, fun hR hprobed => .replaceLast hR hlast (hprobed c)⟩
    rw [hnil] at hlast
    cases hlast

end HealthChecks

/-- Probes come behind what images fill. -/
lemma Images.Completed.probes {c : Context} {liveness readiness : Option Probe} {r s : Resource}
    (hr : Images.Completed c r) (h : (HealthChecks.complete liveness readiness r).Returns s) :
    Images.Completed c s := by
  rw [HealthChecks.returns_complete] at h
  subst h
  split
  next =>
    intro hkind
    rw [Resource.kind_modifyPodSpec] at hkind
    obtain ⟨pod, hpod, hcomplete⟩ := hr hkind
    obtain ⟨containers, heq, _, hkeeps⟩ :=
      @HealthChecks.probeLast_cases liveness readiness pod
    refine ⟨pod.withContainers containers, ?_, fun i image himage => ?_⟩
    · rw [Resource.podSpec?_modifyPodSpec, hpod, ← heq]
      rfl
    · obtain ⟨container, hcontainer, hfilled⟩ := hcomplete i image himage
      exact (hkeeps (R := fun x y => Images.Complete c image x → Images.Complete c image y)
        (fun _ => id) (fun _ h => ⟨h.name, h.reference, h.imagePullPolicy, h.env⟩) i container
        hcontainer).imp fun _ h => ⟨h.1, h.2 hfilled⟩
  next => exact hr

end Enricher
end Manifests
