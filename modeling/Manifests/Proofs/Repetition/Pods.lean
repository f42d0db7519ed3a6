import Manifests.Proofs.Extension.Enrichment
import Manifests.Proofs.Repetition.Metadata

/-! Adapting pods that are adapted already.  The init container that opens volumes is found by its
name, and a container that got a trigger is covered by it from then on, with its image or without
it. -/
namespace Manifests

namespace Resource

/-- Resources of one kind with the same pods and triggers. -/
structure SamePods (r s : Resource) : Prop where
  kind : s.kind = r.kind
  podSpec : s.podSpec? = r.podSpec?
  triggers : s.content.triggers = r.content.triggers

@[simp] lemma podSpec?_modifyTemplate (f : PodTemplateSpec → PodTemplateSpec) (r : Resource) :
    (r.modifyTemplate f).podSpec? = r.template?.bind fun t => (f t).spec := by
  rw [podSpec?, template?_modifyTemplate, Option.bind_map]
  rfl

@[simp] lemma podSpec?_modifyPodSpec (f : PodSpec → PodSpec) (r : Resource) :
    (r.modifyPodSpec f).podSpec? = r.podSpec?.map f := by
  rw [modifyPodSpec, podSpec?_modifyTemplate, podSpec?]
  cases r.template? <;> rfl

lemma samePods_modifyTemplate {f : PodTemplateSpec → PodTemplateSpec} (r : Resource)
    (hf : ∀ t, (f t).spec = t.spec) : r.SamePods (r.modifyTemplate f) where
  kind := kind_modifyTemplate f r
  podSpec := by
    rw [podSpec?_modifyTemplate]
    simp only [hf]
    rfl
  triggers := Content.triggers_modifyTemplate f r.content

lemma relabelled_modifyTemplate {f : PodTemplateSpec → PodTemplateSpec} (r : Resource)
    (hf : ∀ t, (f t).metadata = t.metadata) : r.Relabelled (r.modifyTemplate f) where
  kind := kind_modifyTemplate f r
  labels := .refl _
  annotations := rfl
  template := by
    intro u hu
    rw [template?_modifyTemplate, Option.map_eq_some_iff] at hu
    obtain ⟨t, ht, rfl⟩ := hu
    rw [hf]
    exact ⟨t, ht, .refl .refl _⟩
  selector := Labelling.addSelector_modifyTemplate_eq_self

lemma modifyPodSpec_congr {f g : PodSpec → PodSpec} {r : Resource}
    (h : ∀ s, r.podSpec? = some s → f s = g s) : r.modifyPodSpec f = r.modifyPodSpec g := by
  obtain ⟨m, content⟩ := r
  refine congrArg (Resource.mk m) (Content.modifyTemplate_congr fun t ht => ?_)
  obtain ⟨n, spec⟩ := t
  cases spec with
  | none => rfl
  | some s =>
    have hs : podSpec? ⟨m, content⟩ = some s := by
      change content.template?.bind (·.spec) = some s
      rw [ht]
      rfl
    change PodTemplateSpec.mk n (some (f s)) = PodTemplateSpec.mk n (some (g s))
    rw [h s hs]

/-- A change of the pod specification is none if the one that is given stays. -/
lemma modifyPodSpec_eq_self {f : PodSpec → PodSpec} {r : Resource}
    (h : ∀ s, r.podSpec? = some s → f s = s) : r.modifyPodSpec f = r := by
  rw [modifyPodSpec_congr h]
  obtain ⟨m, content⟩ := r
  refine congrArg (Resource.mk m) (Content.modifyTemplate_eq_self_iff.mpr fun t _ => ?_)
  obtain ⟨n, spec⟩ := t
  cases spec <;> rfl

end Resource

namespace Enricher

lemma ProjectLabels.samePods_labelResource (labels : SortedMap String) (r : Resource) :
    r.SamePods (labelResource labels r) :=
  have h := Resource.samePods_modifyTemplate { r with metadata := label labels r.metadata }
    (f := fun t => { t with metadata := some (label labels (t.metadata.getD default)) })
    fun _ => rfl
  ⟨h.kind, h.podSpec, h.triggers⟩

lemma PodAnnotations.samePods_annotateResource (r : Resource) :
    r.SamePods (annotateResource r) := by
  unfold annotateResource
  split
  · exact r.samePods_modifyTemplate fun _ => rfl
  · exact ⟨rfl, rfl, rfl⟩

namespace VolumePermissions

/-- Volumes that are claimed are opened by an init container. -/
def Opened (s : PodSpec) : Prop :=
  isNeeded s = true → ∃ container ∈ s.initContainers.getD [], container.name = name

variable {c : Context} {t u : PodTemplateSpec} {s : PodSpec}

/-- Volumes do not depend on the images of the containers that mount them. -/
lemma Opened.withContainers {containers : List Container}
    (hlength : containers.length = s.containers.length) (h : Opened s) :
    Opened (s.withContainers containers) := by
  intro hneeded
  refine h ?_
  have hempty : containers.isEmpty = s.containers.isEmpty := by
    cases containers <;> cases hs : s.containers <;> simp [hs] at hlength ⊢
  change (!(claims s).isEmpty && !containers.isEmpty) = true at hneeded
  rwa [hempty] at hneeded

lemma hasInitContainer_iff (hs : t.spec = some s) :
    t.hasInitContainer name = true ↔
      ∃ container ∈ s.initContainers.getD [], container.name = name := by
  simp [PodTemplateSpec.hasInitContainer, PodTemplateSpec.initContainer?,
    PodTemplateSpec.initContainers, hs]

lemma name_initContainer {container : Container} (h : initContainer c s = .ok container) :
    container.name = name := by
  obtain ⟨mounts, _, h⟩ := Except.bind_eq_ok.mp h
  cases h
  rfl

/-- An init container that was added is there, whether it is new or not. -/
lemma addInitContainer_cases {container : Container} (hs : t.spec = some s)
    (h : (t.addInitContainer container).Returns u) : ∃ inits,
      u = { t with spec := some (s.withInits inits) } ∧
        ∃ present ∈ inits.getD [], present.name = container.name := by
  have hinits : t.initContainers = s.initContainers.getD [] := by
    simp [PodTemplateSpec.initContainers, hs]
  unfold PodTemplateSpec.addInitContainer at h
  split at h
  · cases Logged.returns_pure.mp h
    refine ⟨some (t.initContainers ++ [container]), ?_, container, by simp, rfl⟩
    rw [PodTemplateSpec.pushInitContainer, hs]
    rfl
  next present hpresent =>
    split at h
    next heq =>
      obtain ⟨_, _, h⟩ := Logged.returns_bind.mp h
      cases Logged.returns_pure.mp h
      refine ⟨s.initContainers, ?_, present, ?_, heq ▸ rfl⟩
      · obtain ⟨m, spec⟩ := t
        cases hs
        rfl
      · rw [← hinits]
        exact List.mem_of_find?_eq_some hpresent
    next => exact absurd h Logged.returns_throw

/-- A template without a specification, or one whose volumes are open, stays. -/
lemma returns_adaptTemplate_self (h : ∀ s, t.spec = some s → Opened s) :
    (adaptTemplate c t).Returns t := by
  unfold adaptTemplate
  split
  · exact Logged.returns_pure.mpr rfl
  next s hs =>
    split
    next hneeded =>
      simp only [Bool.and_eq_true, Bool.not_eq_true'] at hneeded
      have hopen := (hasInitContainer_iff hs).mpr (h s hs hneeded.1)
      rw [hneeded.2] at hopen
      cases hopen
    next => exact Logged.returns_pure.mpr rfl

/-- What comes out is open, and only its init containers may be new. -/
lemma adaptTemplate_cases (h : (adaptTemplate c t).Returns u) :
    ∃ inits, u = { t with spec := t.spec.map (PodSpec.withInits inits) } ∧
      ∀ s, u.spec = some s → Opened s := by
  obtain ⟨m, spec⟩ := t
  cases spec with
  | none =>
    cases Logged.returns_pure.mp h
    exact ⟨none, rfl, fun s (hs : none = some s) => nomatch hs⟩
  | some s =>
    dsimp only [adaptTemplate] at h
    split at h
    next =>
      obtain ⟨container, hcontainer, h⟩ := Logged.returns_bind.mp h
      obtain ⟨inits, rfl, present, hmem, hname⟩ := addInitContainer_cases rfl h
      refine ⟨inits, rfl, fun s' hs' _ =>
        ⟨present, ?_, hname.trans (name_initContainer hcontainer)⟩⟩
      obtain rfl : s.withInits inits = s' := Option.some.inj hs'
      exact hmem
    next hnot =>
      cases Logged.returns_pure.mp h
      refine ⟨s.initContainers, rfl, fun s' hs' hneeded => ?_⟩
      obtain rfl : s = s' := Option.some.inj hs'
      refine (hasInitContainer_iff (t := ⟨m, some s⟩) rfl).mp ?_
      simpa [hneeded] using hnot

/-- The same for a resource that may have no template. -/
lemma adaptResource_cases {r s : Resource} (h : (r.adaptTemplate (adaptTemplate c)).Returns s) :
    ∃ inits, s = r.modifyPodSpec (PodSpec.withInits inits) ∧
      ∀ pod, s.podSpec? = some pod → Opened pod := by
  unfold Resource.adaptTemplate at h
  split at h
  next hnone =>
    cases Logged.returns_pure.mp h
    have hpod : r.podSpec? = none := by rw [Resource.podSpec?, hnone]; rfl
    refine ⟨none, (Resource.modifyPodSpec_eq_self fun pod hs => ?_).symm, fun pod hs => ?_⟩
    · cases hpod.symm.trans hs
    · cases hpod.symm.trans hs
  next t ht =>
    obtain ⟨u, hu, h⟩ := Logged.returns_bind.mp h
    cases Logged.returns_pure.mp h
    obtain ⟨inits, rfl, hopened⟩ := adaptTemplate_cases hu
    refine ⟨inits,
      congrArg (Resource.mk r.metadata) (Content.modifyTemplate_congr fun v hv => ?_), ?_⟩
    · cases ht.symm.trans hv
      rfl
    · rw [Resource.podSpec?_modifyTemplate, ht]
      exact hopened

lemma returns_adaptResource_self {r : Resource} (h : ∀ pod, r.podSpec? = some pod → Opened pod) :
    (r.adaptTemplate (adaptTemplate c)).Returns r := by
  unfold Resource.adaptTemplate
  split
  · exact Logged.returns_pure.mpr rfl
  next t ht =>
    refine Logged.returns_bind.mpr ⟨t, returns_adaptTemplate_self fun s hs => h s ?_, ?_⟩
    · rw [Resource.podSpec?, ht]
      exact hs
    · rw [Logged.returns_pure]
      exact congrArg (Resource.mk r.metadata) (Content.modifyTemplate_eq_self_iff.mpr fun u hu =>
        Option.some.inj (ht.symm.trans hu))

end VolumePermissions

namespace ImageTriggers

variable {c : Context} {triggers more : List DeploymentTrigger} {container : Container}

lemma covers_mono {name : String} (h : triggers <+: more) (hc : covers triggers name = true) :
    covers more name = true := by
  unfold covers at hc ⊢
  rw [List.any_eq_true] at hc ⊢
  obtain ⟨t, ht, hname⟩ := hc
  exact ⟨t, h.subset ht, hname⟩

lemma newTrigger?_eq_none_of_covers (h : covers triggers container.name = true) :
    newTrigger? c triggers container = none := by
  unfold newTrigger?
  cases container.image.filter (· ≠ "") with
  | none => rfl
  | some image => simp [h]

/-- More triggers call for no more. -/
lemma newTrigger?_eq_none_of_prefix (h : triggers <+: more)
    (hnone : newTrigger? c triggers container = none) : newTrigger? c more container = none := by
  by_cases hc : covers more container.name = true
  · exact newTrigger?_eq_none_of_covers hc
  · have hmore : covers more container.name = covers triggers container.name := by
      rw [Bool.not_eq_true] at hc
      rw [hc]
      refine (Bool.eq_false_iff.mpr fun ht => ?_).symm
      rw [covers_mono h ht] at hc
      cases hc
    unfold newTrigger? at hnone ⊢
    rwa [hmore]

lemma covers_of_newTrigger? {t : DeploymentTrigger}
    (h : newTrigger? c triggers container = some t) :
    covers (triggers ++ [t]) container.name = true := by
  unfold newTrigger? at h
  rw [Option.bind_eq_bind, Option.bind_eq_some_iff] at h
  obtain ⟨image, _, h⟩ := h
  split at h
  · cases h
  · cases h
    simp [covers, trigger]

/-- Without a call for triggers nothing changes. -/
lemma addTriggers_eq_self {containers : List Container}
    (h : ∀ container ∈ containers, newTrigger? c triggers container = none) :
    addTriggers c triggers containers = (containers, triggers) := by
  induction containers with
  | nil => rfl
  | cons container rest ih =>
    obtain ⟨hcontainer, hrest⟩ := List.forall_mem_cons.mp h
    rw [addTriggers, hcontainer]
    dsimp only
    rw [ih hrest]

@[simp] lemma name_trim (container : Container) : (trim c container).name = container.name := by
  unfold trim
  split <;> rfl

lemma length_addTriggers (triggers : List DeploymentTrigger) (containers : List Container) :
    (addTriggers c triggers containers).1.length = containers.length := by
  induction containers generalizing triggers with
  | nil => rfl
  | cons container rest ih =>
    rw [addTriggers]
    split
    · exact congrArg (· + 1) (ih triggers)
    next t _ => exact congrArg (· + 1) (ih (triggers ++ [t]))

/-- No container of the result calls for another trigger: either it called for none, or its own
trigger covers it. -/
lemma newTrigger?_addTriggers (triggers : List DeploymentTrigger) (containers : List Container) :
    ∀ container ∈ (addTriggers c triggers containers).1,
      newTrigger? c (addTriggers c triggers containers).2 container = none := by
  induction containers generalizing triggers with
  | nil => simp [addTriggers]
  | cons container rest ih =>
    rw [addTriggers]
    split
    next hnone =>
      refine List.forall_mem_cons.mpr ⟨?_, ih triggers⟩
      exact newTrigger?_eq_none_of_prefix (prefix_addTriggers triggers rest) hnone
    next t ht =>
      refine List.forall_mem_cons.mpr ⟨newTrigger?_eq_none_of_covers ?_, ih (triggers ++ [t])⟩
      rw [name_trim]
      exact covers_mono (prefix_addTriggers _ rest) (covers_of_newTrigger? ht)

/-- Triggers that containers call for no more, in the form in which they are given. -/
def Saturated (c : Context) (triggers : Option (List DeploymentTrigger))
    (containers : List Container) : Prop :=
  addTriggers c (triggers.getD []) containers = (containers, triggers.getD []) ∧
    triggers ≠ some []

/-- An empty list of triggers counts as absent. -/
def nonEmptyTriggers? (triggers : List DeploymentTrigger) : Option (List DeploymentTrigger) :=
  if triggers.isEmpty then none else some triggers

lemma getD_nonEmptyTriggers? (triggers : List DeploymentTrigger) :
    (nonEmptyTriggers? triggers).getD [] = triggers := by
  cases triggers <;> rfl

lemma adaptSpec_of_pod {s : DeploymentConfigSpec} {pod : PodSpec}
    (hpod : s.template.bind (·.spec) = some pod) :
    adaptSpec c s =
      { s with
        template := s.template.map fun t => { t with
          spec := some (pod.withContainers (addTriggers c (s.triggers.getD []) pod.containers).1) }
        triggers := nonEmptyTriggers? (addTriggers c (s.triggers.getD []) pod.containers).2 } := by
  unfold adaptSpec
  rw [hpod]
  rfl

lemma adaptSpec_eq_self {s : DeploymentConfigSpec}
    (h : ∀ pod, s.template.bind (·.spec) = some pod → Saturated c s.triggers pod.containers) :
    adaptSpec c s = s := by
  obtain hnone | ⟨pod, hpod⟩ := (s.template.bind (·.spec)).eq_none_or_eq_some
  · unfold adaptSpec
    rw [hnone]
  · obtain ⟨hadd, hne⟩ := h pod hpod
    obtain ⟨t, ht, hspec⟩ := Option.bind_eq_some_iff.mp hpod
    have htriggers : nonEmptyTriggers? (s.triggers.getD []) = s.triggers := by
      cases hs : s.triggers with
      | none => rfl
      | some l =>
        cases l with
        | nil => exact absurd hs hne
        | cons t l => rfl
    have htemplate : s.template.map (fun t => { t with spec := some pod }) = s.template := by
      rw [ht]
      obtain ⟨m, _⟩ := t
      cases hspec
      rfl
    rw [adaptSpec_of_pod hpod, hadd, htriggers]
    change { s with template := s.template.map (fun t => { t with spec := some pod }) } = s
    rw [htemplate]

lemma saturated_addTriggers (triggers : List DeploymentTrigger) (containers : List Container) :
    Saturated c (nonEmptyTriggers? (addTriggers c triggers containers).2)
      (addTriggers c triggers containers).1 := by
  refine ⟨?_, ?_⟩
  · rw [getD_nonEmptyTriggers?]
    exact addTriggers_eq_self (newTrigger?_addTriggers triggers containers)
  · cases (addTriggers c triggers containers).2 with
    | nil => simp [nonEmptyTriggers?]
    | cons t l => simp [nonEmptyTriggers?]

/-- The pods of a specification with its triggers are the old ones but for their images. -/
lemma podSpec_adaptSpec {s : DeploymentConfigSpec} {pod : PodSpec}
    (h : (adaptSpec c s).template.bind (·.spec) = some pod) :
    ∃ old, s.template.bind (·.spec) = some old ∧
      pod = old.withContainers (addTriggers c (s.triggers.getD []) old.containers).1 := by
  obtain hnone | ⟨old, hold⟩ := (s.template.bind (·.spec)).eq_none_or_eq_some
  · unfold adaptSpec at h
    rw [hnone] at h
    cases hnone.symm.trans h
  · refine ⟨old, hold, ?_⟩
    obtain ⟨t, ht, _⟩ := Option.bind_eq_some_iff.mp hold
    rw [adaptSpec_of_pod hold] at h
    change (s.template.map _).bind _ = _ at h
    rw [ht] at h
    exact (Option.some.inj h).symm

lemma saturated_adaptSpec {s : DeploymentConfigSpec} {pod : PodSpec}
    (h : (adaptSpec c s).template.bind (·.spec) = some pod) :
    Saturated c (adaptSpec c s).triggers pod.containers := by
  obtain ⟨old, hold, rfl⟩ := podSpec_adaptSpec h
  rw [adaptSpec_of_pod hold]
  exact saturated_addTriggers _ _

/-- The metadata of the template and the selector stay. -/
lemma exists_adaptSpec (s : DeploymentConfigSpec) : ∃ f triggers,
    adaptSpec c s = { s with template := s.template.map f, triggers } ∧
      ∀ t : PodTemplateSpec, (f t).metadata = t.metadata := by
  obtain hnone | ⟨pod, hpod⟩ := (s.template.bind (·.spec)).eq_none_or_eq_some
  · refine ⟨id, s.triggers, ?_, fun _ => rfl⟩
    unfold adaptSpec
    rw [hnone, Option.map_id]
    rfl
  · exact ⟨_, _, adaptSpec_of_pod hpod, fun _ => rfl⟩

variable {r : Resource}

lemma adaptResource_eq_self (h : r.kind = .deploymentConfig → ∀ pod, r.podSpec? = some pod →
    Saturated c r.content.triggers pod.containers) : adaptResource c r = r := by
  obtain ⟨m, content⟩ := r
  cases content with
  | deploymentConfig version spec =>
    cases spec with
    | none => rfl
    | some s =>
      unfold adaptResource
      dsimp only
      rw [Option.map_some, adaptSpec_eq_self (h rfl)]
  | _ => rfl

lemma saturated_adaptResource (hkind : r.kind = .deploymentConfig) {pod : PodSpec}
    (h : (adaptResource c r).podSpec? = some pod) :
    Saturated c (adaptResource c r).content.triggers pod.containers := by
  obtain ⟨m, content⟩ := r
  cases content with
  | deploymentConfig version spec =>
    cases spec with
    | none => cases h
    | some s => exact saturated_adaptSpec h
  | _ => cases hkind

lemma kind_adaptResource (r : Resource) : (adaptResource c r).kind = r.kind := by
  obtain ⟨m, content⟩ := r
  cases content <;> rfl

/-- Nothing is changed, or the containers and the triggers of some pods are. -/
lemma adaptResource_cases (r : Resource) : adaptResource c r = r ∨ ∃ pod,
    r.podSpec? = some pod ∧
    (adaptResource c r).podSpec? = some (pod.withContainers
      (addTriggers c (r.content.triggers.getD []) pod.containers).1) ∧
    (adaptResource c r).content.triggers.getD [] =
      (addTriggers c (r.content.triggers.getD []) pod.containers).2 := by
  obtain ⟨m, content⟩ := r
  cases content with
  | deploymentConfig version spec =>
    cases spec with
    | none => exact .inl rfl
    | some s =>
      unfold adaptResource
      dsimp only
      rw [Option.map_some]
      obtain hnone | ⟨pod, hpod⟩ := (s.template.bind (·.spec)).eq_none_or_eq_some
      · refine .inl ?_
        unfold adaptSpec
        rw [hnone]
      · obtain ⟨t, ht, hspec⟩ := Option.bind_eq_some_iff.mp hpod
        refine .inr ⟨pod, hpod, ?_, ?_⟩
        · rw [adaptSpec_of_pod hpod, ht]
          rfl
        · rw [adaptSpec_of_pod hpod]
          exact getD_nonEmptyTriggers? _
  | _ => exact .inl rfl

lemma podSpec?_adaptResource {pod : PodSpec} (h : (adaptResource c r).podSpec? = some pod) :
    ∃ old containers, r.podSpec? = some old ∧ pod = old.withContainers containers ∧
      containers.length = old.containers.length := by
  obtain hself | ⟨old, hold, hnew, _⟩ := adaptResource_cases (c := c) r
  · rw [hself] at h
    exact ⟨pod, pod.containers, h, rfl, rfl⟩
  · cases hnew.symm.trans h
    exact ⟨old, _, hold, rfl, length_addTriggers _ _⟩

lemma relabelled_adaptResource (r : Resource) : r.Relabelled (adaptResource c r) := by
  obtain ⟨m, content⟩ := r
  cases content with
  | deploymentConfig version spec =>
    cases spec with
    | none => exact .refl _
    | some s =>
      obtain ⟨f, triggers, hspec, hf⟩ := exists_adaptSpec (c := c) s
      unfold adaptResource
      dsimp only
      rw [Option.map_some, hspec]
      refine ⟨rfl, .refl _, rfl, fun u hu => ?_, fun more hmore => ?_⟩
      · obtain ⟨t, ht, rfl⟩ := Option.map_eq_some_iff.mp hu
        rw [hf]
        exact ⟨t, ht, .refl .refl _⟩
      · have hselector : fillEntries s.selector more = s.selector := by
          simp only [Labelling.addSelector, Option.map_some, Content.deploymentConfig.injEq,
            Option.some.injEq, true_and] at hmore
          exact congrArg DeploymentConfigSpec.selector hmore
        change Content.deploymentConfig version (some { s with
          selector := fillEntries s.selector more, template := s.template.map f, triggers }) = _
        rw [hselector]
  | _ => exact .refl _

end ImageTriggers
end Enricher
end Manifests
