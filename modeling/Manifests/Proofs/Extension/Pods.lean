import Manifests.Enricher.Standard
import Manifests.Proofs.Extension
import Manifests.Proofs.Outcome

/-! What enrichers do to pods only extends them: gaps are filled, lists grow at their ends, and a
container stays at its place. -/
namespace Manifests

lemma isSome_bind_nonBlank? {value : Option String} :
    (value.bind Text.nonBlank?).isSome = true ↔ ∃ s, value = some s ∧ Text.isBlank s = false := by
  cases value <;> simp [Text.isSome_nonBlank?]

/-- A text that is chosen only in place of a blank one. -/
lemma keepsText_ite {old new : Option String} :
    KeepsText old (if (old.bind Text.nonBlank?).isSome then old else new) := by
  intro s hs hb
  rw [if_pos (isSome_bind_nonBlank?.mpr ⟨s, hs, hb⟩), hs]

lemma KeyedList.keepsPrefix_merge? {α : Type} {merge : List α → List α → List α}
    (h : ∀ base more, base <+: merge base more) (base more : Option (List α)) :
    KeepsPrefix base (merge? merge base more) := by
  cases more with
  | none => exact .refl base
  | some more => exact h (base.getD []) more

lemma prefix_addPorts (base more : List ContainerPort) : base <+: addPorts base more := by
  unfold addPorts
  induction more generalizing base with
  | nil => exact List.prefix_rfl
  | cons p more ih =>
    rw [List.foldl_cons]
    refine List.IsPrefix.trans ?_ (ih _)
    split
    · exact List.prefix_rfl
    · exact List.prefix_append base [p]

namespace Container

lemma extends_fill (c fallback : Container) : c.Extends (c.fill fallback) where
  name hc := by simp [fill, hc]
  image := keepsText_ite
  imagePullPolicy := keepsText_ite
  readinessProbe := .orElse _ _
  livenessProbe := .orElse _ _
  securityContext := .orElse _ _
  env := KeyedList.keepsPrefix_merge? (KeyedList.addMissing_prefix _) _ _
  ports := KeyedList.keepsPrefix_merge? prefix_addPorts _ _
  volumeMounts := KeyedList.keepsPrefix_merge? (KeyedList.addMissing_prefix _) _ _
  bare := rfl

lemma extends_rename {c : Container} (hc : Text.isBlank c.name = true) (name : String) :
    c.Extends { c with name } :=
  { Extends.refl c with name := fun h => by rw [h] at hc; cases hc }

end Container

namespace PodSpec

/-- A change of the containers alone. -/
lemma Extends.of_containers {s : PodSpec} {containers : List Container}
    (h : KeepsItems Container.Extends s.containers containers) :
    s.Extends { s with containers } :=
  { Extends.refl s with containers := h }

/-- Filling by place does to each container what filling one does. -/
lemma keepsItems_fillContainers {R : Container → Container → Prop} {fallback : List Container}
    (hrefl : ∀ c, R c c) (hR : ∀ f ∈ fallback, ∀ c, R c (c.fill f)) (containers : List Container) :
    KeepsItems R containers (Manifests.fillContainers containers fallback) := by
  fun_induction Manifests.fillContainers containers fallback with
  | case1 containers => exact .refl hrefl containers
  | case2 fallback rest _ => exact .nil
  | case3 c containers fallback rest ih =>
    obtain ⟨hfallback, hrest⟩ := List.forall_mem_cons.mp hR
    exact .cons (hfallback c) (ih hrest)

lemma keepsItems_nameFirst {R : Container → Container → Prop} {name : String}
    (hrefl : ∀ c, R c c) (hR : ∀ c : Container, Text.isBlank c.name = true → R c { c with name })
    (containers : List Container) : KeepsItems R containers (nameFirst name containers) := by
  cases containers with
  | nil => exact .nil
  | cons c rest =>
    refine .cons ?_ (.refl hrefl rest)
    split
    next h => exact hR c h
    next => exact hrefl c

/-- The same for whatever default containers there are. -/
lemma keepsItems_fill {R : Container → Container → Prop} {s fallback : PodSpec} {name : String}
    (hrefl : ∀ c, R c c) (hfill : ∀ f ∈ fallback.containers, ∀ c, R c (c.fill f))
    (hname : ∀ c : Container, Text.isBlank c.name = true → R c { c with name }) :
    KeepsItems R s.containers (s.fill fallback name).containers := by
  unfold fill
  dsimp only
  split
  · exact keepsItems_nameFirst hrefl hname s.containers
  · split
    next h =>
      rw [List.isEmpty_iff.mp h]
      exact .nil
    next => exact keepsItems_fillContainers hrefl hfill s.containers

lemma extends_fill (s fallback : PodSpec) (name : String) : s.Extends (s.fill fallback name) where
  containers := keepsItems_fill .refl (fun f _ c => c.extends_fill f)
    fun _ hc => Container.extends_rename hc name
  initContainers := .refl _
  volumes := KeyedList.keepsPrefix_merge? (KeyedList.addMissing_prefix _) _ _
  serviceAccountName := .orElse _ _
  bare := rfl

end PodSpec

namespace PodTemplateSpec

/-- A change of the specification alone. -/
lemma extends_modifySpec {t : PodTemplateSpec} {f : PodSpec → PodSpec}
    (hf : ∀ s, t.spec = some s → s.Extends (f s)) :
    t.Extends { t with spec := t.spec.map f } :=
  { Extends.refl t with spec := .map hf }

lemma extends_ensureSpec (t : PodTemplateSpec) : t.Extends t.ensureSpec where
  metadata := (Extends.refl t).metadata
  spec := by
    intro s hs
    exact ⟨s, by simp [ensureSpec, hs], .refl s⟩

/-- A change of the metadata alone, which may have been absent. -/
lemma extends_metadata (t : PodTemplateSpec) {f : ObjectMeta → ObjectMeta}
    (hf : ∀ m : ObjectMeta, m.Extends (f m)) (hname : ∀ m, (f m).name = m.name) :
    t.Extends { t with metadata := some (f (t.metadata.getD default)) } where
  metadata := by
    intro m hm
    exact ⟨f m, by rw [hm]; rfl, hf m, hname m⟩
  spec := (Extends.refl t).spec

lemma extends_pushInitContainer {t : PodTemplateSpec} {s : PodSpec} (hs : t.spec = some s)
    (c : Container) : t.Extends (t.pushInitContainer c) where
  metadata := (Extends.refl t).metadata
  spec := by
    intro s' hs'
    cases hs.symm.trans hs'
    refine ⟨_, rfl, ?_⟩
    rw [hs]
    refine { PodSpec.Extends.refl s with initContainers := ?_ }
    have hold : t.initContainers = s.initContainers.getD [] := by simp [initContainers, hs]
    rw [hold]
    exact List.prefix_append _ _

end PodTemplateSpec

namespace Enricher

namespace Images

lemma prefix_addVariables {env new : List EnvVar} {entries : List (String × String)}
    (h : (addVariables env entries).Returns new) : env <+: new := by
  induction entries generalizing env with
  | nil =>
    rw [addVariables, Logged.returns_pure] at h
    exact h ▸ List.prefix_rfl
  | cons entry rest ih =>
    obtain ⟨name, value⟩ := entry
    rw [addVariables, Logged.returns_bind] at h
    obtain ⟨admitted, _, h⟩ := h
    cases admitted with
    | false => exact ih h
    | true =>
      rw [if_pos rfl] at h
      split at h
      · exact List.IsPrefix.trans (List.prefix_append env _) (ih h)
      · split at h
        · exact ih h
        · rw [Logged.returns_bind] at h
          obtain ⟨_, _, h⟩ := h
          exact ih h

lemma prefix_addNamespace (env : List EnvVar) : env <+: addNamespace env := by
  unfold addNamespace
  split
  · exact List.prefix_rfl
  · exact List.prefix_append env _

lemma extends_fillContainer {c : Context} {image : Config.Image} {container new : Container}
    (h : (fillContainer c image container).Returns new) : container.Extends new := by
  rw [fillContainer, Logged.returns_bind] at h
  obtain ⟨env, henv, h⟩ := h
  rw [Logged.returns_pure] at h
  subst h
  exact { Container.Extends.refl container with
    name := fun hc => by simp [hc]
    image := keepsText_ite
    imagePullPolicy := keepsText_ite
    env := (prefix_addVariables henv).trans (prefix_addNamespace env)
    bare := rfl }

/-- Filling by place does to each container what filling one does. -/
lemma keepsItems_fillContainers {R : Container → Container → Prop} {c : Context}
    (hrefl : ∀ container, R container container)
    (hR : ∀ {image container new}, (fillContainer c image container).Returns new → R container new)
    {images : List Config.Image} {containers new : List Container}
    (h : (fillContainers c images containers).Returns new) : KeepsItems R containers new := by
  fun_induction fillContainers c images containers generalizing new with
  | case1 containers =>
    rw [Logged.returns_pure] at h
    exact h ▸ .refl hrefl containers
  | case2 image images ih => exact .nil
  | case3 image images container containers ih =>
    simp only [Logged.returns_bind, Logged.returns_pure] at h
    obtain ⟨first, hfirst, rest, hrest, rfl⟩ := h
    exact .cons (hR hfirst) (ih hrest)

end Images

namespace HealthChecks

lemma keeps_choose {role : String} {present configured chosen : Option Probe}
    (h : (choose role present configured).Returns chosen) : Keeps present chosen := by
  rintro probe rfl
  exact (Logged.returns_pure.mp h).symm

lemma extends_addProbes {liveness readiness : Option Probe} {c d : Container}
    (h : (addProbes liveness readiness c).Returns d) : c.Extends d := by
  simp only [addProbes, Logged.returns_bind, Logged.returns_pure] at h
  obtain ⟨r, hr, l, hl, rfl⟩ := h
  exact { Container.Extends.refl c with
    readinessProbe := keeps_choose hr
    livenessProbe := keeps_choose hl
    bare := rfl }

end HealthChecks

end Enricher
end Manifests
