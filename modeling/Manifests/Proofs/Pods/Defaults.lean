import Manifests.Proofs.Pods.Variables

/-! What the containers of a build have beyond those that the images alone fill.  A container that
is made from an image by the blueprint comes with ports, mounts, a security context and variables
from elsewhere; one that is only filled from the image has the variables of the policy. -/
namespace Manifests

namespace SortedMap

variable {α : Type}

lemma get?_filter (p : String → Bool) (m : SortedMap α) (k : String) :
    (m.filter fun k _ => p k).get? k = if p k then m.get? k else none := by
  obtain ⟨l, h⟩ := m
  change ((l.filter fun e => p e.1).find? (·.1 == k)).map (·.2) = _
  rw [List.find?_filter]
  split
  next hk =>
    unfold get?
    congr 2
    funext e
    by_cases he : e.1 = k
    · simp [he, hk]
    · simp [he]
  next hk =>
    rw [List.find?_eq_none.mpr, Option.map_none]
    intro e _
    by_cases he : e.1 = k
    · simp [he, hk]
    · simp [he]

/-- What fills a map can be told from it by the keys. -/
lemma filter_contains_fill (m fallback : SortedMap α) :
    ((m.fill fallback).filter fun k _ => m.contains k) = m := by
  apply ext_get?
  intro k
  rw [get?_filter, get?_fill]
  unfold contains
  cases m.get? k <;> rfl

end SortedMap

namespace Environment

variable {vars : List EnvVar}

lemma filter_admittedVars (p : String → Bool) (entries : List (String × String)) :
    (admittedVars entries).filter (fun v => p v.name) =
      admittedVars (entries.filter fun e => p e.1) := by
  unfold admittedVars
  rw [List.filter_map, List.filter_filter, List.filter_filter]
  congr 2
  funext e
  exact Bool.and_comm _ _

/-- Every configured entry that can be configured is declared by what is built. -/
lemma exists_of_mem_configured {configured : SortedMap String} {provider : Provider}
    (h : (build configured provider).Returns vars) : ∀ entry ∈ configured.toList,
      Enricher.Images.Admitted entry.1 → ∃ v ∈ vars, v.name = entry.1 := by
  obtain ⟨provided, rfl⟩ := exists_of_returns_build h
  rintro ⟨k, value⟩ hentry hadmitted
  have hfilled : (k, value) ∈ (configured.fill provided).toList := by
    rw [← SortedMap.get?_eq_some_iff] at hentry ⊢
    rw [SortedMap.get?_fill, hentry]
    rfl
  obtain ⟨v, hv, hname⟩ := List.mem_map.mp
    (mem_names_admittedVars.mpr ⟨hadmitted, List.mem_map_of_mem hfilled⟩)
  exact ⟨v, List.mem_append_left _ hv, hname⟩

end Environment

namespace Enricher

/-- Whether a variable is one that the policy configures or that for the namespace. -/
def Context.configures (c : Context) (v : EnvVar) : Bool :=
  v.name == Environment.namespaceName || c.policy.env.contains v.name

namespace Images

variable {c : Context} {image : Config.Image}

/-- Entries under names of their own are all added, as far as they can be configured. -/
lemma returns_addVariables {env : List EnvVar} {entries : List (String × String)}
    (hkeys : (env.map (·.name) ++ entries.map (·.1)).Nodup) :
    (addVariables env entries).Returns (env ++ Environment.admittedVars entries) := by
  induction entries generalizing env with
  | nil =>
    rw [Environment.admittedVars, List.filter_nil, List.map_nil, List.append_nil]
    exact Logged.returns_pure.mpr rfl
  | cons entry rest ih =>
    obtain ⟨name, value⟩ := entry
    rw [addVariables, Logged.returns_bind]
    refine ⟨_, Environment.returns_admits name value, ?_⟩
    unfold Environment.admittedVars at ih ⊢
    rw [List.filter_cons]
    split
    next =>
      have hfresh : name ∉ env.map (·.name) := fun hmem =>
        List.disjoint_of_nodup_append hkeys hmem List.mem_cons_self
      have hnone : env.find? (·.name == name) = none := by
        simpa using hfresh
      rw [hnone]
      have hrest : (addVariables (env ++ [Environment.variableOf name value]) rest).Returns _ :=
        ih (by rwa [List.map_append, List.append_assoc])
      rwa [List.append_assoc] at hrest
    next =>
      refine ih (hkeys.sublist ?_)
      exact (List.Sublist.refl _).append (List.sublist_cons_self _ _)

lemma addNamespace_admittedVars (entries : List (String × String)) :
    addNamespace (Environment.admittedVars entries) =
      Environment.admittedVars entries ++ [Environment.namespaceVariable] := by
  rw [addNamespace, if_neg]
  simp only [List.any_eq_true, beq_iff_eq, not_exists, not_and]
  exact fun v hv => Environment.name_ne_of_mem_admittedVars hv

/-- The variables that are configured among those that were built. -/
lemma filter_configures (provided : SortedMap String) :
    (Environment.admittedVars (c.policy.env.fill provided).toList ++
        [Environment.namespaceVariable]).filter c.configures =
      Environment.admittedVars c.policy.env.toList ++ [Environment.namespaceVariable] := by
  have hadmitted : ∀ v ∈ Environment.admittedVars (c.policy.env.fill provided).toList,
      c.configures v = c.policy.env.contains v.name := by
    intro v hv
    rw [Context.configures, beq_false_of_ne (Environment.name_ne_of_mem_admittedVars hv),
      Bool.false_or]
  have hkeys : (c.policy.env.fill provided).toList.filter (fun e => c.policy.env.contains e.1) =
      c.policy.env.toList :=
    congrArg SortedMap.toList (SortedMap.filter_contains_fill c.policy.env provided)
  rw [List.filter_append, List.filter_congr hadmitted, Environment.filter_admittedVars, hkeys]
  rfl

/-- Filling a container of which nothing is given, with the variables told apart in those that the
blueprint builds. -/
lemma returns_fillContainer_default {env : List EnvVar} {provider : Environment.Provider}
    (henv : (Environment.build c.policy.env provider).Returns env) :
    (fillContainer c image default).Returns { (default : Container) with
      name := image.containerName c.project
      image := image.reference?
      imagePullPolicy := some (pullPolicy c image)
      env := some (env.filter c.configures) } := by
  obtain ⟨provided, rfl⟩ := Environment.exists_of_returns_build henv
  have hadded : (addVariables [] c.policy.env.toList).Returns _ :=
    returns_addVariables c.policy.env.nodup_keys
  rw [filter_configures, ← addNamespace_admittedVars]
  refine Logged.returns_bind.mpr ⟨_, hadded, Logged.returns_pure.mpr ?_⟩
  cases image.reference? <;> rfl

/-- Filling a container that the blueprint makes from the image: at most the pull policy is
missing. -/
lemma returns_fillContainer_made {container : Container} {env : List EnvVar}
    {provider : Environment.Provider} (henv : (Environment.build c.policy.env provider).Returns env)
    (hname : container.name = image.containerName c.project)
    (himage : container.image = image.reference?) (hvars : container.env = some env) :
    (fillContainer c image container).Returns { container with
      imagePullPolicy := if (container.imagePullPolicy.bind Text.nonBlank?).isSome
        then container.imagePullPolicy else some (pullPolicy c image) } := by
  have himage' : (if (container.image.bind Text.nonBlank?).isSome then container.image
      else image.reference? <|> container.image) = container.image := by
    rw [himage]
    split
    next => rfl
    next => cases image.reference? <;> rfl
  have hnamespace : addNamespace env = env := by
    have hmem := (Environment.widens_build henv).2
    rw [addNamespace, if_pos]
    simpa using hmem
  have hname' : (if Text.isBlank container.name then image.containerName c.project
      else container.name) = container.name := by
    rw [hname]
    exact ite_self _
  rw [fillContainer, Logged.returns_bind]
  refine ⟨env, ?_, Logged.returns_pure.mpr ?_⟩
  · rw [hvars]
    exact returns_addVariables_self (Environment.exists_of_mem_configured henv)
  · rw [himage', hname', hnamespace, ← hvars]

end Images
end Enricher

/-! ### Containers with defaults and without -/

/-- The container of an image without what the defaults of the build put into it, beyond the pull
policy that the image has by itself and the variables that the policy configures. -/
def Container.withoutDefaults (c : Enricher.Context) (image : Config.Image) (k : Container) :
    Container :=
  { k with
    imagePullPolicy := some (Enricher.Images.pullPolicy c image)
    env := k.env.map (·.filter c.configures)
    ports := none
    volumeMounts := none
    securityContext := none }

def PodSpec.withoutDefaults (c : Enricher.Context) (s : PodSpec) : PodSpec :=
  { s with
    containers := List.zipWith (Container.withoutDefaults c) c.images s.containers
    serviceAccountName := none
    volumes := none }

/-- The containers that the blueprint makes from an image. -/
inductive Container.MadeFrom (c : Enricher.Context) (image : Config.Image) : Container → Prop
  | intro {policy : Option String} {env : List EnvVar} {ports : Option (List ContainerPort)}
      {mounts : Option (List VolumeMount)} {security : Option SecurityContext}
      (built : (Environment.build c.policy.env c.envDefaults).Returns env) :
      MadeFrom c image { (default : Container) with
        name := image.containerName c.project
        image := image.reference?
        imagePullPolicy := policy
        env := some env
        ports := ports
        volumeMounts := mounts
        securityContext := security }

namespace Enricher.Images

variable {c : Context} {image : Config.Image} {images : List Config.Image}
  {container : Container} {containers : List Container}

lemma exists_filled_of_madeFrom (h : container.MadeFrom c image) : ∃ filled,
    (fillContainer c image container).Returns filled ∧
      (fillContainer c image default).Returns (filled.withoutDefaults c image) := by
  obtain ⟨henv⟩ := h
  exact ⟨_, returns_fillContainer_made henv rfl rfl rfl, returns_fillContainer_default henv⟩

lemma exists_filled_of_forall₂ (h : List.Forall₂ (Container.MadeFrom c) images containers) :
    ∃ filled, filled.length = images.length ∧ (fillContainers c images containers).Returns filled ∧
      (fillContainers c images []).Returns
        (List.zipWith (Container.withoutDefaults c) images filled) := by
  induction h with
  | nil => exact ⟨[], rfl, Logged.returns_pure.mpr rfl, Logged.returns_pure.mpr rfl⟩
  | cons hmade _ ih =>
    obtain ⟨first, hfirst, hplain⟩ := exists_filled_of_madeFrom hmade
    obtain ⟨rest, hlength, hrest, hplains⟩ := ih
    refine ⟨first :: rest, congrArg (· + 1) hlength, ?_, ?_⟩
    · exact Logged.returns_bind.mpr
        ⟨first, hfirst, Logged.returns_bind.mpr ⟨rest, hrest, Logged.returns_pure.mpr rfl⟩⟩
    · exact Logged.returns_bind.mpr
        ⟨_, hplain, Logged.returns_bind.mpr ⟨_, hplains, Logged.returns_pure.mpr rfl⟩⟩

end Enricher.Images

namespace Blueprint

lemma madeFrom_attach {c : Enricher.Context} {image : Config.Image} {volumes : List String}
    {container new : Container} (h : (attach volumes container).Returns new)
    (hmade : container.MadeFrom c image) : new.MadeFrom c image := by
  obtain ⟨built⟩ := hmade
  obtain ⟨_, rfl⟩ := exists_mounts_of_attach h
  exact .intro built

lemma madeFrom_container {c : Enricher.Context} {image : Config.Image} {container : Container}
    (h : ((Enricher.DefaultController.blueprint c).container image).Returns container) :
    container.MadeFrom c image := by
  simp only [Blueprint.container, Logged.returns_bind, Logged.returns_pure] at h
  obtain ⟨ports, _, env, henv, rfl⟩ := h
  exact .intro henv

/-- The pod specification of a blueprint has containers, an account, volumes and nothing else. -/
lemma exists_spec_podTemplate {c : Enricher.Context} {t : PodTemplateSpec}
    (h : ((Enricher.DefaultController.blueprint c).podTemplate c.images).Returns t) :
    ∃ containers serviceAccountName volumes,
      List.Forall₂ (Container.MadeFrom c) c.images containers ∧
      t.spec.getD default =
        { (default : PodSpec) with containers, serviceAccountName, volumes } := by
  simp only [podTemplate, Logged.returns_bind, Logged.returns_pure] at h
  obtain ⟨volumes, _, made, hmade, attached, hattached, rfl⟩ := h
  rw [Blueprint.containers, Logged.returns_mapM] at hmade
  rw [Logged.returns_mapM] at hattached
  refine ⟨attached, _, _, forall₂_trans (fun {_ _ _} hmade hattached => ?_) hmade hattached, rfl⟩
  exact madeFrom_attach hattached (madeFrom_container hmade)

end Blueprint

/-- Filling the empty pod specification gives what fills it. -/
lemma PodSpec.fill_default {containers : List Container} {serviceAccountName : Option String}
    {volumes : Option (List Volume)} (name : String) :
    (default : PodSpec).fill
      { (default : PodSpec) with containers, serviceAccountName, volumes } name =
      { (default : PodSpec) with containers, serviceAccountName, volumes } := by
  have hcontainers : (if containers.isEmpty then nameFirst name []
      else if ([] : List Container).isEmpty then containers
      else Manifests.fillContainers [] containers) = containers := by
    cases containers <;> rfl
  have hvolumes : KeyedList.merge? (KeyedList.addMissing Volume.name) none volumes = volumes := by
    cases volumes <;> simp [KeyedList.merge?, KeyedList.addMissing]
  change ({ (default : PodSpec) with
    containers := (if containers.isEmpty then nameFirst name []
      else if ([] : List Container).isEmpty then containers
      else Manifests.fillContainers [] containers)
    serviceAccountName := serviceAccountName
    volumes := KeyedList.merge? (KeyedList.addMissing Volume.name) none volumes } : PodSpec) = _
  rw [hcontainers, hvolumes]

namespace Enricher.HealthChecks

variable {liveness readiness : Option Probe} {s : PodSpec}

lemma probeLast_concat {containers : List Container} {last : Container}
    (h : s.containers = containers ++ [last]) : probeLast liveness readiness s =
      s.withContainers (containers ++ [probed liveness readiness last]) := by
  unfold probeLast
  rw [h, List.getLast?_concat, List.dropLast_concat]

/-- It is the same container that gets probes, with defaults or without. -/
lemma probeLast_withoutDefaults {c : Context} (h : s.containers.length = c.images.length) :
    probeLast liveness readiness (s.withoutDefaults c) =
      (probeLast liveness readiness s).withoutDefaults c := by
  rcases List.eq_nil_or_concat' s.containers with hnil | ⟨containers, last, hlast⟩
  · have hnone : (s.withoutDefaults c).containers = [] := by
      rw [PodSpec.withoutDefaults, hnil, List.zipWith_nil_right]
    rw [probeLast, probeLast, hnil, hnone]
    rfl
  · rcases List.eq_nil_or_concat' c.images with himages | ⟨images, image, himages⟩
    · rw [hlast, himages] at h
      simp at h
    · rw [hlast, himages, List.length_append, List.length_append] at h
      have hlength : images.length = containers.length := (Nat.add_right_cancel h).symm
      have hwithout : ∀ k, List.zipWith (Container.withoutDefaults c) c.images (containers ++ [k]) =
          List.zipWith (Container.withoutDefaults c) images containers ++
            [k.withoutDefaults c image] := by
        intro k
        rw [himages, List.zipWith_append hlength]
        rfl
      rw [probeLast_concat hlast, probeLast_concat ((congrArg _ hlast).trans (hwithout last))]
      unfold PodSpec.withoutDefaults PodSpec.withContainers
      dsimp only
      rw [hwithout]
      rfl

end Enricher.HealthChecks

end Manifests
