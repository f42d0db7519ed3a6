import Manifests.Proofs.Environment

/-! The environment of a collection while enrichers add.  No container gets two variables of one
name, and once the images are filled in, every container of a controller that stands for an image
has one entry for the namespace. -/
namespace Manifests

lemma Kind.isController_iff {kind : Kind} : kind.isController = true ↔
    kind ∈ [.replicaSet, .replicationController, .deployment, .deploymentConfig, .statefulSet,
      .daemonSet, .job] := by
  cases kind <;> decide

namespace Environment

variable {old new : List EnvVar}

/-- One entry is for the namespace: a declared one, or the reference where none was declared. -/
lemma Widens.exists_filter_eq (h : Widens old new) (hold : Distinct old)
    (hnew : namespaceName ∈ new.map (·.name)) : ∃ entry,
      new.filter (·.name == "KUBERNETES_NAMESPACE") = [entry] ∧
        (entry ∈ old ∨ (∀ v ∈ old, v.name ≠ "KUBERNETES_NAMESPACE") ∧
          RefersToNamespace entry) := by
  refine ⟨_, h.filter_eq hold hnew, ?_⟩
  cases hfind : old.find? (·.name == namespaceName) with
  | none =>
    refine .inr ⟨fun v hv hname => ?_, refersToNamespace_namespaceVariable⟩
    exact List.find?_eq_none.mp hfind v hv (beq_iff_eq.mpr hname)
  | some entry => exact .inl (List.mem_of_find?_eq_some hfind)

end Environment

/-! ### Pods -/

namespace PodSpec

variable {c : Enricher.Context} {s t : PodSpec}

/-- The variables of the container at a place; none where there is no container. -/
def varsAt (s : PodSpec) (i : Nat) : List EnvVar := (s.containers[i]?.getD default).vars

/-- The variables of all containers widen, and init containers stay. -/
structure Widens (s t : PodSpec) : Prop where
  containers : EachPlace Container.Widens s.containers t.containers
  initContainers : t.initContainers = s.initContainers

lemma Widens.refl (s : PodSpec) : s.Widens s := ⟨.refl .refl _, rfl⟩

lemma Widens.trans {u : PodSpec} (h : s.Widens t) (h' : t.Widens u) : s.Widens u :=
  ⟨EachPlace.trans (R := Container.Widens) .trans h.containers h'.containers,
    h'.initContainers.trans h.initContainers⟩

lemma widens_of_completes (h : PodSpec.Completes c s t) : s.Widens t := by
  cases h with
  | keep => exact .refl s
  | defaults template =>
    have hwidens := fun f hf => (Blueprint.widens_podTemplate template f hf).1
    refine ⟨eachPlace_fill .refl (fun c name => Container.widens_of_env rfl) ?_ hwidens s _, rfl⟩
    intro f hf
    exact Container.widens_fill (hwidens f hf)
  | images filled =>
    refine ⟨Enricher.Images.eachPlace_fillContainers .refl (fun h => ?_) filled, rfl⟩
    exact (Enricher.Images.widens_fillContainer h).1
  | probes liveness readiness =>
    refine ⟨Enricher.HealthChecks.eachPlace_probeLast _ _ .refl (fun c => ?_) s, ?_⟩
    · exact Container.widens_of_env rfl
    · unfold Enricher.HealthChecks.probeLast
      split <;> rfl

section Made
variable {t : PodTemplateSpec}

/-- A pod specification that is made has a container for each image, with an entry for the
namespace. -/
lemma namespace_podTemplate
    (h : ((Enricher.DefaultController.blueprint c).podTemplate c.images).Returns t) :
    ∀ i < c.images.length,
      Environment.namespaceName ∈ ((t.spec.getD default).varsAt i).map (·.name) := by
  intro i hi
  rw [← (Blueprint.containers_podTemplate h).1] at hi
  unfold varsAt
  rw [List.getElem?_eq_getElem hi]
  exact (Blueprint.widens_podTemplate h _ (List.getElem_mem hi)).2

lemma widens_podTemplate
    (h : ((Enricher.DefaultController.blueprint c).podTemplate c.images).Returns t) :
    Widens default (t.spec.getD default) where
  containers := .of_nil (Container.Widens.refl _) fun container hcontainer =>
    (Blueprint.widens_podTemplate h container hcontainer).1
  initContainers := Blueprint.initContainers_podTemplate h

end Made

lemma widens_of_appends (h : PodSpec.Appends c s) : Widens default s := by
  cases h with
  | controller template => exact widens_podTemplate template
  | job template =>
    have hwidens := widens_podTemplate template
    exact ⟨hwidens.containers, hwidens.initContainers⟩

lemma namespace_of_appends (h : PodSpec.Appends c s) : ∀ i < c.images.length,
    Environment.namespaceName ∈ (s.varsAt i).map (·.name) := by
  cases h with
  | controller template => exact namespace_podTemplate template
  | job template => exact namespace_podTemplate template

end PodSpec

/-! ### Runs -/

namespace Resource

/-- A controller whose containers, one for each image, have an entry for the namespace. -/
def NamesNamespace (c : Enricher.Context) (r : Resource) : Prop :=
  r.kind.isController = true → ∀ i < c.images.length,
    Environment.namespaceName ∈ (r.pod.varsAt i).map (·.name)

end Resource

namespace StandardEnricher

variable {c : Enricher.Context} {platform : Config.Platform} {e : StandardEnricher}
  {r s : Resource} {before after : Collection}

lemma namesNamespace_of_images
    (h : ((images.enricher c).addMissing platform before).Returns after) :
    ∀ r ∈ after, r.NamesNamespace c := by
  dsimp only [enricher, Enricher.Images.enricher] at h
  split at h
  next hempty =>
    intro r _ _ i hi
    simp [List.isEmpty_iff.mp hempty] at hi
  next =>
    refine Logged.forall_of_returns_mapM (P := fun _ => True) (fun {r s} hs _ => ?_) h
      fun _ _ => trivial
    intro hkind i hi
    obtain ⟨pod, hpod, hcomplete⟩ := Enricher.Images.completed_of_returns hs hkind
    obtain ⟨container, hcontainer, hfilled⟩ := hcomplete i _ (List.getElem?_eq_getElem hi)
    obtain ⟨env, henv, hnamespace, _⟩ := hfilled.env
    have hvars : s.pod.varsAt i = env := by
      rw [Resource.pod_eq hpod, PodSpec.varsAt, hcontainer, Option.getD_some, Container.vars, henv]
      rfl
    rw [hvars]
    simpa using hnamespace

lemma namesNamespace_of_addMissing (h : ((e.enricher c).addMissing platform before).Returns after)
    (hbefore : ∀ r ∈ before, r.NamesNamespace c) : ∀ r ∈ after, r.NamesNamespace c := by
  refine forall_of_addMissing h (fun {r s} hs hr => ?_) (fun r hr => ?_) hbefore
  · intro hkind i hi
    rw [kind_of_completes hs] at hkind
    have hwidens := (PodSpec.widens_of_completes (pod_of_completes hs)).containers i
    exact hwidens.names_subset (hr hkind i hi)
  · intro hkind
    obtain ⟨hservice, _⟩ | hpod := pod_of_appends hr
    · rw [hservice] at hkind
      cases hkind
    · exact PodSpec.namespace_of_appends hpod

/-- Whatever comes before and behind the images. -/
lemma namesNamespace_of_addAll {steps : List StandardEnricher} (himages : images ∈ steps)
    (h : (addAll c platform steps before).Returns after) : ∀ r ∈ after, r.NamesNamespace c := by
  refine Logged.returns_foldlM_of_mem (I := fun _ => True)
    (P := fun d => ∀ r ∈ d, r.NamesNamespace c) himages (fun _ _ _ _ _ _ => id)
    (fun hstep _ => ?_) (fun e _ b d hstep => ?_) trivial h
  · exact namesNamespace_of_images hstep
  · exact namesNamespace_of_addMissing hstep

lemma widens_of_addAll {steps : List StandardEnricher}
    (h : (addAll c platform steps before).Returns after) :
    EachPlace PodSpec.Widens (before.map Resource.pod) (after.map Resource.pod) :=
  eachPlace_of_addAll .refl .trans PodSpec.widens_of_completes PodSpec.widens_of_appends h

end StandardEnricher

namespace Collection

/-- Containers, of the given part of pods, in which no two variables share a name. -/
def DistinctVars (part : PodSpec → List Container) (c : Collection) : Prop :=
  ∀ r ∈ c, ∀ container ∈ part r.pod, Environment.Distinct container.vars

/-- The variables of the container at a place of the resource at another one; none where there is no
container. -/
def varsAt (c : Collection) (i j : Nat) : List EnvVar :=
  ((c.map Resource.pod)[i]?.getD default).varsAt j

end Collection

section Run
variable {before after : Collection}

lemma Collection.DistinctVars.varsAt (h : before.DistinctVars PodSpec.containers) (i j : Nat) :
    Environment.Distinct (before.varsAt i j) := by
  unfold Collection.varsAt PodSpec.varsAt
  rw [List.getElem?_map]
  cases hr : before[i]? with
  | none => exact List.nodup_nil
  | some r =>
    dsimp only [Option.map_some, Option.getD_some]
    cases hcontainer : r.pod.containers[j]? with
    | none => exact List.nodup_nil
    | some container =>
      exact h r (List.mem_of_getElem? hr) container (List.mem_of_getElem? hcontainer)

lemma Collection.DistinctVars.containers
    (h : EachPlace PodSpec.Widens (before.map Resource.pod) (after.map Resource.pod))
    (hbefore : before.DistinctVars PodSpec.containers) : after.DistinctVars PodSpec.containers := by
  have hall := h.forall_mem (P := fun s => ∀ c ∈ s.containers, Environment.Distinct c.vars)
    (fun hst => hst.containers.forall_mem Environment.Widens.distinct List.nodup_nil)
    (fun c hc => nomatch hc) (List.forall_mem_map.mpr hbefore)
  exact List.forall_mem_map.mp hall

lemma Collection.DistinctVars.inits
    (h : EachPlace PodSpec.Widens (before.map Resource.pod) (after.map Resource.pod))
    (hbefore : before.DistinctVars PodSpec.inits) : after.DistinctVars PodSpec.inits := by
  have hkept : ∀ {s t : PodSpec}, s.Widens t → (∀ c ∈ s.inits, Environment.Distinct c.vars) →
      ∀ c ∈ t.inits, Environment.Distinct c.vars := by
    intro s t hst hs
    unfold PodSpec.inits
    rw [hst.initContainers]
    exact hs
  have hall := h.forall_mem (P := fun s => ∀ c ∈ s.inits, Environment.Distinct c.vars) hkept
    (fun c hc => nomatch hc) (List.forall_mem_map.mpr hbefore)
  exact List.forall_mem_map.mp hall

end Run

namespace Enrichment

variable {e : Enrichment} {steps : List StandardEnricher} {platform : Config.Platform}
  {before after : Collection}

/-- **Variables keep distinct names, and one entry is for the namespace.**  Once images are filled
in, each container of a controller that stands for an image has that entry.  It is the one that the
container declared or, where it declared none, refers to the namespace of the pod. -/
theorem namespace_of_addMissing (hruns : e.Runs steps) (himages : .images ∈ steps)
    (hdistinct : before.DistinctVars PodSpec.containers)
    (h : (e.addMissing platform before).Returns after) :
    after.DistinctVars PodSpec.containers ∧
    (before.DistinctVars PodSpec.inits → after.DistinctVars PodSpec.inits) ∧
    ∀ i r, after[i]? = some r →
      r.kind ∈ [.replicaSet, .replicationController, .deployment, .deploymentConfig, .statefulSet,
        .daemonSet, .job] →
      ∀ j < e.context.images.length, ∃ container entry, r.pod.containers[j]? = some container ∧
        container.vars.filter (·.name == "KUBERNETES_NAMESPACE") = [entry] ∧
        (entry ∈ before.varsAt i j ∨
          (∀ v ∈ before.varsAt i j, v.name ≠ "KUBERNETES_NAMESPACE") ∧
            Environment.RefersToNamespace entry) := by
  rw [hruns.addMissing] at h
  have hwidens := StandardEnricher.widens_of_addAll h
  refine ⟨hdistinct.containers hwidens, .inits hwidens, fun i r hr hkind j hj => ?_⟩
  have hnamespace : Environment.namespaceName ∈ (r.pod.varsAt j).map (·.name) :=
    StandardEnricher.namesNamespace_of_addAll himages h r (List.mem_of_getElem? hr)
      (Kind.isController_iff.mpr hkind) j hj
  have hplace : Environment.Widens (before.varsAt i j) (r.pod.varsAt j) := by
    have hpod : (after.map Resource.pod)[i]?.getD default = r.pod := by simp [hr]
    have hvars := (hwidens i).containers j
    rwa [hpod] at hvars
  have hold : Environment.Distinct (before.varsAt i j) := hdistinct.varsAt i j
  cases hcontainer : r.pod.containers[j]? with
  | none =>
    -- There is an entry, so there is a container.
    rw [PodSpec.varsAt, hcontainer] at hnamespace
    cases hnamespace
  | some container =>
    rw [PodSpec.varsAt, hcontainer] at hnamespace hplace
    obtain ⟨entry, hfilter, hentry⟩ := hplace.exists_filter_eq hold hnamespace
    exact ⟨container, entry, rfl, hfilter, hentry⟩

/-- A project with two images that configures the namespace, in its policy and elsewhere, and fills
containers from the images before a controller is completed. -/
def configuring : Enrichment :=
  let configured := SortedMap.ofList [("KUBERNETES_NAMESPACE", "other"), ("MODE", "test")]
  let context : Enricher.Context := { shop.context with
    images := [
      { (default : Config.Image) with name := some "acme/shop" },
      { (default : Config.Image) with name := some "acme/log" }]
    policy := { (default : Config.Policy) with env := configured }
    selection := { (default : Config.Selection) with
      includes := some ["forge-image", "forge-controller", "forge-image"] }
    envDefaults := some (.ok configured) }
  ⟨context, StandardEnricher.all.map (·.enricher context)⟩

/-- A deployment whose only container declares the namespace itself. -/
def declaringManifests : Collection :=
  let own : Container := { (default : Container) with
    env := some [Environment.variableOf "KUBERNETES_NAMESPACE" "own"] }
  [{ metadata := { (default : ObjectMeta) with name := some "web" }
     content := .deployment (some { (default : DeploymentSpec) with
      template := { metadata := none, spec := some { (default : PodSpec) with
        containers := [own] } } }) }]

/-- What is declared stays, and the container that is added refers to the namespace. -/
theorem namespace_of_addMissing_declaring :
    configuring.Runs [.images, .defaultController, .images] ∧
      declaringManifests.DistinctVars PodSpec.containers ∧
      ∃ after r declared added,
        (configuring.addMissing .kubernetes declaringManifests).Returns after ∧
        after.DistinctVars PodSpec.containers ∧ after[0]? = some r ∧
        r.pod.containers[0]? = some declared ∧ r.pod.containers[1]? = some added ∧
        declared.vars.filter (·.name == "KUBERNETES_NAMESPACE") =
          [Environment.variableOf "KUBERNETES_NAMESPACE" "own"] ∧
        ∃ reference, added.vars.filter (·.name == "KUBERNETES_NAMESPACE") = [reference] ∧
          Environment.RefersToNamespace reference := by
  have hruns : configuring.Runs [.images, .defaultController, .images] := by rfl
  have hdistinct : declaringManifests.DistinctVars PodSpec.containers := by
    intro r hr container hcontainer
    cases List.mem_singleton.mp hr
    cases List.mem_singleton.mp hcontainer
    exact List.nodup_singleton _
  obtain ⟨after, h, hfirst⟩ : ∃ after,
      (configuring.addMissing .kubernetes declaringManifests).Returns after ∧
        after[0]?.any (·.kind == .deployment) = true :=
    Logged.exists_returns_of_any (by decide +kernel)
  obtain ⟨r, hr, hdeployment⟩ := (Option.any_eq_true _ _).mp hfirst
  have hkind : r.kind ∈ [.replicaSet, .replicationController, .deployment, .deploymentConfig,
      .statefulSet, .daemonSet, .job] := by
    rw [beq_iff_eq.mp hdeployment]
    decide
  obtain ⟨hafter, _, hspace⟩ := namespace_of_addMissing hruns (by decide) hdistinct h
  obtain ⟨declared, own, hdeclared, hown, hsame⟩ := hspace 0 r hr hkind 0 (by decide)
  obtain ⟨added, reference, hadded, hreference, hrefers⟩ := hspace 0 r hr hkind 1 (by decide)
  have hvars : declaringManifests.varsAt 0 0 =
      [Environment.variableOf "KUBERNETES_NAMESPACE" "own"] := rfl
  have hnovars : declaringManifests.varsAt 0 1 = [] := rfl
  rw [hvars] at hsame
  rw [hnovars] at hrefers
  obtain rfl : own = Environment.variableOf "KUBERNETES_NAMESPACE" "own" := by
    obtain hsame | ⟨hnone, _⟩ := hsame
    · exact List.mem_singleton.mp hsame
    · exact absurd rfl (hnone _ (List.mem_singleton_self _))
  exact ⟨hruns, hdistinct, after, r, declared, added, h, hafter, hr, hdeclared, hadded, hown,
    reference, hreference, (hrefers.resolve_left List.not_mem_nil).2⟩

end Enrichment
end Manifests
