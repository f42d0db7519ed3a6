import Manifests.Proofs.Labels
import Manifests.Proofs.Pods.Steps

/-! No container mounts a volume that its pod does not have.  Default mounts come with their
volumes, volumes are never taken away, and what opens volumes mounts only those that it found. -/
namespace Manifests

/-- Every mount of a container names one of the volumes. -/
def Container.MountsIn (volumes : List String) (c : Container) : Prop :=
  ∀ m ∈ c.volumeMounts.getD [], m.name ∈ volumes

def Container.SameMounts (c d : Container) : Prop := d.volumeMounts = c.volumeMounts

namespace PodSpec

def volumeNames (s : PodSpec) : List String := (s.volumes.getD []).map (·.name)

/-- Containers and init containers mount only volumes that are there. -/
structure Closed (s : PodSpec) : Prop where
  containers : ∀ c ∈ s.containers, c.MountsIn s.volumeNames
  inits : ∀ c ∈ s.inits, c.MountsIn s.volumeNames

instance (volumes : List String) (c : Container) : Decidable (c.MountsIn volumes) :=
  inferInstanceAs (Decidable (∀ m ∈ c.volumeMounts.getD [], m.name ∈ volumes))

instance (s : PodSpec) : Decidable s.Closed :=
  decidable_of_iff
    ((∀ c ∈ s.containers, c.MountsIn s.volumeNames) ∧ ∀ c ∈ s.inits, c.MountsIn s.volumeNames)
    ⟨fun h => ⟨h.1, h.2⟩, fun h => ⟨h.containers, h.inits⟩⟩

end PodSpec

namespace Container

variable {volumes more : List String} {c d : Container}

lemma mountsIn_default : MountsIn volumes default := by
  intro m hm
  cases hm

lemma MountsIn.mono (h : c.MountsIn volumes) (hsub : volumes ⊆ more) : c.MountsIn more := by
  intro m hm
  exact hsub (h m hm)

lemma SameMounts.refl (c : Container) : c.SameMounts c := rfl

lemma SameMounts.mountsIn (h : c.SameMounts d) (hc : c.MountsIn volumes) :
    d.MountsIn volumes := by
  unfold MountsIn
  rw [h]
  exact hc

lemma MountsIn.fill (hc : c.MountsIn volumes) (hd : d.MountsIn volumes) :
    (c.fill d).MountsIn volumes := by
  intro m hm
  unfold Container.fill at hm
  dsimp only at hm
  cases hmounts : d.volumeMounts with
  | none =>
    rw [hmounts] at hm
    exact hc m hm
  | some mounts =>
    rw [hmounts] at hm
    obtain hm | hm := List.mem_append.mp hm
    · exact hc m hm
    · apply hd m
      rw [hmounts]
      exact List.mem_of_mem_filter hm

end Container

/-! ### Pods of a blueprint -/

namespace Blueprint

variable {volumes : List String} {container : String}

lemma names_keepMounts {mounts kept : List VolumeMount}
    (h : (keepMounts volumes container mounts).Returns kept) : ∀ m ∈ kept, m.name ∈ volumes := by
  induction mounts generalizing kept with
  | nil =>
    cases Logged.returns_pure.mp h
    simp
  | cons mount rest ih =>
    rw [keepMounts] at h
    split at h
    next hvolume =>
      simp only [Logged.returns_bind, Logged.returns_pure] at h
      obtain ⟨others, hothers, rfl⟩ := h
      refine List.forall_mem_cons.mpr ⟨?_, ih hothers⟩
      simpa using hvolume
    next =>
      obtain ⟨_, _, h⟩ := Logged.returns_bind.mp h
      exact ih h

lemma mountsIn_attach {c new : Container} (h : (attach volumes c).Returns new) :
    new.MountsIn volumes := by
  unfold attach at h
  split at h
  next hnone =>
    cases Logged.returns_pure.mp h
    intro m hm
    rw [hnone] at hm
    cases hm
  next mounts _ =>
    simp only [Logged.returns_bind, Logged.returns_pure] at h
    obtain ⟨kept, hkept, rfl⟩ := h
    intro m hm
    rw [getD_nonEmpty?] at hm
    exact names_keepMounts hkept m hm

lemma closed_podTemplate {b : Blueprint} {images : List Config.Image} {t : PodTemplateSpec}
    (h : (b.podTemplate images).Returns t) : (t.spec.getD default).Closed where
  containers c hc := by
    obtain ⟨_, _, _, hattached⟩ := (containers_podTemplate h).2 c hc
    exact mountsIn_attach hattached
  inits c hc := by
    rw [PodSpec.inits, initContainers_podTemplate h] at hc
    cases hc

end Blueprint

/-! ### What adding does to pods -/

namespace PodSpec

variable {c : Enricher.Context} {s t fallback : PodSpec}

lemma closed_default : Closed default where
  containers c hc := by cases hc
  inits c hc := by cases hc

lemma volumeNames_fill (s fallback : PodSpec) (name : String) :
    s.volumeNames ⊆ (s.fill fallback name).volumeNames ∧
      fallback.volumeNames ⊆ (s.fill fallback name).volumeNames := by
  unfold volumeNames fill
  dsimp only
  cases fallback.volumes with
  | none => exact ⟨List.Subset.refl _, List.nil_subset _⟩
  | some more =>
    dsimp only [KeyedList.merge?, Option.getD_some]
    exact ⟨List.map_subset _ (KeyedList.addMissing_prefix _ _ _).subset,
      KeyedList.keys_subset_addMissing _ _⟩

lemma Closed.fill (hs : s.Closed) (hfallback : fallback.Closed) (name : String) :
    (s.fill fallback name).Closed := by
  -- Both sides keep their volumes, so mounts of either are covered by those of the result.
  obtain ⟨hold, hnew⟩ := volumeNames_fill s fallback name
  generalize hvolumes : (s.fill fallback name).volumeNames = volumes at hold hnew
  have hdefaults : ∀ f ∈ fallback.containers, f.MountsIn volumes := by
    intro f hf
    exact (hfallback.containers f hf).mono hnew
  have hplace : EachPlace (fun c d => c.MountsIn volumes → d.MountsIn volumes)
      s.containers (s.fill fallback name).containers := by
    refine eachPlace_fill (fun _ hc => hc) (fun _ _ hc => hc) ?_ ?_ s name
    · intro f hf c hc
      exact hc.fill (hdefaults f hf)
    · intro f hf _
      exact hdefaults f hf
  constructor
  · intro d hd
    rw [hvolumes]
    refine hplace.forall_mem (fun hcd => hcd) Container.mountsIn_default (fun c hc => ?_) d hd
    exact (hs.containers c hc).mono hold
  · intro c hc
    rw [hvolumes]
    exact (hs.inits c hc).mono hold

/-- Containers may be changed as long as their mounts stay. -/
lemma Closed.withContainers {containers : List Container} (hs : s.Closed)
    (h : EachPlace Container.SameMounts s.containers containers) :
    (s.withContainers containers).Closed where
  containers := h.forall_mem Container.SameMounts.mountsIn Container.mountsIn_default hs.containers
  inits := hs.inits

lemma closed_of_completes (h : PodSpec.Completes c s t) (hs : s.Closed) : t.Closed := by
  cases h with
  | keep => exact hs
  | defaults template => exact hs.fill (Blueprint.closed_podTemplate template) _
  | images filled =>
    apply hs.withContainers
    refine Enricher.Images.eachPlace_fillContainers .refl (fun h => ?_) filled
    rw [Enricher.Images.fillContainer, Logged.returns_bind] at h
    obtain ⟨env, _, h⟩ := h
    cases Logged.returns_pure.mp h
    exact .refl _
  | probes liveness readiness =>
    obtain ⟨containers, heq, _⟩ := @Enricher.HealthChecks.probeLast_cases liveness readiness s
    have hplace : EachPlace Container.SameMounts s.containers _ :=
      Enricher.HealthChecks.eachPlace_probeLast liveness readiness .refl .refl s
    rw [heq] at hplace ⊢
    exact hs.withContainers hplace

lemma closed_of_appends (h : PodSpec.Appends c s) : s.Closed := by
  cases h with
  | controller template => exact Blueprint.closed_podTemplate template
  | job template =>
    have hclosed := Blueprint.closed_podTemplate template
    exact ⟨hclosed.containers, hclosed.inits⟩

end PodSpec

namespace StandardEnricher

variable {c : Enricher.Context} {platform : Config.Platform} {steps : List StandardEnricher}
  {before after : Collection}

lemma closed_of_addAll (h : (addAll c platform steps before).Returns after)
    (hbefore : ∀ r ∈ before, r.pod.Closed) : ∀ r ∈ after, r.pod.Closed := by
  have hplace := eachPlace_of_addAll (R := fun s t => s.Closed → t.Closed) (fun _ => id)
    (fun hst htu => htu ∘ hst) PodSpec.closed_of_completes
    (fun hs _ => PodSpec.closed_of_appends hs) h
  have hall := hplace.forall_mem (fun hst => hst) PodSpec.closed_default
    (List.forall_mem_map.mpr hbefore)
  exact List.forall_mem_map.mp hall

end StandardEnricher

/-! ### What labelling and adapting do to pods -/

namespace Resource

lemma closed_pod_iff {r : Resource} : r.pod.Closed ↔ ∀ s, r.podSpec? = some s → s.Closed := by
  unfold pod
  cases r.podSpec? with
  | none => simp [PodSpec.closed_default]
  | some s => simp

end Resource

lemma Labelling.pod_labelResource (policy : Config.Policy) (enrichers : List Enricher)
    (r : Resource) : (labelResource policy enrichers r).pod = r.pod := by
  unfold Resource.pod Resource.podSpec?
  rw [template?_labelResource]
  cases r.template? <;> rfl

namespace Enricher

namespace VolumePermissions

variable {c : Context} {s : PodSpec} {container : Container} {t u : PodTemplateSpec}

/-- Only volumes of the pod are opened. -/
lemma mountsIn_initContainer (h : initContainer c s = .ok container) :
    container.MountsIn s.volumeNames := by
  obtain ⟨mounts, hmounts, h⟩ := Except.bind_eq_ok.mp h
  cases h
  intro m hm
  obtain ⟨v, hv, hmount⟩ := Except.exists_of_mem_mapM hmounts hm
  unfold mountOf at hmount
  split at hmount
  · cases hmount
    exact List.mem_map_of_mem (List.mem_of_mem_filter hv)
  · cases hmount

lemma spec_addInitContainer (hs : t.spec = some s) (h : (t.addInitContainer container).Returns u) :
    u.spec = some s ∨ u.spec = some (s.withInits (some (s.inits ++ [container]))) := by
  unfold PodTemplateSpec.addInitContainer at h
  split at h
  · cases Logged.returns_pure.mp h
    rw [PodTemplateSpec.pushInitContainer, PodTemplateSpec.initContainers, hs]
    exact .inr rfl
  · split at h
    · obtain ⟨_, _, h⟩ := Logged.returns_bind.mp h
      cases Logged.returns_pure.mp h
      exact .inl hs
    · exact absurd h Logged.returns_throw

lemma spec_adaptTemplate (h : (adaptTemplate c t).Returns u) : u.spec = t.spec ∨
    ∃ s container, t.spec = some s ∧ initContainer c s = .ok container ∧
      u.spec = some (s.withInits (some (s.inits ++ [container]))) := by
  unfold adaptTemplate at h
  split at h
  · exact .inl (Logged.returns_pure.mp h ▸ rfl)
  next s hs =>
    split at h
    · obtain ⟨container, hcontainer, h⟩ := Logged.returns_bind.mp h
      obtain hu | hu := spec_addInitContainer hs h
      · exact .inl (hu.trans hs.symm)
      · exact .inr ⟨s, container, hs, hcontainer, hu⟩
    · exact .inl (Logged.returns_pure.mp h ▸ rfl)

/-- Pods stay as they are, or get the init container that opens their volumes. -/
lemma pod_adaptResource {r s : Resource} (h : (r.adaptTemplate (adaptTemplate c)).Returns s) :
    s.pod = r.pod ∨ ∃ container, initContainer c r.pod = .ok container ∧
      s.pod = r.pod.withInits (some (r.pod.inits ++ [container])) := by
  unfold Resource.adaptTemplate at h
  split at h
  · exact .inl (Logged.returns_pure.mp h ▸ rfl)
  next t ht =>
    obtain ⟨u, hu, h⟩ := Logged.returns_bind.mp h
    cases Logged.returns_pure.mp h
    have hold : r.podSpec? = t.spec := by
      rw [Resource.podSpec?, ht]
      rfl
    have hnew : (r.modifyTemplate fun _ => u).podSpec? = u.spec := by
      rw [Resource.podSpec?_modifyTemplate, ht]
      rfl
    obtain hspec | ⟨pod, container, hpod, hcontainer, hspec⟩ := spec_adaptTemplate hu
    · refine .inl ?_
      rw [Resource.pod, Resource.pod, hold, hnew, hspec]
    · rw [Resource.pod_eq (hold.trans hpod)]
      exact .inr ⟨container, hcontainer, Resource.pod_eq (hnew.trans hspec)⟩

lemma closed_adaptResource {r s : Resource} (hr : r.pod.Closed)
    (h : (r.adaptTemplate (adaptTemplate c)).Returns s) : s.pod.Closed := by
  obtain hpod | ⟨container, hcontainer, hpod⟩ := pod_adaptResource h <;> rw [hpod]
  · exact hr
  · refine ⟨hr.containers, fun d hd => ?_⟩
    obtain hd | hd := List.mem_append.mp hd
    · exact hr.inits d hd
    · cases List.mem_singleton.mp hd
      exact mountsIn_initContainer hcontainer

end VolumePermissions

namespace ImageTriggers

variable {c : Context} {r : Resource}

lemma closed_adaptResource (hr : r.pod.Closed) : (adaptResource c r).pod.Closed := by
  obtain hself | ⟨pod, hpod, hnew, _⟩ := adaptResource_cases (c := c) r
  · rwa [hself]
  · rw [Resource.pod_eq hpod] at hr
    rw [Resource.pod_eq hnew]
    exact hr.withContainers (.of_forall₂ rfl (forall₂_addTriggers .refl .refl _ _))

end ImageTriggers

end Enricher

namespace StandardEnricher

variable {c : Enricher.Context} {platform : Config.Platform} {e : StandardEnricher}
  {steps : List StandardEnricher} {r s : Resource} {before after : Collection}

lemma closed_of_adaptResource (h : (e.adaptResource c platform r).Returns s)
    (hr : r.pod.Closed) : s.pod.Closed := by
  by_cases hvolumes : e = volumePermissions
  · subst hvolumes
    exact Enricher.VolumePermissions.closed_adaptResource hr h
  by_cases htriggers : e = imageTriggers
  · subst htriggers
    cases Logged.returns_pure.mp h
    split
    · exact Enricher.ImageTriggers.closed_adaptResource hr
    · exact hr
  · have hpods := samePods_of_returns hvolumes htriggers h
    rwa [Resource.pod, hpods.podSpec]

end StandardEnricher

namespace Enrichment

variable {e : Enrichment} {steps : List StandardEnricher} {platform : Config.Platform}
  {before after : Collection}

/-- No mount dangles in the result if none did before. -/
theorem closed_enrich (hruns : e.Runs steps)
    (hbefore : ∀ r ∈ before, ∀ s, r.podSpec? = some s → s.Closed)
    (h : (e.enrich platform before).Returns after) :
    ∀ r ∈ after, ∀ s, r.podSpec? = some s → s.Closed := by
  simp only [← Resource.closed_pod_iff] at hbefore ⊢
  obtain ⟨added, hadded, hadapted⟩ := hruns.returns_enrich.mp h
  have hclosed := StandardEnricher.closed_of_addAll hadded hbefore
  apply Collection.forall_of_adapt (P := fun r => r.pod.Closed)
    (fun _ => StandardEnricher.closed_of_adaptResource) hadapted
  intro r hr
  obtain ⟨old, hold, rfl⟩ := List.mem_map.mp hr
  rw [Labelling.pod_labelResource]
  exact hclosed old hold

/-- A project whose policy declares a claimed volume, one without a name and one of an unknown
type. -/
def mounting : Enrichment :=
  let volumes : List Config.VolumeDeclaration := [
    { (default : Config.VolumeDeclaration) with
      name := some "data", type := some "persistentVolumeClaim", mounts := ["/data"] },
    { (default : Config.VolumeDeclaration) with
      name := some " ", type := some "emptyDir", mounts := ["/tmp"] },
    { (default : Config.VolumeDeclaration) with
      name := some "odd", type := some "floppy", mounts := ["/odd"] }]
  let context : Enricher.Context := { shop.context with
    policy := { (default : Config.Policy) with volumes } }
  ⟨context, StandardEnricher.all.map (·.enricher context)⟩

/-- A deployment whose container mounts a volume of its own. -/
def mountingManifests : Collection :=
  let cached : PodSpec := { (default : PodSpec) with
    containers := [{ (default : Container) with
      volumeMounts := some [{ (default : VolumeMount) with
        name := "cache", mountPath := "/cache" }] }]
    volumes := some [{ (default : Volume) with name := "cache" }] }
  [{ metadata := { (default : ObjectMeta) with name := some "web" }
     content := .deployment (some { (default : DeploymentSpec) with
      template := { metadata := none, spec := some cached } }) }]

/-- The claimed volume is mounted and opened by an init container. -/
theorem closed_enrich_mounting : ∃ after,
    mounting.Runs (StandardEnricher.all.erase .registrySecrets) ∧
      (∀ r ∈ mountingManifests, ∀ s, r.podSpec? = some s → s.Closed) ∧
      (mounting.enrich .openshift mountingManifests).Returns after ∧
      (∃ r ∈ after, ∃ container ∈ r.pod.inits, (container.volumeMounts.getD []) ≠ []) ∧
      ∀ r ∈ after, ∀ s, r.podSpec? = some s → s.Closed := by
  have hruns : mounting.Runs (StandardEnricher.all.erase .registrySecrets) := by rfl
  have hbefore : ∀ r ∈ mountingManifests, ∀ s, r.podSpec? = some s → s.Closed := by
    intro r hr s hs
    cases List.mem_singleton.mp hr
    cases hs
    decide
  obtain ⟨after, h, hinits⟩ : ∃ after,
      (mounting.enrich .openshift mountingManifests).Returns after ∧
        decide (∃ r ∈ after, ∃ container ∈ r.pod.inits,
          container.volumeMounts.getD [] ≠ []) = true :=
    Logged.exists_returns_of_any (by decide +kernel)
  exact ⟨after, hruns, hbefore, h, of_decide_eq_true hinits, closed_enrich hruns hbefore h⟩

end Enrichment
end Manifests
