import Manifests.Proofs.Repetition.Adapting

/-! Labelling and adapting, the phases that finish a collection.  What is finished stays as it is
when it is finished again.  Only a claimed volume that no container mounts can stop it. -/
namespace Manifests

namespace Enricher.VolumePermissions

variable {c : Context} {t : PodTemplateSpec} {s : PodSpec} {r : Resource} {error : Error}

lemma noMount_of_initContainer (h : initContainer c s = .error error) :
    ∃ volume, error = .resource (.noMount volume) := by
  obtain h | ⟨_, _, h⟩ := Except.bind_eq_error.mp h
  · obtain ⟨v, _, hv⟩ := Except.exists_of_mapM_eq_error h
    unfold mountOf at hv
    split at hv
    · cases hv
    · cases hv
      exact ⟨v.name, rfl⟩
  · cases h

/-- The container is made only where none has its name, so it never meets another one. -/
lemma noMount_of_adaptTemplate (h : (adaptTemplate c t).Fails error) :
    ∃ volume, error = .resource (.noMount volume) := by
  unfold adaptTemplate at h
  split at h
  · exact absurd h Logged.fails_pure
  next s _ =>
    split at h
    next hneeded =>
      obtain h | ⟨container, hcontainer, h⟩ := Logged.fails_bind.mp h
      · exact noMount_of_initContainer (Logged.fails_ofExcept.mp h)
      · have habsent : t.initContainer? container.name = none := by
          rw [name_initContainer hcontainer]
          simpa [PodTemplateSpec.hasInitContainer] using (Bool.and_eq_true_iff.mp hneeded).2
        rw [PodTemplateSpec.addInitContainer, habsent] at h
        exact absurd h Logged.fails_pure
    next => exact absurd h Logged.fails_pure

lemma noMount_of_adaptResource (h : (r.adaptTemplate (adaptTemplate c)).Fails error) :
    ∃ volume, error = .resource (.noMount volume) := by
  unfold Resource.adaptTemplate at h
  split at h
  · exact absurd h Logged.fails_pure
  · obtain h | ⟨_, _, h⟩ := Logged.fails_bind.mp h
    · exact noMount_of_adaptTemplate h
    · exact absurd h Logged.fails_pure

end Enricher.VolumePermissions

namespace StandardEnricher

variable {c : Enricher.Context} {platform : Config.Platform} {e : StandardEnricher}
  {steps : List StandardEnricher} {before : Collection} {error : Error}

lemma noMount_of_adapt (h : ((e.enricher c).adapt platform before).Fails error) :
    ∃ volume, error = .resource (.noMount volume) := by
  cases e with
  | volumePermissions =>
    obtain ⟨r, _, hr⟩ := Logged.exists_of_fails_mapM h
    exact Enricher.VolumePermissions.noMount_of_adaptResource hr
  | imageTriggers =>
    dsimp only [enricher, Enricher.ImageTriggers.enricher] at h
    split at h <;> exact absurd h Logged.fails_pure
  | projectLabels | podAnnotations | naming | defaultController | defaultService | images
  | healthChecks | registrySecrets => exact absurd h Logged.fails_pure

lemma noMount_of_adaptAll (h : (adaptAll c platform steps before).Fails error) :
    ∃ volume, error = .resource (.noMount volume) := by
  obtain ⟨e, _, d, he⟩ := Logged.exists_of_fails_foldlM h
  exact noMount_of_adapt he

end StandardEnricher

namespace Enrichment

variable {e : Enrichment} {steps : List StandardEnricher} {platform : Config.Platform}
  {before after : Collection}

/-- Finished collections are finished again without a change, and init containers never conflict. -/
theorem finish_twice (hruns : e.Runs steps) :
    (∀ before after, (e.finish platform before).Returns after →
      (e.finish platform after).Returns after) ∧
    ∀ before template container,
      ¬(e.adapt platform before).Fails (.resource (.initContainerConflict template container)) := by
  constructor
  · intro before after h
    rw [hruns.returns_finish] at h
    obtain ⟨hlabelled, hadapted⟩ := Collection.adapt_self_of_label h
    rw [hruns.returns_finish, hlabelled]
    exact hadapted
  · intro before template container h
    rw [hruns.adapt] at h
    obtain ⟨volume, hvolume⟩ := StandardEnricher.noMount_of_adaptAll h
    cases hvolume

/-- A project for which some enrichers run, one of them twice, that take the images of containers
away for their triggers. -/
def trimming : Enrichment :=
  let context : Enricher.Context := { shop.context with
    selection := { (default : Config.Selection).withSetting Enricher.ImageTriggers.name
        Enricher.ImageTriggers.trimImageKey.name "true" with
      includes := some ["forge-image-change-trigger", "forge-volume-permission",
        "forge-project", "forge-image-change-trigger"] } }
  ⟨context, StandardEnricher.all.map (·.enricher context)⟩

/-- A deployment configuration with a claimed volume, and one that has a container of its own by the
name of the one that opens volumes. -/
def claimingManifests : Collection :=
  let pod : PodSpec := { (default : PodSpec) with
    containers := [{ (default : Container) with
      name := "web"
      image := some "acme/shop"
      volumeMounts := some [{ (default : VolumeMount) with
        name := "data", mountPath := "/data" }] }]
    volumes := some [{ (default : Volume) with
      name := "data", persistentVolumeClaim := some default }] }
  let config (pod : PodSpec) : Resource := {
    metadata := { (default : ObjectMeta) with name := some "web" }
    content := .deploymentConfig default (some { (default : DeploymentConfigSpec) with
      template := some { metadata := none, spec := some pod } }) }
  let own : Container := { (default : Container) with name := Enricher.VolumePermissions.name }
  [config pod, config { pod with initContainers := some [own] }]

theorem finish_twice_claiming :
    trimming.Runs [.imageTriggers, .volumePermissions, .projectLabels, .imageTriggers] ∧
      (∃ after, (trimming.finish .openshift claimingManifests).Returns after ∧
        after ≠ claimingManifests ∧ (trimming.finish .openshift after).Returns after) ∧
      ∀ template container, ¬(trimming.adapt .openshift claimingManifests).Fails
        (.resource (.initContainerConflict template container)) := by
  have hruns : trimming.Runs [.imageTriggers, .volumePermissions, .projectLabels, .imageTriggers] :=
    by rfl
  obtain ⟨after, h, hchanged⟩ : ∃ after,
      (trimming.finish .openshift claimingManifests).Returns after ∧
        decide (after ≠ claimingManifests) = true :=
    Logged.exists_returns_of_any (by decide +kernel)
  obtain ⟨hrepeats, hfails⟩ := finish_twice hruns
  exact ⟨hruns, ⟨after, h, of_decide_eq_true hchanged, hrepeats claimingManifests after h⟩,
    hfails claimingManifests⟩

end Enrichment
end Manifests
