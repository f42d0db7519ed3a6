import Manifests.Proofs.Repetition.Controllers
import Manifests.Proofs.Repetition.Services
import Manifests.Proofs.Run

/-! What every resource keeps when enrichers add: its kind, a name, and pods, whose containers only
three of the enrichers change. -/
namespace Manifests

namespace StandardEnricher

variable {c : Enricher.Context} {e : StandardEnricher} {r s : Resource}

lemma kind_of_completes (h : e.Completes c r s) : s.kind = r.kind := by
  by_cases he : e = registrySecrets
  · subst he
    obtain ⟨rfl, _⟩ | ⟨hr, hs, _⟩ := Enricher.RegistrySecrets.complete_cases h
    · rfl
    · exact hs.trans hr.symm
  · exact (extends_of_completes he h).kind

lemma keepsName_of_completes (h : e.Completes c r s) :
    KeepsText r.metadata.name s.metadata.name := by
  by_cases he : e = registrySecrets
  · subst he
    obtain ⟨rfl, _⟩ | ⟨_, _, _, hsame⟩ := Enricher.RegistrySecrets.complete_cases h
    · exact .refl _
    · exact hsame.symm ▸ .refl _
  · exact (extends_of_completes he h).name

lemma named_of_completes (h : e.Completes c r s) (hr : r.Named) : s.Named := by
  obtain ⟨name, hname, hblank⟩ := Resource.named_iff.mp hr
  exact Resource.named_of_name (keepsName_of_completes h name hname hblank) hblank

/-- Only three enrichers change pods when they add. -/
lemma sameWorkload_of_completes (hcontroller : e ≠ defaultController) (himages : e ≠ images)
    (hprobes : e ≠ healthChecks) (h : e.Completes c r s) : r.SameWorkload s := by
  cases e with
  | naming =>
    cases h
    unfold Enricher.Naming.nameResource
    split <;> exact ⟨rfl, rfl, rfl⟩
  | defaultService =>
    by_cases hkind : r.kind = .service
    · exact Resource.sameWorkload_of_podless (hkind ▸ by decide) (kind_of_completes h)
    · obtain rfl | ⟨d, _, rfl⟩ := h
      · exact .refl _
      · rw [Enricher.DefaultService.complete_of_kind hkind]
        exact .refl r
  | registrySecrets =>
    obtain ⟨rfl, _⟩ | ⟨hr, hs, _⟩ := Enricher.RegistrySecrets.complete_cases h
    · exact .refl _
    · exact Resource.sameWorkload_of_podless (hr ▸ by decide) (hs.trans hr.symm)
  | defaultController => exact absurd rfl hcontroller
  | images => exact absurd rfl himages
  | healthChecks => exact absurd rfl hprobes
  | projectLabels | podAnnotations | volumePermissions | imageTriggers => exact h ▸ .refl r

lemma isSome_podSpec?_of_completes (h : e.Completes c r s) (hr : r.podSpec?.isSome = true) :
    s.podSpec?.isSome = true := by
  obtain ⟨pod, hpod⟩ := Option.isSome_iff_exists.mp hr
  by_cases he : e = registrySecrets
  · have hsame := sameWorkload_of_completes (by simp [he]) (by simp [he]) (by simp [he]) h
    obtain ⟨new, _, hnew, _⟩ := hsame.symm.exists_podSpec hpod
    exact Option.isSome_iff_exists.mpr ⟨new, hnew⟩
  · obtain ⟨t, ht, hspec⟩ := Option.bind_eq_some_iff.mp hpod
    obtain ⟨u, hu, htu⟩ := (extends_of_completes he h).content.template t ht
    obtain ⟨new, hnew, _⟩ := htu.spec pod hspec
    exact Option.isSome_iff_exists.mpr ⟨new, Option.bind_eq_some_iff.mpr ⟨u, hu, hnew⟩⟩

/-- A service is only changed by the enrichers of names and services. -/
lemma eq_of_completes_service (hnaming : e ≠ naming) (hservice : e ≠ defaultService)
    (hkind : r.kind = .service) (h : e.Completes c r s) : s = r := by
  have hpods : r.podSpec? = none := (Resource.podSpec?_of_podless (hkind ▸ by decide)).1
  cases e with
  | naming => exact absurd rfl hnaming
  | defaultService => exact absurd rfl hservice
  | defaultController =>
    obtain rfl | ⟨t, _, rfl⟩ := h
    · rfl
    · refine (Enricher.DefaultController.completed_of_podless ?_ hpods).complete_eq_self
      rw [hkind]
      decide
  | images =>
    obtain rfl | ⟨_, h⟩ := h
    · rfl
    · obtain ⟨_, rfl⟩ | ⟨hcontroller, _⟩ := Enricher.Images.complete_cases h
      · rfl
      · rw [hkind] at hcontroller
        cases hcontroller
  | healthChecks =>
    obtain rfl | ⟨_, _, h⟩ := h
    · rfl
    · rw [Enricher.HealthChecks.returns_complete, hkind] at h
      exact h.symm
  | registrySecrets =>
    obtain ⟨rfl, _⟩ | ⟨hsecret, _⟩ := Enricher.RegistrySecrets.complete_cases h
    · rfl
    · cases hkind.symm.trans hsecret
  | projectLabels | podAnnotations | volumePermissions | imageTriggers => exact h

end StandardEnricher
end Manifests
