import Manifests.Enricher.Naming
import Manifests.Proofs.Blank
import Manifests.ResourceName

/-! Naming resources that have names.  What is named by a setting, by the project or by a checked
name is named for good. -/
namespace Manifests

/-- A name that was checked is the given one, and not blank. -/
lemma ResourceName.check_eq_ok {value : Option String} {what name : String}
    (h : check value what = .ok name) : value = some name ∧ Text.isBlank name = false := by
  unfold check at h
  split at h
  · cases h
  · split at h
    · cases h
    next hblank =>
      split at h
      · cases h
      · cases h
        exact ⟨rfl, Bool.eq_false_iff.mpr hblank⟩

namespace Resource

/-- A resource with a name that is not blank. -/
def Named (r : Resource) : Prop := r.name?.isSome = true

lemma named_iff {r : Resource} :
    r.Named ↔ ∃ name, r.metadata.name = some name ∧ Text.isBlank name = false := by
  unfold Named name?
  cases r.metadata.name <;> simp [Option.filter]

lemma named_of_name {r : Resource} {name : String} (h : r.metadata.name = some name)
    (hname : Text.isBlank name = false) : r.Named := named_iff.mpr ⟨name, h, hname⟩

end Resource

namespace Enricher

lemma Context.isBlank_resourceName {c : Context}
    (hc : Text.isBlank c.project.defaultResourceName = false) (enricher : String) (key : Key) :
    Text.isBlank (c.resourceName enricher key) = false := by
  unfold resourceName
  cases h : (c.text? enricher key).filter (!Text.isBlank ·) with
  | none => exact hc
  | some name => simpa using (Option.filter_eq_some_iff.mp h).2

namespace Naming

variable {name : String} {r : Resource}

lemma nameResource_eq_self (h : r.Named) : nameResource name r = r := by
  unfold nameResource
  rw [if_neg]
  rw [Option.isNone_iff_eq_none]
  intro hnone
  rw [Resource.Named, hnone] at h
  cases h

lemma named_nameResource (hname : Text.isBlank name = false) (r : Resource) :
    (nameResource name r).Named := by
  unfold nameResource
  split
  next => exact Resource.named_of_name rfl hname
  next h =>
    rw [Option.isNone_iff_eq_none] at h
    exact Option.isSome_iff_ne_none.mpr h

end Naming

end Enricher
end Manifests
