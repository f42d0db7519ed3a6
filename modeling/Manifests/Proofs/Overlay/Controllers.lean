import Manifests.Proofs.Overlay.Maps

/-!
Overrides across kinds.  A controller is what it selects and the template of its pods, whatever its
kind.  An override does the same to the template of every kind, and to the labels that are selected
by except those of a job, which stay.
-/
namespace Manifests

lemma SortedMap.eq_iff_getD {α : Type} {m n : Option (SortedMap α)} :
    m = n ↔ (m = none ↔ n = none) ∧ ∀ k, (m.getD ∅).get? k = (n.getD ∅).get? k := by
  constructor
  · rintro rfl
    exact ⟨Iff.rfl, fun _ => rfl⟩
  · rintro ⟨hnone, hget⟩
    cases m with
    | none => exact (hnone.mp rfl).symm
    | some m =>
      cases n with
      | none => exact hnone.mpr rfl
      | some n => exact congrArg some (SortedMap.ext_get? hget)

namespace Overlay

variable {α : Type} (isEmpty : α → Bool)

/-- An override has no effect where all that it sets stands already and all that it removes is
missing. -/
lemma entries_eq_self_iff {base patch : Option (SortedMap α)} :
    entries isEmpty base patch = base ↔ ∀ k v, (patch.getD ∅).get? k = some v →
      (base.getD ∅).get? k = if isEmpty v then none else some v := by
  rw [SortedMap.eq_iff_getD]
  constructor
  · rintro ⟨-, hget⟩ k v hk
    have hk' := hget k
    rw [get?_entries, hk] at hk'
    exact hk'.symm
  · intro h
    refine ⟨(entries_eq_none_iff isEmpty).trans (and_iff_left_of_imp ?_), fun k => ?_⟩
    · rintro rfl k v hk
      have hbase := h k v hk
      by_contra hv
      rw [if_neg hv] at hbase
      cases hbase
    · rw [get?_entries]
      cases hk : (patch.getD ∅).get? k with
      | none => rfl
      | some v => exact (h k v hk).symm

end Overlay

lemma Content.selector?_overlay_of_job {base patch : Content} (hkind : base.kind = patch.kind)
    (hjob : base.kind = .job) : (base.overlay patch).selector? = base.selector? := by
  cases base with
  | job spec =>
    cases patch with
    | job change => cases spec <;> cases change <;> rfl
    | _ => cases hkind
  | _ => cases hjob

namespace Resource

/-- Two resources, of whatever kinds, that run pods from the same template and select by the same
labels. -/
structure SameControl (r s : Resource) : Prop where
  template : r.template? = s.template?
  selector : r.content.selector? = s.content.selector?

variable {base patch base' patch' : Resource}

/-- Whether the override asks for nothing that the labels selected by do not show already. -/
def KeepsSelector (base patch : Resource) : Prop :=
  ∀ k v, (patch.content.selector?.getD ∅).get? k = some v →
    (base.content.selector?.getD ∅).get? k = if v = "" then none else some v

lemma texts_selector?_eq_self_iff :
    Overlay.texts base.content.selector? patch.content.selector? = base.content.selector? ↔
      base.KeepsSelector patch := by
  unfold KeepsSelector Overlay.texts
  simp only [Overlay.entries_eq_self_iff, beq_iff_eq]

/-- An override makes the same template of resources that agree, and the same selector unless just
one of them is a job and the override asks for a change. -/
theorem sameControl_overlay_iff (hkind : base.kind = patch.kind) (hkind' : base'.kind = patch'.kind)
    (hbase : base.SameControl base') (hpatch : patch.SameControl patch') :
    ∃ merged merged', base.overlay patch = .ok merged ∧ base'.overlay patch' = .ok merged' ∧
      merged.template? = merged'.template? ∧
      (merged.content.selector? = merged'.content.selector? ↔
        (base.kind = .job ↔ base'.kind = .job) ∨ base.KeepsSelector patch) := by
  refine ⟨_, _, overlay_eq_ok hkind, overlay_eq_ok hkind', ?_, ?_⟩
  · change (base.content.overlay patch.content).template? =
      (base'.content.overlay patch'.content).template?
    rw [Content.template?_overlay hkind, Content.template?_overlay hkind']
    exact congrArg₂ _ hbase.template hpatch.template
  · have htexts := congrArg₂ Overlay.texts hbase.selector hpatch.selector
    change (base.content.overlay patch.content).selector? =
      (base'.content.overlay patch'.content).selector? ↔ _
    by_cases hjob : base.kind = .job
    · rw [Content.selector?_overlay_of_job hkind hjob]
      by_cases hjob' : base'.kind = .job
      · rw [Content.selector?_overlay_of_job hkind' hjob']
        exact iff_of_true hbase.selector (.inl (iff_of_true hjob hjob'))
      · rw [Content.selector?_overlay hkind' hjob', ← htexts, eq_comm, texts_selector?_eq_self_iff]
        simp [hjob, hjob']
    · rw [Content.selector?_overlay hkind hjob]
      by_cases hjob' : base'.kind = .job
      · rw [Content.selector?_overlay_of_job hkind' hjob', ← hbase.selector,
          texts_selector?_eq_self_iff]
        simp [hjob, hjob']
      · rw [Content.selector?_overlay hkind' hjob']
        exact iff_of_true htexts (.inl (iff_of_false hjob hjob'))

def labelsSelected (app : String) : LabelSelector where
  matchLabels := some (SortedMap.ofList [("app", app)])
  matchExpressions := none

def deploymentSelecting (app : String) : Resource where
  metadata := default
  content := .deployment (some { (default : DeploymentSpec) with selector := labelsSelected app })

def jobSelecting (app : String) : Resource where
  metadata := default
  content := .job (some { (default : JobSpec) with selector := some (labelsSelected app) })

lemma sameControl_selecting (app : String) :
    (deploymentSelecting app).SameControl (jobSelecting app) := ⟨rfl, rfl⟩

theorem sameControl_overlay_job :
    (deploymentSelecting "shop").kind = (deploymentSelecting "other").kind ∧
      (jobSelecting "shop").kind = (jobSelecting "other").kind ∧
      (deploymentSelecting "shop").SameControl (jobSelecting "shop") ∧
      (deploymentSelecting "other").SameControl (jobSelecting "other") ∧
      ∃ merged merged', (deploymentSelecting "shop").overlay (deploymentSelecting "other") =
          .ok merged ∧
        (jobSelecting "shop").overlay (jobSelecting "other") = .ok merged' ∧
        merged.template? = merged'.template? ∧
        merged.content.selector? ≠ merged'.content.selector? := by
  have hkind : (deploymentSelecting "shop").kind = (deploymentSelecting "other").kind := rfl
  have hkind' : (jobSelecting "shop").kind = (jobSelecting "other").kind := rfl
  obtain ⟨merged, merged', hmerged, hmerged', htemplate, hselector⟩ :=
    sameControl_overlay_iff hkind hkind' (sameControl_selecting "shop")
      (sameControl_selecting "other")
  refine ⟨hkind, hkind', sameControl_selecting "shop", sameControl_selecting "other", merged,
    merged', hmerged, hmerged', htemplate, fun h => ?_⟩
  rcases hselector.mp h with hjob | hkeeps
  · exact absurd (hjob.mpr rfl) (by decide)
  · exact absurd (hkeeps "app" "other" (by decide)) (by decide)

end Resource
end Manifests
