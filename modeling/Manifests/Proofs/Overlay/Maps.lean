import Manifests.Overlay.Resource
import Manifests.Proofs.Content
import Manifests.Proofs.Entries

/-! What an override makes of the maps of a resource.  One law holds for every map that is overlaid,
however deep it stands: what the override sets stands, what it empties is gone, and the rest stays.
-/
namespace Manifests

namespace Overlay

variable {α β γ : Type} (isEmpty : α → Bool)

def lay (base patch : SortedMap α) : SortedMap α :=
  patch.toList.foldl (fun m e => entry isEmpty m e.1 e.2) base

/-- What the override says about a key stands, and nothing if that is empty. -/
lemma get?_lay (base patch : SortedMap α) (k : String) :
    (lay isEmpty base patch).get? k =
      ((patch.get? k).map fun v => if isEmpty v then none else some v).getD (base.get? k) := by
  refine SortedMap.get?_foldl (g := fun v => if isEmpty v then none else some v) ?_ patch base k
  rintro m ⟨k', v⟩ k
  unfold entry
  split
  · exact SortedMap.get?_erase m k' k
  · exact SortedMap.get?_insert m k' k v

lemma get?_entries (base patch : Option (SortedMap α)) (k : String) :
    ((entries isEmpty base patch).getD ∅).get? k =
      (((patch.getD ∅).get? k).map fun v => if isEmpty v then none else some v).getD
        ((base.getD ∅).get? k) := by
  cases patch with
  | none => rfl
  | some patch =>
    rw [Option.getD_some, ← get?_lay]
    change ((if base.isNone && (lay isEmpty (base.getD ∅) patch).isEmpty then none
      else some (lay isEmpty (base.getD ∅) patch) : Option (SortedMap α)).getD ∅).get? k = _
    split
    next h =>
      rw [Bool.and_eq_true] at h
      exact (SortedMap.isEmpty_iff_get?.mp h.2 k).symm
    next => rfl

lemma entries_eq_none_iff {base patch : Option (SortedMap α)} :
    entries isEmpty base patch = none ↔
      base = none ∧ ∀ k v, (patch.getD ∅).get? k = some v → isEmpty v = true := by
  cases patch with
  | none =>
    refine (and_iff_left ?_).symm
    intro k v h
    cases h
  | some patch =>
    have hentries : entries isEmpty base (some patch) = none ↔
        base = none ∧ (lay isEmpty (base.getD ∅) patch).isEmpty = true := by
      change (if base.isNone && (lay isEmpty (base.getD ∅) patch).isEmpty then none
        else some (lay isEmpty (base.getD ∅) patch) : Option (SortedMap α)) = none ↔ _
      simp
    rw [hentries, and_congr_right_iff]
    rintro rfl
    rw [SortedMap.isEmpty_iff_get?]
    refine forall_congr' fun k => ?_
    rw [get?_lay, Option.getD_none, Option.getD_some, SortedMap.get?_empty]
    cases patch.get? k <;> simp

/-- A map under an override.  A map comes of nothing only where something is set. -/
structure EntriesLaidOver (base patch merged : Option (SortedMap α)) : Prop where
  set : ∀ k v, (patch.getD ∅).get? k = some v → isEmpty v = false →
    (merged.getD ∅).get? k = some v
  removed : ∀ k v, (patch.getD ∅).get? k = some v → isEmpty v = true →
    (merged.getD ∅).get? k = none
  kept : ∀ k, (patch.getD ∅).get? k = none → (merged.getD ∅).get? k = (base.getD ∅).get? k
  absent : merged = none ↔
    base = none ∧ ∀ k v, (patch.getD ∅).get? k = some v → isEmpty v = true

lemma entriesLaidOver_entries (base patch : Option (SortedMap α)) :
    EntriesLaidOver isEmpty base patch (entries isEmpty base patch) where
  set k v hk hv := by
    rw [get?_entries, hk]
    simp [hv]
  removed k v hk hv := by
    rw [get?_entries, hk]
    simp [hv]
  kept k hk := by
    rw [get?_entries, hk]
    rfl
  absent := entries_eq_none_iff isEmpty

end Overlay

/-! ### Parts of parts -/

section Parts
variable {α β : Type} [Inhabited α] {f : α → α → α}

/-- A view of an optional part that shows nothing of the empty part. -/
lemma bind_overlayPart {op : Option β → Option β → Option β} (hop : ∀ b, op b none = b)
    {v : α → Option β} (hv : ∀ b p, v (f b p) = op (v b) (v p)) (hdefault : v default = none)
    (base patch : Option α) :
    (overlayPart f base patch).bind v = op (base.bind v) (patch.bind v) := by
  cases patch with
  | none => exact (hop _).symm
  | some p =>
    refine (hv _ p).trans ?_
    cases base with
    | none => exact congrArg (op · _) hdefault
    | some b => rfl

/-- A view of an optional part that shows the empty part as empty. -/
lemma map_overlayPart [Inhabited β] {g : β → β → β} {v : α → β}
    (hv : ∀ b p, v (f b p) = g (v b) (v p)) (hdefault : v default = default)
    (base patch : Option α) :
    (overlayPart f base patch).map v = overlayPart g (base.map v) (patch.map v) := by
  cases patch with
  | none => rfl
  | some p =>
    refine congrArg some ((hv _ p).trans ?_)
    cases base with
    | none => exact congrArg (g · _) hdefault
    | some b => rfl

end Parts

namespace PodTemplateSpec

variable (base patch : Option PodTemplateSpec)

lemma metadata_overlayPart : (overlayPart overlay base patch).bind (·.metadata) =
    overlayPart ObjectMeta.overlay (base.bind (·.metadata)) (patch.bind (·.metadata)) :=
  bind_overlayPart (fun _ => rfl) (fun _ _ => rfl) rfl base patch

lemma spec_overlayPart : (overlayPart overlay base patch).bind (·.spec) =
    overlayPart PodSpec.overlay (base.bind (·.spec)) (patch.bind (·.spec)) :=
  bind_overlayPart (fun _ => rfl) (fun _ _ => rfl) rfl base patch

end PodTemplateSpec

namespace Content

/-- The labels that a content selects by, unless they are those of a job. -/
def overlaidSelector? (c : Content) : Option (SortedMap String) :=
  if c.kind = .job then none else c.selector?

def configMap? : Content → Option ConfigMapContent
  | configMap content => some content
  | _ => none

def secret? : Content → Option SecretContent
  | secret content => some content
  | _ => none

variable {base patch : Content}

lemma template?_overlay (hkind : base.kind = patch.kind) :
    (base.overlay patch).template? =
      overlayPart PodTemplateSpec.overlay base.template? patch.template? := by
  cases base <;> cases patch <;> try cases hkind
  case replicaSet b p | replicationController b p | deploymentConfig b _ p =>
    exact bind_overlayPart (fun _ => rfl) (fun _ _ => rfl) rfl b p
  case deployment b p =>
    exact map_overlayPart (v := DeploymentSpec.template) (fun _ _ => rfl) rfl b p
  case statefulSet b p =>
    exact map_overlayPart (v := StatefulSetSpec.template) (fun _ _ => rfl) rfl b p
  case daemonSet b p =>
    exact map_overlayPart (v := DaemonSetSpec.template) (fun _ _ => rfl) rfl b p
  case job b p => exact map_overlayPart (v := JobSpec.template) (fun _ _ => rfl) rfl b p
  all_goals rfl

/-- Only the labels that a job selects by are left alone. -/
lemma selector?_overlay (hkind : base.kind = patch.kind) (hjob : base.kind ≠ .job) :
    (base.overlay patch).selector? = Overlay.texts base.selector? patch.selector? := by
  cases base <;> cases patch <;> try cases hkind
  case job => exact absurd rfl hjob
  case secret | configMap | podTemplate => rfl
  all_goals exact bind_overlayPart (fun _ => rfl) (fun _ _ => rfl) rfl _ _

lemma overlaidSelector?_overlay (hkind : base.kind = patch.kind) :
    (base.overlay patch).overlaidSelector? =
      Overlay.texts base.overlaidSelector? patch.overlaidSelector? := by
  unfold overlaidSelector?
  rw [kind_overlay, ← hkind]
  split
  next => rfl
  next hjob => exact selector?_overlay hkind hjob

end Content

namespace Resource

variable {base patch merged : Resource}

lemma overlay_eq_ok (hkind : base.kind = patch.kind) :
    base.overlay patch =
      .ok ⟨base.metadata.overlay patch.metadata, base.content.overlay patch.content⟩ := if_pos hkind

lemma overlay_eq_ok_iff : base.overlay patch = .ok merged ↔ base.kind = patch.kind ∧
    merged = ⟨base.metadata.overlay patch.metadata, base.content.overlay patch.content⟩ := by
  unfold overlay
  split
  next hkind => simp [hkind, eq_comm]
  next hkind => simp [hkind]

end Resource

/-! ### The maps of a resource -/

/-- A map that an override is laid over, by the type of its values. -/
inductive MapSite : Type → Type where
  | labels : MapSite String
  | annotations : MapSite String
  | podLabels : MapSite String
  | podAnnotations : MapSite String
  | nodeSelector : MapSite String
  | selector : MapSite String
  | configData : MapSite String
  | secretTexts : MapSite String
  | secretData : MapSite Bytes

namespace MapSite

variable {α : Type}

/-- The value that removes an entry: the empty text, or no bytes. -/
def isEmpty : MapSite α → α → Bool
  | labels | annotations | podLabels | podAnnotations | nodeSelector | selector | configData
  | secretTexts => (· == "")
  | secretData => (·.toList.isEmpty)

/-- The map of a resource, which is absent with each part around it. -/
def get? : MapSite α → Resource → Option (SortedMap α)
  | labels, r => r.metadata.labels
  | annotations, r => r.metadata.annotations
  | podLabels, r => (r.template?.bind (·.metadata)).bind (·.labels)
  | podAnnotations, r => (r.template?.bind (·.metadata)).bind (·.annotations)
  | nodeSelector, r => (r.template?.bind (·.spec)).bind (·.nodeSelector)
  | selector, r => r.content.overlaidSelector?
  | configData, r => r.content.configMap?.bind (·.data)
  | secretTexts, r => r.content.secret?.bind (·.stringData)
  | secretData, r => r.content.secret?.bind (·.data)

lemma get?_overlay {base patch merged : Resource} (h : base.overlay patch = .ok merged)
    (site : MapSite α) :
    site.get? merged = Overlay.entries site.isEmpty (site.get? base) (site.get? patch) := by
  obtain ⟨hkind, rfl⟩ := Resource.overlay_eq_ok_iff.mp h
  have htemplate := Content.template?_overlay hkind
  cases site with
  | labels | annotations => rfl
  | podLabels | podAnnotations =>
    change ((Content.template? _).bind _).bind _ = _
    rw [htemplate, PodTemplateSpec.metadata_overlayPart]
    exact bind_overlayPart (fun _ => rfl) (fun _ _ => rfl) rfl _ _
  | nodeSelector =>
    change ((Content.template? _).bind _).bind _ = _
    rw [htemplate, PodTemplateSpec.spec_overlayPart]
    exact bind_overlayPart (fun _ => rfl) (fun _ _ => rfl) rfl _ _
  | selector => exact Content.overlaidSelector?_overlay hkind
  | configData | secretTexts | secretData =>
    obtain ⟨_, base⟩ := base
    obtain ⟨_, patch⟩ := patch
    cases base <;> cases patch <;> first | rfl | cases hkind

end MapSite

namespace Resource

theorem overlay_entries {base patch : Resource} (hkind : base.kind = patch.kind) :
    ∃ merged, base.overlay patch = .ok merged ∧ ∀ {α : Type} (site : MapSite α),
      Overlay.EntriesLaidOver site.isEmpty (site.get? base) (site.get? patch)
        (site.get? merged) := by
  refine ⟨_, overlay_eq_ok hkind, fun site => ?_⟩
  rw [site.get?_overlay (overlay_eq_ok hkind)]
  exact Overlay.entriesLaidOver_entries _ _ _

/-- A deployment whose pods have the labels. -/
def withPodLabels (labels : List (String × String)) : Resource where
  metadata := default
  content := .deployment (some { (default : DeploymentSpec) with
    template := { metadata := some { (default : ObjectMeta) with
      labels := some (SortedMap.ofList labels) }, spec := none } })

theorem overlay_entries_podLabels :
    (withPodLabels [("app", "shop"), ("tier", "web")]).kind =
        (withPodLabels [("app", ""), ("team", "a")]).kind ∧
      ∃ merged, (withPodLabels [("app", "shop"), ("tier", "web")]).overlay
          (withPodLabels [("app", ""), ("team", "a")]) = .ok merged ∧
        ((MapSite.podLabels.get? merged).getD ∅).get? "app" = none ∧
        ((MapSite.podLabels.get? merged).getD ∅).get? "tier" = some "web" ∧
        ((MapSite.podLabels.get? merged).getD ∅).get? "team" = some "a" ∧
        MapSite.labels.get? merged = none := by
  obtain ⟨merged, hmerged, hmaps⟩ := @overlay_entries
    (withPodLabels [("app", "shop"), ("tier", "web")]) (withPodLabels [("app", ""), ("team", "a")])
    rfl
  have hpods := hmaps .podLabels
  refine ⟨rfl, merged, hmerged, hpods.removed "app" "" (by decide) (by decide), ?_,
    hpods.set "team" "a" (by decide) (by decide), (hmaps .labels).absent.mpr ⟨rfl, ?_⟩⟩
  · exact (hpods.kept "tier" (by decide)).trans (by decide)
  · intro k v h
    cases h

end Resource
end Manifests
