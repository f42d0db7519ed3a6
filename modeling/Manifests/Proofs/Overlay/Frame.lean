import Manifests.Proofs.Overlay.Controllers
import Manifests.Proofs.Overlay.Repetition

/-!
What an override leaves alone.  Of the metadata it reaches labels, annotations and the namespace,
and never the name.  The content stays for every resource of the kind exactly if the override says
nothing about it.
-/
namespace Manifests

/-- The metadata without the fields that an override reaches. -/
def ObjectMeta.unreached (m : ObjectMeta) : ObjectMeta :=
  { m with labels := none, annotations := none, namespaceName := none }

namespace Overlay

variable {α : Type}

/-- Entries that change no map at all are none. -/
lemma forall_entries_eq_self_iff [Inhabited α] (isEmpty : α → Bool)
    {patch : Option (SortedMap α)} :
    (∀ base, entries isEmpty base patch = base) ↔ patch.getD ∅ = ∅ := by
  simp only [entries_eq_self_iff]
  constructor
  · intro h
    apply SortedMap.ext_get?
    intro k
    rw [SortedMap.get?_empty, Option.eq_none_iff_forall_ne_some]
    intro v hv
    -- What is set shows over the absent map, and what is removed over one that has the key.
    have hsets := h none k v hv
    have hremoves := h (some ((∅ : SortedMap α).insert k default)) k v hv
    rw [Option.getD_some, SortedMap.get?_insert, if_pos rfl] at hremoves
    cases hempty : isEmpty v with
    | true => simp [hempty] at hremoves
    | false => simp [hempty] at hsets
  · intro h base k v hv
    rw [h] at hv
    cases hv

lemma forall_texts_eq_self_iff {patch : Option (SortedMap String)} :
    (∀ base, texts base patch = base) ↔ patch.getD ∅ = ∅ :=
  forall_entries_eq_self_iff _

end Overlay

lemma eq_none_of_overlayPart {α : Type} [Inhabited α] {f : α → α → α} {patch : Option α}
    (h : overlayPart f none patch = none) : patch = none := by
  cases patch with
  | none => rfl
  | some p => cases h

namespace Content

/-- An override that says nothing about a content: it has no specification and no template, and no
data and no type.  Empty data say as little as missing ones. -/
def IsSilent : Content → Prop
  | service spec => spec = none
  | replicaSet spec => spec = none
  | replicationController spec => spec = none
  | deployment spec => spec = none
  | deploymentConfig _ spec => spec = none
  | statefulSet spec => spec = none
  | daemonSet spec => spec = none
  | job spec => spec = none
  | secret content =>
    content.data.getD ∅ = ∅ ∧ content.stringData.getD ∅ = ∅ ∧ content.type = none
  | configMap content => content.data.getD ∅ = ∅
  | podTemplate template => template = none

variable {base patch : Content}

lemma IsSilent.overlay_eq_self (h : patch.IsSilent) (hkind : base.kind = patch.kind) :
    base.overlay patch = base := by
  cases base <;> cases patch <;> try cases hkind
  case secret b p =>
    obtain ⟨hdata, htexts, htype⟩ := h
    simp only [overlay, SecretContent.overlay, htype,
      (Overlay.forall_entries_eq_self_iff _).mpr hdata, Overlay.forall_texts_eq_self_iff.mpr htexts]
    rfl
  case configMap b p =>
    simp only [overlay, ConfigMapContent.overlay, Overlay.forall_texts_eq_self_iff.mpr h]
  all_goals
    cases h
    rfl

/-- What leaves an empty content as it is has no part of its own to lay over it. -/
lemma isSilent_of_forall_overlay
    (h : ∀ base : Content, base.kind = patch.kind → base.overlay patch = base) :
    patch.IsSilent := by
  cases patch with
  | service p => exact eq_none_of_overlayPart (service.inj (h (service none) rfl))
  | replicaSet p => exact eq_none_of_overlayPart (replicaSet.inj (h (replicaSet none) rfl))
  | replicationController p =>
    exact eq_none_of_overlayPart (replicationController.inj (h (replicationController none) rfl))
  | deployment p => exact eq_none_of_overlayPart (deployment.inj (h (deployment none) rfl))
  | deploymentConfig version p =>
    exact eq_none_of_overlayPart (deploymentConfig.inj (h (deploymentConfig version none) rfl)).2
  | statefulSet p => exact eq_none_of_overlayPart (statefulSet.inj (h (statefulSet none) rfl))
  | daemonSet p => exact eq_none_of_overlayPart (daemonSet.inj (h (daemonSet none) rfl))
  | job p => exact eq_none_of_overlayPart (job.inj (h (job none) rfl))
  | podTemplate p => exact eq_none_of_overlayPart (podTemplate.inj (h (podTemplate none) rfl))
  | configMap p =>
    refine Overlay.forall_texts_eq_self_iff.mp fun data => ?_
    have hdata := configMap.inj (h (configMap { (default : ConfigMapContent) with data }) rfl)
    exact congrArg ConfigMapContent.data hdata
  | secret p =>
    have hsecret : ∀ b : SecretContent, b.overlay p = b := fun b => secret.inj (h (secret b) rfl)
    refine ⟨(Overlay.forall_entries_eq_self_iff (·.toList.isEmpty)).mp fun data => ?_,
      Overlay.forall_texts_eq_self_iff.mp fun stringData => ?_, ?_⟩
    · exact congrArg SecretContent.data (hsecret { (default : SecretContent) with data })
    · exact congrArg SecretContent.stringData
        (hsecret { (default : SecretContent) with stringData })
    · have htype : (p.type <|> none) = none := congrArg SecretContent.type (hsecret default)
      simpa using htype

end Content

namespace Resource

variable {base patch : Resource}

/-- The kind and the name stay under an override, and so does all other metadata but labels,
annotations and the namespace.  An override that says nothing about the content leaves the rest of
the resource as it is, and no other one does so for every resource. -/
theorem overlay_frame (hkind : base.kind = patch.kind) :
    (∃ merged, base.overlay patch = .ok merged ∧
      merged.kind = base.kind ∧ merged.metadata.name = base.metadata.name ∧
      merged.metadata.unreached = base.metadata.unreached ∧
      (patch.content.IsSilent → merged = { base with metadata := { base.metadata with
        labels := merged.metadata.labels
        annotations := merged.metadata.annotations
        namespaceName := merged.metadata.namespaceName } })) ∧
    (patch.content.IsSilent ↔ ∀ base merged : Resource, base.overlay patch = .ok merged →
      merged.content = base.content) := by
  constructor
  · refine ⟨_, overlay_eq_ok hkind, Content.kind_overlay _ _, rfl, rfl, fun h => ?_⟩
    rw [h.overlay_eq_self hkind]
    rfl
  · constructor
    · intro h b merged hmerged
      obtain ⟨hkind', rfl⟩ := overlay_eq_ok_iff.mp hmerged
      exact h.overlay_eq_self hkind'
    · intro h
      refine Content.isSilent_of_forall_overlay fun content hcontent => ?_
      exact h ⟨default, content⟩ _ (overlay_eq_ok hcontent)

/-- Metadata only, under a name of its own. -/
def relabelling : Resource where
  metadata := { (default : ObjectMeta) with
    name := some "other", namespaceName := some "prod",
    labels := some (SortedMap.ofList [("tier", "web")]) }
  content := .deployment none

/-- The deployment gets the namespace and the label, and keeps its name and its containers. -/
theorem overlay_frame_relabelling :
    (deploymentOf (some [withoutDebug])).kind = relabelling.kind ∧
    relabelling.content.IsSilent ∧
    ∃ merged, (deploymentOf (some [withoutDebug])).overlay relabelling = .ok merged ∧
      merged.metadata.name = some "web" ∧ merged.metadata.namespaceName = some "prod" ∧
      merged.content = (deploymentOf (some [withoutDebug])).content := by
  have hkind : (deploymentOf (some [withoutDebug])).kind = relabelling.kind := rfl
  have hsilent : relabelling.content.IsSilent := rfl
  obtain ⟨⟨merged, hmerged, _, hname, _, _⟩, hcontent⟩ := overlay_frame hkind
  refine ⟨hkind, hsilent, merged, hmerged, hname, ?_, hcontent.mp hsilent _ merged hmerged⟩
  obtain ⟨_, rfl⟩ := overlay_eq_ok_iff.mp hmerged
  rfl

end Resource
end Manifests
