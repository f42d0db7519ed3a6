import Manifests.Enricher.PodAnnotations
import Manifests.Enricher.ProjectLabels
import Manifests.Proofs.Extension
import Manifests.Proofs.Labels

/-! Labelling what is labelled already.  A map that has absorbed entries keeps them however it is
filled later, so the labelling and the two enrichers that write metadata recognise what they wrote,
in any order and under whatever the others add. -/
namespace Manifests

/-! ### Entries and metadata -/

section Entries
variable {base new : Option (SortedMap String)} {more : SortedMap String}

lemma fillEntries_fillEntries_self (base : Option (SortedMap String)) (more : SortedMap String) :
    fillEntries (fillEntries base more) more = fillEntries base more :=
  congrArg some (SortedMap.fill_fill_self _ _)

/-- The map is still what it was, or other entries were added to it. -/
def FilledEntries (base new : Option (SortedMap String)) : Prop :=
  new = base ∨ ∃ other, new = fillEntries base other

lemma FilledEntries.refl (base : Option (SortedMap String)) : FilledEntries base base := .inl rfl

lemma FilledEntries.fill (base : Option (SortedMap String)) (other : SortedMap String) :
    FilledEntries base (fillEntries base other) := .inr ⟨other, rfl⟩

/-- Absorbed entries stay absorbed. -/
lemma FilledEntries.fillEntries_eq (h : FilledEntries base new)
    (hbase : fillEntries base more = base) : fillEntries new more = new := by
  obtain rfl | ⟨other, rfl⟩ := h
  · exact hbase
  have hget : ∀ k, ((base.getD ∅).get? k).or (more.get? k) = (base.getD ∅).get? k := by
    intro k
    rw [← get?_fillEntries, hbase]
  refine congrArg some (SortedMap.ext_get? fun k => ?_)
  rw [SortedMap.get?_fill]
  change (((base.getD ∅).fill other).get? k).or _ = _
  rw [SortedMap.get?_fill]
  have hk := hget k
  cases hbase' : (base.getD ∅).get? k with
  | some v => rfl
  | none =>
    rw [hbase', Option.none_or] at hk
    rw [hk, Option.or_none]

end Entries

namespace ObjectMeta

/-- Labels and annotations were only filled. -/
structure Filled (m n : ObjectMeta) : Prop where
  labels : FilledEntries m.labels n.labels
  annotations : FilledEntries m.annotations n.annotations

lemma Filled.refl (m : ObjectMeta) : m.Filled m := ⟨.refl _, .refl _⟩

end ObjectMeta

/-! ### Templates and contents -/

lemma PodTemplateSpec.metadata_eq_self_iff {f : ObjectMeta → ObjectMeta} {t : PodTemplateSpec} :
    { t with metadata := some (f (t.metadata.getD default)) } = t ↔
      ∃ m, t.metadata = some m ∧ f m = m := by
  obtain ⟨m, s⟩ := t
  cases m <;> simp

namespace Content

/-- Only the template that is given is changed. -/
lemma modifyTemplate_congr {f g : PodTemplateSpec → PodTemplateSpec} {c : Content}
    (h : ∀ t, c.template? = some t → f t = g t) : c.modifyTemplate f = c.modifyTemplate g := by
  have hmap : ∀ {t : Option PodTemplateSpec},
      (∀ u, t = some u → f u = g u) → t.map f = t.map g := by
    rintro (_ | u) hu
    · rfl
    · exact congrArg some (hu u rfl)
  cases c with
  | service | secret | configMap => rfl
  | podTemplate t => exact congrArg podTemplate (hmap h)
  | deployment spec | statefulSet spec | daemonSet spec | job spec =>
    cases spec with
    | none => rfl
    | some s =>
      rw [modifyTemplate, Option.map_some, h s.template rfl]
      rfl
  | replicaSet spec | replicationController spec | deploymentConfig _ spec =>
    cases spec with
    | none => rfl
    | some s =>
      rw [modifyTemplate, Option.map_some, @hmap s.template h]
      rfl

lemma modifyTemplate_id (c : Content) : c.modifyTemplate id = c := by
  cases c <;> rename_i spec <;> simp [modifyTemplate]

/-- A change of the template is none if the template that is given stays. -/
lemma modifyTemplate_eq_self_iff {f : PodTemplateSpec → PodTemplateSpec} {c : Content} :
    c.modifyTemplate f = c ↔ ∀ t, c.template? = some t → f t = t := by
  constructor
  · intro h t ht
    have htemplate := congrArg template? h
    rw [template?_modifyTemplate, ht] at htemplate
    exact Option.some.inj htemplate
  · intro h
    rw [modifyTemplate_congr h]
    exact modifyTemplate_id c

lemma modifyTemplate_modifyTemplate (f g : PodTemplateSpec → PodTemplateSpec) (c : Content) :
    (c.modifyTemplate f).modifyTemplate g = c.modifyTemplate (g ∘ f) := by
  cases c <;> rename_i spec <;> simp [modifyTemplate, Function.comp_def]

end Content

/-! ### Resources -/

namespace Resource

/-- What the steps behind the labelling do to the metadata of a resource and of its template. -/
structure Relabelled (r s : Resource) : Prop where
  kind : s.kind = r.kind
  labels : FilledEntries r.metadata.labels s.metadata.labels
  annotations : s.metadata.annotations = r.metadata.annotations
  template : ∀ u, s.template? = some u →
    ∃ t, r.template? = some t ∧ KeepsPart ObjectMeta.Filled t.metadata u.metadata
  selector : ∀ more, Labelling.addSelector more r.content = r.content →
    Labelling.addSelector more s.content = s.content

lemma Relabelled.refl (r : Resource) : r.Relabelled r where
  kind := rfl
  labels := .refl _
  annotations := rfl
  template := fun t ht => ⟨t, ht, .refl .refl _⟩
  selector := fun _ h => h

end Resource

/-! ### Labelling -/

namespace Labelling

variable {more : SortedMap String} {base new : Option (SortedMap String)}

lemma addEntries_addEntries_self (base : Option (SortedMap String)) (more : SortedMap String) :
    addEntries (addEntries base more) more = addEntries base more := by
  unfold addEntries
  split
  · rfl
  · exact fillEntries_fillEntries_self base more

lemma addEntries_eq_of_filled (h : FilledEntries base new) (hbase : addEntries base more = base) :
    addEntries new more = new := by
  unfold addEntries at hbase ⊢
  split
  next => rfl
  next hmore =>
    rw [if_neg hmore] at hbase
    exact h.fillEntries_eq hbase

lemma fillSelector_fillSelector_self (more : SortedMap String) (s : LabelSelector) :
    fillSelector more (fillSelector more s) = fillSelector more s :=
  congrArg (LabelSelector.mk s.matchExpressions) (fillEntries_fillEntries_self s.matchLabels more)

lemma addSelector_addSelector_self (more : SortedMap String) (c : Content) :
    addSelector more (addSelector more c) = addSelector more c := by
  cases c with
  | secret | configMap | podTemplate => rfl
  | service spec =>
    exact congrArg (fun m => Content.service (some { spec.getD default with selector := m }))
      (fillEntries_fillEntries_self (spec.getD default).selector more)
  | replicationController spec | deploymentConfig _ spec =>
    cases spec with
    | none => rfl
    | some s => simp only [addSelector, Option.map_some, fillEntries_fillEntries_self]
  | replicaSet spec | deployment spec | statefulSet spec | daemonSet spec =>
    cases spec with
    | none => rfl
    | some s => simp only [addSelector, Option.map_some, fillSelector_fillSelector_self]
  | job spec =>
    cases spec with
    | none => rfl
    | some s =>
      obtain hnone | ⟨l, hl⟩ := s.selector.eq_none_or_eq_some
      · simp only [addSelector, Option.map_some, hnone, Option.map_none]
      · simp only [addSelector, Option.map_some, hl, fillSelector_fillSelector_self]

/-- The selector and the template are apart. -/
lemma addSelector_modifyTemplate (more : SortedMap String) (f : PodTemplateSpec → PodTemplateSpec)
    (c : Content) :
    addSelector more (c.modifyTemplate f) = (addSelector more c).modifyTemplate f := by
  cases c <;> rename_i spec <;> cases spec <;> rfl

lemma addSelector_modifyTemplate_eq_self {f : PodTemplateSpec → PodTemplateSpec} {c : Content}
    (more : SortedMap String) (h : addSelector more c = c) :
    addSelector more (c.modifyTemplate f) = c.modifyTemplate f := by
  rw [addSelector_modifyTemplate, h]

variable {policy : Config.Policy} {enrichers : List Enricher} {kind : Kind}

lemma labelMeta_labelMeta_self (m : ObjectMeta) :
    labelMeta policy enrichers kind (labelMeta policy enrichers kind m) =
      labelMeta policy enrichers kind m := by
  simp only [labelMeta, addEntries_addEntries_self]

lemma labelMeta_eq_self_iff {m : ObjectMeta} :
    labelMeta policy enrichers kind m = m ↔
      addEntries m.labels (labels policy enrichers kind) = m.labels ∧
        addEntries m.annotations (annotations policy enrichers kind) = m.annotations := by
  obtain ⟨⟩ := m
  simp [labelMeta, and_comm]

lemma labelMeta_eq_of_filled {m n : ObjectMeta} (h : m.Filled n)
    (hm : labelMeta policy enrichers kind m = m) : labelMeta policy enrichers kind n = n := by
  rw [labelMeta_eq_self_iff] at hm ⊢
  exact ⟨addEntries_eq_of_filled h.labels hm.1, addEntries_eq_of_filled h.annotations hm.2⟩

lemma labelResource_labelResource_self (r : Resource) :
    labelResource policy enrichers (labelResource policy enrichers r) =
      labelResource policy enrichers r := by
  have hkind := kind_labelResource policy enrichers r
  have htemplate : labelTemplate policy enrichers ∘ labelTemplate policy enrichers =
      labelTemplate policy enrichers := by
    funext t
    exact congrArg (fun m => { t with metadata := some m }) (labelMeta_labelMeta_self _)
  rw [labelResource, hkind]
  unfold labelResource
  dsimp only
  rw [labelMeta_labelMeta_self]
  split
  · rw [Content.modifyTemplate_modifyTemplate, htemplate]
  · rw [← addSelector_modifyTemplate, addSelector_addSelector_self,
      Content.modifyTemplate_modifyTemplate, htemplate]

lemma labelTemplate_eq_self_iff {t : PodTemplateSpec} :
    labelTemplate policy enrichers t = t ↔
      ∃ m, t.metadata = some m ∧ labelMeta policy enrichers .podTemplate m = m :=
  PodTemplateSpec.metadata_eq_self_iff

/-- A resource is labelled if each of its parts is. -/
lemma labelResource_eq_self_iff {r : Resource} :
    labelResource policy enrichers r = r ↔
      labelMeta policy enrichers r.kind r.metadata = r.metadata ∧
      (∀ t, r.template? = some t → labelTemplate policy enrichers t = t) ∧
      ((collect enrichers (·.selector r.kind)).isEmpty = false →
        addSelector (collect enrichers (·.selector r.kind)) r.content = r.content) := by
  obtain ⟨m, content⟩ := r
  unfold labelResource
  simp only [Resource.mk.injEq]
  refine and_congr_right fun _ => ?_
  change _ ↔ (∀ t, content.template? = some t → _) ∧ _
  rw [← Content.modifyTemplate_eq_self_iff]
  split
  next h => simp [h]
  next h =>
    rw [Bool.not_eq_true] at h
    rw [addSelector_modifyTemplate]
    constructor
    · intro hcontent
      -- The template shows no selector, so it is labelled by itself.
      have htemplate : content.modifyTemplate (labelTemplate policy enrichers) = content := by
        rw [Content.modifyTemplate_eq_self_iff]
        intro t ht
        have hview := congrArg Content.template? hcontent
        rw [Content.template?_modifyTemplate, template?_addSelector, ht] at hview
        exact Option.some.inj hview
      rw [← addSelector_modifyTemplate, htemplate] at hcontent
      exact ⟨htemplate, fun _ => hcontent⟩
    · rintro ⟨htemplate, hselector⟩
      rw [hselector h, htemplate]

lemma labelResource_eq_of_relabelled {r s : Resource} (h : r.Relabelled s)
    (hr : labelResource policy enrichers r = r) : labelResource policy enrichers s = s := by
  rw [labelResource_eq_self_iff] at hr ⊢
  obtain ⟨hmeta, htemplate, hselector⟩ := hr
  rw [h.kind]
  refine ⟨?_, fun u hu => ?_, fun hne => h.selector _ (hselector hne)⟩
  · exact labelMeta_eq_of_filled ⟨h.labels, h.annotations ▸ .refl _⟩ hmeta
  · obtain ⟨t, ht, hkeeps⟩ := h.template u hu
    obtain ⟨m, hm, hlabelled⟩ := labelTemplate_eq_self_iff.mp (htemplate t ht)
    obtain ⟨n, hn, hfilled⟩ := hkeeps m hm
    exact labelTemplate_eq_self_iff.mpr ⟨n, hn, labelMeta_eq_of_filled hfilled hlabelled⟩

end Labelling

/-! ### The enrichers that write metadata -/

namespace Enricher

namespace ProjectLabels

variable {labels : SortedMap String}

lemma labelResource_eq_self_iff {r : Resource} :
    labelResource labels r = r ↔ label labels r.metadata = r.metadata ∧
      ∀ t, r.template? = some t → ∃ m, t.metadata = some m ∧ label labels m = m := by
  obtain ⟨m, content⟩ := r
  unfold labelResource Resource.modifyTemplate
  simp only [Resource.mk.injEq, Content.modifyTemplate_eq_self_iff,
    PodTemplateSpec.metadata_eq_self_iff, Resource.template?]

lemma label_eq_self_iff {m : ObjectMeta} :
    label labels m = m ↔ fillEntries m.labels labels = m.labels := by
  obtain ⟨⟩ := m
  simp [label]

lemma label_label_self (m : ObjectMeta) : label labels (label labels m) = label labels m :=
  label_eq_self_iff.mpr (fillEntries_fillEntries_self _ _)

lemma labelResource_labelResource_self (r : Resource) :
    labelResource labels (labelResource labels r) = labelResource labels r := by
  rw [labelResource_eq_self_iff]
  refine ⟨label_label_self r.metadata, fun u hu => ?_⟩
  unfold labelResource at hu
  rw [Resource.template?_modifyTemplate, Option.map_eq_some_iff] at hu
  obtain ⟨t, _, rfl⟩ := hu
  exact ⟨_, rfl, label_label_self _⟩

lemma labelResource_eq_of_relabelled {r s : Resource} (h : r.Relabelled s)
    (hr : labelResource labels r = r) : labelResource labels s = s := by
  rw [labelResource_eq_self_iff] at hr ⊢
  obtain ⟨hmeta, htemplate⟩ := hr
  simp only [label_eq_self_iff] at hmeta htemplate ⊢
  refine ⟨h.labels.fillEntries_eq hmeta, fun u hu => ?_⟩
  obtain ⟨t, ht, hkeeps⟩ := h.template u hu
  obtain ⟨m, hm, hlabelled⟩ := htemplate t ht
  obtain ⟨n, hn, hfilled⟩ := hkeeps m hm
  exact ⟨n, hn, hfilled.labels.fillEntries_eq hlabelled⟩

lemma relabelled_labelResource (r : Resource) : r.Relabelled (labelResource labels r) where
  kind := Resource.kind_modifyTemplate _ _
  labels := .fill _ _
  annotations := rfl
  template := by
    intro u hu
    unfold labelResource at hu
    rw [Resource.template?_modifyTemplate, Option.map_eq_some_iff] at hu
    obtain ⟨t, ht, rfl⟩ := hu
    refine ⟨t, ht, fun m hm => ⟨_, rfl, ?_⟩⟩
    rw [hm]
    exact ⟨.fill _ _, .refl _⟩
  selector := Labelling.addSelector_modifyTemplate_eq_self

end ProjectLabels

namespace PodAnnotations

lemma annotate_eq_self_iff {annotations : SortedMap String} {t : PodTemplateSpec} :
    annotate annotations t = t ↔
      ∃ m, t.metadata = some m ∧ fillEntries m.annotations annotations = m.annotations := by
  refine Iff.trans (PodTemplateSpec.metadata_eq_self_iff
    (f := fun m => { m with annotations := fillEntries m.annotations annotations })) ?_
  refine exists_congr fun m => and_congr_right fun _ => ?_
  obtain ⟨⟩ := m
  simp

lemma annotateResource_eq_self_iff {r : Resource} :
    annotateResource r = r ↔ r.kind = .deployment →
      ∀ annotations, r.metadata.annotations = some annotations →
        ∀ t, r.template? = some t → annotate annotations t = t := by
  obtain ⟨m, content⟩ := r
  cases content with
  | deployment spec =>
    cases h : m.annotations with
    | none => simp [annotateResource, h]
    | some annotations =>
      simp only [annotateResource, h, Resource.modifyTemplate, Resource.mk.injEq, true_and,
        Content.modifyTemplate_eq_self_iff, Resource.template?, Option.some.injEq, forall_eq']
      exact ⟨fun hcontent _ => hcontent, fun hcontent => hcontent rfl⟩
  | _ => exact ⟨fun _ => nofun, fun _ => rfl⟩

lemma annotateResource_annotateResource_self (r : Resource) :
    annotateResource (annotateResource r) = annotateResource r := by
  rw [annotateResource_eq_self_iff]
  unfold annotateResource
  split
  next annotations _ hannotations =>
    intro _ more hmore u hu
    cases hannotations.symm.trans hmore
    rw [Resource.template?_modifyTemplate, Option.map_eq_some_iff] at hu
    obtain ⟨t, _, rfl⟩ := hu
    exact annotate_eq_self_iff.mpr ⟨_, rfl, fillEntries_fillEntries_self _ _⟩
  next hother =>
    intro hkind annotations hannotations
    obtain ⟨m, content⟩ := r
    cases content with
    | deployment spec => exact absurd hannotations (hother spec annotations rfl)
    | _ => cases hkind

lemma annotateResource_eq_of_relabelled {r s : Resource} (h : r.Relabelled s)
    (hr : annotateResource r = r) : annotateResource s = s := by
  rw [annotateResource_eq_self_iff] at hr ⊢
  rw [h.kind, h.annotations]
  intro hkind annotations hannotations u hu
  obtain ⟨t, ht, hkeeps⟩ := h.template u hu
  obtain ⟨m, hm, hannotated⟩ :=
    annotate_eq_self_iff.mp (hr hkind annotations hannotations t ht)
  obtain ⟨n, hn, hfilled⟩ := hkeeps m hm
  exact annotate_eq_self_iff.mpr ⟨n, hn, hfilled.annotations.fillEntries_eq hannotated⟩

lemma relabelled_annotateResource (r : Resource) : r.Relabelled (annotateResource r) := by
  unfold annotateResource
  split
  next annotations _ _ =>
    exact {
      kind := Resource.kind_modifyTemplate _ _
      labels := .refl _
      annotations := rfl
      template := by
        intro u hu
        rw [Resource.template?_modifyTemplate, Option.map_eq_some_iff] at hu
        obtain ⟨t, ht, rfl⟩ := hu
        refine ⟨t, ht, fun m hm => ⟨_, rfl, ?_⟩⟩
        rw [hm]
        exact ⟨.refl _, .fill _ _⟩
      selector := Labelling.addSelector_modifyTemplate_eq_self }
  next => exact .refl r

end PodAnnotations
end Enricher
end Manifests
