import Manifests.Proofs.Labels
import Manifests.Proofs.Selection

/-! The precedence among what labels a resource: what is there, then the entries of the policy for
all kinds, then those for its kind, then the first enricher that contributes.  The relation says
what becomes of every part of a resource, so it leaves exactly one result. -/
namespace Manifests

namespace Config.KindEntries

/-- The entries for a kind alone. -/
def special (e : KindEntries) : Kind → SortedMap String
  | .service => e.service
  | .deployment | .deploymentConfig => e.deployment
  | .replicationController | .replicaSet => e.replicaSet
  | .podTemplate => e.pod
  | _ => ∅

lemma get?_forKind (e : KindEntries) (kind : Kind) (k : String) :
    (e.forKind kind).get? k = (e.all.get? k).or ((e.special kind).get? k) := by
  cases kind <;> exact SortedMap.get?_union _ _ k

end Config.KindEntries

/-! ### Maps -/

/-- A map that keeps its entries and gets those that are added under other keys.  It comes into
being with the first of them. -/
structure Gains (added : String → Option String) (old new : Option (SortedMap String)) : Prop where
  entry : ∀ k, (new.getD ∅).get? k = ((old.getD ∅).get? k).or (added k)
  absent : new = none ↔ old = none ∧ ∀ k, added k = none

namespace Gains

variable {added : String → Option String} {old new new' : Option (SortedMap String)}

lemma unique (h : Gains added old new) (h' : Gains added old new') : new = new' := by
  have habsent : new = none ↔ new' = none := h.absent.trans h'.absent.symm
  have hentries : new.getD ∅ = new'.getD ∅ :=
    SortedMap.ext_get? fun k => (h.entry k).trans (h'.entry k).symm
  cases new <;> cases new' <;> simp_all

lemma refl (h : ∀ k, added k = none) (old : Option (SortedMap String)) : Gains added old old where
  entry k := by rw [h, Option.or_none]
  absent := (and_iff_left h).symm

lemma fillEntries {more : SortedMap String} (hmore : ∀ k, more.get? k = added k)
    (hempty : more.isEmpty = false) (old : Option (SortedMap String)) :
    Gains added old (fillEntries old more) where
  entry k := by rw [get?_fillEntries, hmore]
  absent := by
    refine iff_of_false (by simp [Manifests.fillEntries]) fun h => ?_
    have hnone : more.isEmpty = true :=
      SortedMap.isEmpty_iff_get?.mpr fun k => (hmore k).trans (h.2 k)
    rw [hempty] at hnone
    cases hnone

lemma addEntries {more : SortedMap String} (hmore : ∀ k, more.get? k = added k)
    (old : Option (SortedMap String)) : Gains added old (Labelling.addEntries old more) := by
  unfold Labelling.addEntries
  split
  next hempty =>
    exact refl (fun k => (hmore k).symm.trans (SortedMap.isEmpty_iff_get?.mp hempty k)) old
  next hempty => exact fillEntries hmore (Bool.eq_false_iff.mpr hempty) old

end Gains

/-! ### Contents -/

namespace Content
open Labelling (addSelector fillSelector)

/-- Whether there is a selector that entries are added to. -/
def selects : Content → Bool
  | service _ => true
  | replicaSet spec => spec.isSome
  | replicationController spec => spec.isSome
  | deployment spec => spec.isSome
  | deploymentConfig _ spec => spec.isSome
  | statefulSet spec => spec.isSome
  | daemonSet spec => spec.isSome
  | job spec => (spec.bind (·.selector)).isSome
  | secret _ | configMap _ | podTemplate _ => false

/-- A service gets an empty specification in place of an absent one. -/
def withServiceSpec : Content → Content
  | service spec => service (some (spec.getD default))
  | other => other

/-- The content with these labels to select by and this template, where it has any. -/
def withViews (labels : Option (SortedMap String)) (template : Option PodTemplateSpec) :
    Content → Content
  | service spec => service (spec.map fun s => { s with selector := labels })
  | replicaSet spec => replicaSet (spec.map fun s =>
      { s with selector.matchLabels := labels, template })
  | replicationController spec =>
    replicationController (spec.map fun s => { s with selector := labels, template })
  | deployment spec => deployment (spec.map fun s =>
      { s with selector.matchLabels := labels, template := template.getD s.template })
  | deploymentConfig version spec =>
    deploymentConfig version (spec.map fun s => { s with selector := labels, template })
  | statefulSet spec => statefulSet (spec.map fun s =>
      { s with selector.matchLabels := labels, template := template.getD s.template })
  | daemonSet spec => daemonSet (spec.map fun s =>
      { s with selector.matchLabels := labels, template := template.getD s.template })
  | job spec => job (spec.map fun s =>
      { s with
        selector := s.selector.map fun l => { l with matchLabels := labels }
        template := template.getD s.template })
  | podTemplate _ => podTemplate template
  | other => other

variable (f : PodTemplateSpec → PodTemplateSpec) (more : SortedMap String) (c : Content)

lemma selects_modifyTemplate : (c.modifyTemplate f).selects = c.selects := by
  cases c <;> rename_i spec <;> cases spec <;> rfl

lemma modifyTemplate_eq_withViews :
    c.modifyTemplate f =
      c.withViews (c.modifyTemplate f).selector? (c.modifyTemplate f).template? := by
  cases c with
  | secret | configMap | podTemplate => rfl
  | job spec =>
    cases spec with
    | none => rfl
    | some s =>
      have hselector : (s.selector.map fun l =>
          { l with matchLabels := s.selector.bind (·.matchLabels) }) = s.selector := by
        cases s.selector <;> rfl
      exact congrArg (fun selector => job (some { s with selector, template := f s.template }))
        hselector.symm
  | service spec | replicaSet spec | replicationController spec | deployment spec
  | deploymentConfig _ spec | statefulSet spec | daemonSet spec => cases spec <;> rfl

lemma addSelector_modifyTemplate_eq_withViews :
    addSelector more (c.modifyTemplate f) =
      c.withServiceSpec.withViews (addSelector more (c.modifyTemplate f)).selector?
        (addSelector more (c.modifyTemplate f)).template? := by
  cases c with
  | secret | configMap | podTemplate => rfl
  | job spec =>
    cases spec with
    | none => rfl
    | some s =>
      have hselector : (s.selector.map fun l => { l with
          matchLabels := (s.selector.map (fillSelector more)).bind (·.matchLabels) }) =
            s.selector.map (fillSelector more) := by
        cases s.selector <;> rfl
      exact congrArg (fun selector => job (some { s with selector, template := f s.template }))
        hselector.symm
  | service spec | replicaSet spec | replicationController spec | deployment spec
  | deploymentConfig _ spec | statefulSet spec | daemonSet spec => cases spec <;> rfl

variable {more} in
lemma gains_addSelector {added : String → Option String} (hmore : ∀ k, more.get? k = added k)
    (hempty : more.isEmpty = false) :
    Gains (fun k => if c.selects then added k else none) c.selector?
      (addSelector more c).selector? := by
  have hfilled := Gains.fillEntries hmore hempty
  cases c with
  | secret | configMap | podTemplate => exact .refl (fun _ => rfl) _
  | service spec => cases spec <;> exact hfilled _
  | job spec =>
    cases spec with
    | none => exact .refl (fun _ => rfl) _
    | some s =>
      change Gains (fun k => if s.selector.isSome then added k else none)
        (s.selector.bind (·.matchLabels))
        ((s.selector.map (fillSelector more)).bind (·.matchLabels))
      cases s.selector with
      | none => exact .refl (fun _ => rfl) _
      | some l => exact hfilled _
  | replicaSet spec | replicationController spec | deployment spec | deploymentConfig _ spec
  | statefulSet spec | daemonSet spec =>
    cases spec with
    | none => exact .refl (fun _ => rfl) _
    | some s => exact hfilled _

end Content

/-! ### Labelled resources -/

namespace Labelling

/-- What the first enricher that knows a key contributes under it. -/
def firstOf (active : List Enricher) (contribution : Enricher → SortedMap String) (k : String) :
    Option String :=
  active.findSome? fun e => (contribution e).get? k

/-- What is added under a key: the entry for all kinds, else the one for the kind, else that of the
first enricher that has one. -/
def addition (entries : Config.KindEntries) (kind : Kind) (active : List Enricher)
    (contribution : Enricher → SortedMap String) (k : String) : Option String :=
  (entries.all.get? k).or (((entries.special kind).get? k).or (firstOf active contribution k))

end Labelling

section Labelled
open Labelling
variable (policy : Config.Policy) (active : List Enricher)

structure ObjectMeta.Labelled (kind : Kind) (m n : ObjectMeta) : Prop where
  labels : Gains (addition policy.labels kind active (·.labels kind)) m.labels n.labels
  annotations : Gains (addition policy.annotations kind active (·.annotations kind))
    m.annotations n.annotations
  rest : n = { m with labels := n.labels, annotations := n.annotations }

/-- A template whose metadata, empty if absent, are labelled for a template. -/
structure PodTemplateSpec.Labelled (t u : PodTemplateSpec) : Prop where
  metadata : ∃ n, u.metadata = some n ∧
    (t.metadata.getD default).Labelled policy active .podTemplate n
  spec : u.spec = t.spec

structure Resource.Labelled (r s : Resource) : Prop where
  metadata : r.metadata.Labelled policy active r.kind s.metadata
  template : Option.Rel (PodTemplateSpec.Labelled policy active) r.template? s.template?
  selector : Gains
    (fun k => if r.content.selects then firstOf active (·.selector r.kind) k else none)
    r.content.selector? s.content.selector?
  /-- Only a service is completed, where there is anything to select by. -/
  rest : s.content = (if ∀ e ∈ active, e.selector r.kind = ∅ then r.content
    else r.content.withServiceSpec).withViews s.content.selector? s.content.template?

variable {policy active}

lemma ObjectMeta.Labelled.unique {kind : Kind} {m n n' : ObjectMeta}
    (h : m.Labelled policy active kind n) (h' : m.Labelled policy active kind n') : n = n' := by
  rw [h.rest, h'.rest, h.labels.unique h'.labels, h.annotations.unique h'.annotations]

lemma PodTemplateSpec.Labelled.unique {t u u' : PodTemplateSpec}
    (h : t.Labelled policy active u) (h' : t.Labelled policy active u') : u = u' := by
  obtain ⟨⟨n, hn, hlabelled⟩, hspec⟩ := h
  obtain ⟨⟨n', hn', hlabelled'⟩, hspec'⟩ := h'
  obtain ⟨metadata, spec⟩ := u
  obtain ⟨metadata', spec'⟩ := u'
  obtain rfl := hlabelled.unique hlabelled'
  cases hn
  cases hn'
  cases hspec
  cases hspec'
  rfl

lemma Resource.Labelled.unique {r s s' : Resource} (h : r.Labelled policy active s)
    (h' : r.Labelled policy active s') : s = s' := by
  have hmetadata : s.metadata = s'.metadata := h.metadata.unique h'.metadata
  have hselector : s.content.selector? = s'.content.selector? := h.selector.unique h'.selector
  have htemplate : s.content.template? = s'.content.template? := by
    have ht := h.template
    have ht' := h'.template
    unfold Resource.template? at ht ht'
    generalize s.content.template? = t at ht ⊢
    generalize s'.content.template? = t' at ht' ⊢
    generalize r.content.template? = t₀ at ht ht'
    cases ht with
    | none => cases ht' with | none => rfl
    | some ht => cases ht' with | some ht' => exact congrArg some (ht.unique ht')
  have hcontent : s.content = s'.content := by rw [h.rest, h'.rest, hselector, htemplate]
  obtain ⟨m, c⟩ := s
  obtain ⟨m', c'⟩ := s'
  cases hmetadata
  cases hcontent
  rfl

lemma get?_addition (entries : Config.KindEntries) (kind : Kind)
    (contribution : Enricher → SortedMap String) (k : String) :
    ((entries.forKind kind).fill (collect active contribution)).get? k =
      addition entries kind active contribution k := by
  rw [SortedMap.get?_fill, Config.KindEntries.get?_forKind, get?_collect, Option.or_assoc]
  rfl

lemma ObjectMeta.labelled_labelMeta (kind : Kind) (m : ObjectMeta) :
    m.Labelled policy active kind (labelMeta policy active kind m) where
  labels := .addEntries (get?_addition policy.labels kind (·.labels kind)) m.labels
  annotations := .addEntries (get?_addition policy.annotations kind (·.annotations kind))
    m.annotations
  rest := rfl

lemma PodTemplateSpec.labelled_labelTemplate (t : PodTemplateSpec) :
    t.Labelled policy active (labelTemplate policy active t) where
  metadata := ⟨_, rfl, ObjectMeta.labelled_labelMeta .podTemplate _⟩
  spec := rfl

lemma isEmpty_collect_iff {contribution : Enricher → SortedMap String} :
    (collect active contribution).isEmpty = true ↔ ∀ e ∈ active, contribution e = ∅ := by
  rw [SortedMap.isEmpty_iff_get?]
  refine ⟨fun h e he => SortedMap.ext_get? fun k => ?_, fun h k => ?_⟩
  · have hk := h k
    rw [get?_collect, List.findSome?_eq_none_iff] at hk
    exact hk e he
  · rw [collect_eq_empty h]
    rfl

lemma content_labelResource_of_forall {r : Resource} (h : ∀ e ∈ active, e.selector r.kind = ∅) :
    (labelResource policy active r).content =
      r.content.modifyTemplate (labelTemplate policy active) :=
  if_pos (isEmpty_collect_iff.mpr h)

lemma content_labelResource_of_not_forall {r : Resource}
    (h : ¬∀ e ∈ active, e.selector r.kind = ∅) :
    (labelResource policy active r).content = addSelector (collect active (·.selector r.kind))
      (r.content.modifyTemplate (labelTemplate policy active)) :=
  if_neg (isEmpty_collect_iff.not.mpr h)

lemma Resource.labelled_labelResource (r : Resource) :
    r.Labelled policy active (labelResource policy active r) where
  metadata := ObjectMeta.labelled_labelMeta r.kind r.metadata
  template := by
    rw [template?_labelResource]
    cases r.template? with
    | none => exact .none
    | some t => exact .some (PodTemplateSpec.labelled_labelTemplate t)
  selector := by
    by_cases h : ∀ e ∈ active, e.selector r.kind = ∅
    · have hnone : ∀ k, firstOf active (·.selector r.kind) k = none := fun k =>
        List.findSome?_eq_none_iff.mpr fun e he => congrArg (·.get? k) (h e he)
      rw [content_labelResource_of_forall h, Content.selector?_modifyTemplate]
      refine .refl (fun k => ?_) _
      rw [hnone, ite_self]
    · have hmore : ∀ k, (collect active (·.selector r.kind)).get? k =
          firstOf active (·.selector r.kind) k := get?_collect
      have hgains := Content.gains_addSelector
        (r.content.modifyTemplate (labelTemplate policy active)) hmore
        (Bool.eq_false_iff.mpr (isEmpty_collect_iff.not.mpr h))
      rw [Content.selects_modifyTemplate, Content.selector?_modifyTemplate] at hgains
      rwa [content_labelResource_of_not_forall h]
  rest := by
    split
    next h =>
      rw [content_labelResource_of_forall h]
      exact Content.modifyTemplate_eq_withViews _ _
    next h =>
      rw [content_labelResource_of_not_forall h]
      exact Content.addSelector_modifyTemplate_eq_withViews _ _ _

lemma Resource.labelled_iff {r s : Resource} :
    r.Labelled policy active s ↔ labelResource policy active r = s := by
  constructor
  · exact (labelled_labelResource r).unique
  · rintro rfl
    exact labelled_labelResource r

end Labelled

theorem Labelling.labelAll_eq_ok_iff (policy : Config.Policy) (selection : Config.Selection)
    (enrichers : List Enricher) (before after : Collection) :
    labelAll policy selection enrichers before = .ok after ↔
      ∃ active, selection.Chooses Enricher.name enrichers active ∧
        List.Forall₂ (Resource.Labelled policy active) before after := by
  unfold labelAll
  rw [Except.bind_eq_ok]
  refine exists_congr fun active => and_congr Config.Selection.prepare_eq_ok_iff ?_
  have hlabelled : Resource.Labelled policy active =
      fun r s => labelResource policy active r = s := by
    funext r s
    exact propext Resource.labelled_iff
  rw [hlabelled, ← List.forall₂_map_left_iff (R := Eq), List.forall₂_eq_eq_eq]
  exact ⟨Except.ok.inj, congrArg Except.ok⟩

end Manifests
