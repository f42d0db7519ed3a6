import Mathlib.Data.List.Basic
import Manifests.Proofs.Identity
import Manifests.Proofs.Overlay.Maps

/-! The overrides of a collection.  Each one finds the resource that it is for among those that were
there from the start, and what it does there hides it from no other override.  So the order in
which overrides come is the order in which the unmatched ones are appended, and nothing else. -/
namespace Manifests

namespace Resource

variable {base patch : Resource}

/-- The resource under an override of its kind. -/
def overlaid (patch base : Resource) : Resource where
  metadata := base.metadata.overlay patch.metadata
  content := base.content.overlay patch.content

lemma identity_overlaid : (patch.overlaid base).identity = base.identity := by
  have hkind : (patch.overlaid base).kind = base.kind := Content.kind_overlay _ _
  have hname : (patch.overlaid base).name? = base.name? := rfl
  unfold identity
  rw [hkind, hname]

end Resource

namespace Collection

variable (d : String) {b added : Collection} {p q : Resource} {l l' : List Resource}

/-- The kind and the name of the resource that an override is for. -/
def target (patch : Resource) : Kind × String := (patch.kind, targetName d patch)

/-- The index of the resource that an override is for. -/
def targetIndex? (b : Collection) (patch : Resource) : Option Nat :=
  b.position? patch.kind (targetName d patch)

/-- An override laid over the resource that it is for, if that is there. -/
def overlayFound (b : Collection) (patch : Resource) : Collection :=
  match targetIndex? d b patch with
  | none => b
  | some index => b.modify index patch.overlaid

/-- The overrides that are for none of the resources. -/
def unmatched (b : Collection) (overrides : List Resource) : List Resource :=
  overrides.filter fun patch => (targetIndex? d b patch).isNone

lemma overlayFound_eq_self (h : targetIndex? d b p = none) : overlayFound d b p = b := by
  unfold overlayFound
  rw [h]

lemma overlayFound_eq_modify {i : Nat} (h : targetIndex? d b p = some i) :
    overlayFound d b p = b.modify i p.overlaid := by
  unfold overlayFound
  rw [h]

lemma mem_unmatched : p ∈ unmatched d b l ↔ p ∈ l ∧ targetIndex? d b p = none := by
  simp [unmatched]

lemma unmatched_cons :
    unmatched d b (p :: l) = unmatched d b [p] ++ unmatched d b l := by
  unfold unmatched
  rw [← List.filter_append]
  rfl

/-! ### Which resource an override is for -/

lemma target_eq_of_identity (h : p.identity = (q.kind, some (targetName d q))) :
    target d p = target d q := by
  obtain ⟨hkind, hname⟩ := Prod.mk.inj h
  unfold target
  rw [hkind, targetName, hname, Option.getD_some]

lemma target_eq_of_targetIndex? {i : Nat} (hp : targetIndex? d b p = some i)
    (hq : targetIndex? d b q = some i) : target d p = target d q := by
  obtain ⟨r, hr, hrp⟩ := identity_of_position? hp
  obtain ⟨s, hs, hsq⟩ := identity_of_position? hq
  obtain rfl : r = s := Option.some.inj (hr.symm.trans hs)
  obtain ⟨hkind, hname⟩ := Prod.mk.inj (hrp.symm.trans hsq)
  exact Prod.ext hkind (Option.some.inj hname)

lemma map_identity_overlayFound :
    (overlayFound d b p).map Resource.identity = b.map Resource.identity := by
  cases h : targetIndex? d b p with
  | none => rw [overlayFound_eq_self d h]
  | some i =>
    rw [overlayFound_eq_modify d h]
    refine List.ext_getElem? fun j => ?_
    have hkept : ∀ r, (if i = j then p.overlaid r else r).identity = r.identity := by
      intro r
      split
      · exact Resource.identity_overlaid
      · rfl
    rw [List.getElem?_map, List.getElem?_modify, List.getElem?_map, Option.map_eq_map,
      Option.map_map]
    exact Option.map_congr fun r _ => hkept r

/-- What an override does to a resource hides it from no other one. -/
@[simp] lemma targetIndex?_overlayFound :
    targetIndex? d (overlayFound d b p) q = targetIndex? d b q :=
  position?_congr (map_identity_overlayFound d) _ _

/-- Overrides for different resources touch different places. -/
lemma overlayFound_comm (h : target d p ≠ target d q) :
    overlayFound d (overlayFound d b p) q = overlayFound d (overlayFound d b q) p := by
  cases hp : targetIndex? d b p with
  | none =>
    rw [overlayFound_eq_self d hp, overlayFound_eq_self d (p := p)]
    rwa [targetIndex?_overlayFound]
  | some i =>
    cases hq : targetIndex? d b q with
    | none =>
      rw [overlayFound_eq_self d hq, overlayFound_eq_self d (p := q)]
      rwa [targetIndex?_overlayFound]
    | some j =>
      have hij : i ≠ j := by
        rintro rfl
        exact h (target_eq_of_targetIndex? d hp hq)
      have hp' := (targetIndex?_overlayFound d (p := q)).trans hp
      have hq' := (targetIndex?_overlayFound d (p := p)).trans hq
      rw [overlayFound_eq_modify d hq', overlayFound_eq_modify d hp, overlayFound_eq_modify d hp',
        overlayFound_eq_modify d hq]
      exact List.modify_modify_ne _ _ _ hij

/-! ### Runs -/

/-- What was appended earlier is not what the override is for. -/
lemma applyOverride_append (hadded : ∀ r ∈ added, target d r ≠ target d p) :
    applyOverride d (b ++ added) p = .ok (overlayFound d b p ++ (added ++ unmatched d b [p])) := by
  have hposition : (b ++ added).position? p.kind (targetName d p) = targetIndex? d b p :=
    position?_append_of_forall fun r hr h => hadded r hr (target_eq_of_identity d h)
  unfold applyOverride
  rw [hposition]
  cases hindex : targetIndex? d b p with
  | none =>
    rw [overlayFound_eq_self d hindex]
    simp [unmatched, hindex]
  | some i =>
    obtain ⟨base, hbase, hidentity⟩ := identity_of_position? hindex
    have hi : i < b.length := (List.getElem?_eq_some_iff.mp hbase).1
    have hget : (b ++ added)[i]? = some base := (List.getElem?_append_left hi).trans hbase
    have hoverlay : base.overlay p = .ok (p.overlaid base) :=
      Resource.overlay_eq_ok (congrArg Prod.fst hidentity)
    have hset : (b ++ added).set i (p.overlaid base) = b.modify i p.overlaid ++ added := by
      rw [List.set_append_left _ _ hi, List.modify_eq_set_getElem?, hbase]
      rfl
    have hunmatched : unmatched d b [p] = [] := by simp [unmatched, hindex]
    rw [overlayFound_eq_modify d hindex, hunmatched, List.append_nil, ← hset]
    simp only [hget, hoverlay]
    rfl

/-- A run from a collection to which overrides for other resources have been appended. -/
lemma applyOverrides_append (hl : (l.map (target d)).Nodup)
    (hadded : ∀ r ∈ added, ∀ p ∈ l, target d r ≠ target d p) :
    applyOverrides d (b ++ added) l =
      .ok (l.foldl (overlayFound d) b ++ (added ++ unmatched d b l)) := by
  induction l generalizing b added with
  | nil => simp [applyOverrides, unmatched, pure, Except.pure]
  | cons p l ih =>
    obtain ⟨hp, hl⟩ := List.nodup_cons.mp hl
    have hstep : applyOverride d (b ++ added) p =
        .ok (overlayFound d b p ++ (added ++ unmatched d b [p])) :=
      applyOverride_append d fun r hr => hadded r hr p List.mem_cons_self
    have hrest : ∀ r ∈ added ++ unmatched d b [p], ∀ q ∈ l, target d r ≠ target d q := by
      intro r hr q hq
      obtain hr | hr := List.mem_append.mp hr
      · exact hadded r hr q (List.mem_cons_of_mem p hq)
      · obtain rfl := List.mem_singleton.mp ((mem_unmatched d).mp hr).1
        exact fun hrq => hp (List.mem_map.mpr ⟨q, hq, hrq.symm⟩)
    have hsame : unmatched d (overlayFound d b p) l = unmatched d b l := by simp [unmatched]
    have hrun := ih (b := overlayFound d b p) hl hrest
    rw [hsame, List.append_assoc, ← unmatched_cons] at hrun
    unfold applyOverrides
    rw [List.foldlM_cons, hstep]
    exact hrun

lemma applyOverrides_eq_ok (hl : (l.map (target d)).Nodup) :
    applyOverrides d b l = .ok (l.foldl (overlayFound d) b ++ unmatched d b l) := by
  have h : applyOverrides d (b ++ []) l =
      .ok (l.foldl (overlayFound d) b ++ ([] ++ unmatched d b l)) :=
    applyOverrides_append d hl fun _ hr => absurd hr List.not_mem_nil
  rwa [List.append_nil, List.nil_append] at h

lemma length_foldl_overlayFound : (l.foldl (overlayFound d) b).length = b.length := by
  induction l generalizing b with
  | nil => rfl
  | cons p l ih =>
    have hlength := congrArg List.length (map_identity_overlayFound d (b := b) (p := p))
    rw [List.length_map, List.length_map] at hlength
    exact ih.trans hlength

lemma getElem?_foldl_overlayFound {i : Nat} (h : ∀ p ∈ l, targetIndex? d b p ≠ some i) :
    (l.foldl (overlayFound d) b)[i]? = b[i]? := by
  induction l generalizing b with
  | nil => rfl
  | cons p l ih =>
    obtain ⟨hp, hl⟩ := List.forall_mem_cons.mp h
    refine (ih fun q hq => (targetIndex?_overlayFound d).trans_ne (hl q hq)).trans ?_
    cases hindex : targetIndex? d b p with
    | none => rw [overlayFound_eq_self d hindex]
    | some j =>
      rw [overlayFound_eq_modify d hindex]
      exact List.getElem?_modify_ne _ _ fun hij => hp (hindex.trans (congrArg some hij))

lemma foldl_overlayFound_perm (hl : (l.map (target d)).Nodup) (h : l'.Perm l) :
    l'.foldl (overlayFound d) b = l.foldl (overlayFound d) b := by
  refine (h.symm.foldl_eq' (fun p hp q hq _ => ?_) b).symm
  by_cases hpq : p = q
  · rw [hpq]
  · exact overlayFound_comm d fun htarget => hpq (List.inj_on_of_nodup_map hl hp hq htarget)

theorem applyOverrides_perm (before : Collection) (hl : (l.map (target d)).Nodup) :
    ∃ kept added, applyOverrides d before l = .ok (kept ++ added) ∧ kept.length = before.length ∧
      (∀ l', l'.Perm l →
        ∃ added', applyOverrides d before l' = .ok (kept ++ added') ∧ added'.Perm added) ∧
      ∀ i, (∀ p ∈ l, before.position? p.kind (targetName d p) ≠ some i) →
        kept[i]? = before[i]? := by
  refine ⟨l.foldl (overlayFound d) before, unmatched d before l, applyOverrides_eq_ok d hl,
    length_foldl_overlayFound d, ?_, fun i => getElem?_foldl_overlayFound d⟩
  intro l' hperm
  have hl' : (l'.map (target d)).Nodup := (hperm.map (target d)).nodup_iff.mpr hl
  refine ⟨unmatched d before l', ?_, hperm.filter _⟩
  rw [← foldl_overlayFound_perm d hl hperm]
  exact applyOverrides_eq_ok d hl'

/-- A configuration map of one entry. -/
def configured (name : Option String) (key value : String) : Resource where
  metadata := { (default : ObjectMeta) with name }
  content := .configMap { (default : ConfigMapContent) with
    data := some (SortedMap.ofList [(key, value)]) }

/-- The first override is for the first of two resources called alike, the second for none. -/
theorem applyOverrides_perm_configured :
    ([configured none "port" "8080", configured (some "other") "port" "9090"].map
        (target "shop")).Nodup ∧
      ∃ kept added,
        applyOverrides "shop"
            [configured (some "shop") "host" "a", configured (some "shop") "host" "b"]
            [configured none "port" "8080", configured (some "other") "port" "9090"] =
              .ok (kept ++ added) ∧
        kept.length = 2 ∧
        (∃ added', applyOverrides "shop"
            [configured (some "shop") "host" "a", configured (some "shop") "host" "b"]
            [configured (some "other") "port" "9090", configured none "port" "8080"] =
              .ok (kept ++ added') ∧ added'.Perm added) ∧
        kept[1]? = some (configured (some "shop") "host" "b") := by
  obtain ⟨kept, added, hrun, hlength, hperm, hkept⟩ := applyOverrides_perm "shop"
    [configured (some "shop") "host" "a", configured (some "shop") "host" "b"]
    (l := [configured none "port" "8080", configured (some "other") "port" "9090"]) (by decide)
  exact ⟨by decide, kept, added, hrun, hlength, hperm _ (List.Perm.swap _ _ _),
    hkept 1 (by decide)⟩

end Collection
end Manifests
