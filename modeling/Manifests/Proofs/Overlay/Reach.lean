import Mathlib.Data.Finset.Card
import Mathlib.Data.List.Infix
import Manifests.Proofs.Overlay.Collection

/-! Which resources a run of overrides reaches, with repeats and with overrides that bear no name.
An override without a name is for the resource of the default name.  Where that is not there, it is
appended as it is, so no later override finds it. -/
namespace Manifests.Collection

variable (d : String) {before after : Collection} {p q : Resource} {l : List Resource}
  {ids : List (Kind × Option String)}

/-! ### Kinds and names of a run -/

/-- The kinds and names after an override of a collection with the given ones. -/
def reach (ids : List (Kind × Option String)) (patch : Resource) : List (Kind × Option String) :=
  if (patch.kind, some (targetName d patch)) ∈ ids then ids else ids ++ [patch.identity]

/-- The kinds and names of a collection after a run of overrides. -/
def reached (before : Collection) (overrides : List Resource) : List (Kind × Option String) :=
  overrides.foldl (reach d) (before.map Resource.identity)

lemma reached_concat : reached d before (l ++ [p]) = reach d (reached d before l) p :=
  List.foldl_concat (reach d) _ p l

lemma hasNamed_iff {kind : Kind} {name : String} :
    before.hasNamed kind name = true ↔ (kind, some name) ∈ before.map Resource.identity := by
  unfold hasNamed named?
  rw [List.find?_isSome, List.mem_map]
  simp only [isCalled_iff]

lemma targetIndex?_eq_none_iff : targetIndex? d before p = none ↔
    (p.kind, some (targetName d p)) ∉ before.map Resource.identity := by
  unfold targetIndex?
  rw [position?_eq_findIdx?, List.findIdx?_eq_none_iff]
  constructor
  · intro h hmem
    have hself := h _ hmem
    simp at hself
  · intro h i hi
    rw [beq_eq_false_iff_ne]
    rintro rfl
    exact h hi

/-- An override never fails. -/
lemma exists_applyOverride (before : Collection) (p : Resource) :
    ∃ after, applyOverride d before p = .ok after ∧
      after.map Resource.identity = reach d (before.map Resource.identity) p := by
  have hstep : applyOverride d (before ++ []) p =
      .ok (overlayFound d before p ++ ([] ++ unmatched d before [p])) :=
    applyOverride_append d (by simp)
  rw [List.append_nil, List.nil_append] at hstep
  refine ⟨_, hstep, ?_⟩
  rw [List.map_append, map_identity_overlayFound]
  unfold reach unmatched
  by_cases hmem : (p.kind, some (targetName d p)) ∈ before.map Resource.identity
  · have hfound : (targetIndex? d before p).isNone = false := by
      rw [Option.isNone_eq_false_iff, Option.isSome_iff_ne_none]
      intro hnone
      exact (targetIndex?_eq_none_iff d).mp hnone hmem
    simp [hmem, hfound]
  · have hnone := (targetIndex?_eq_none_iff d).mpr hmem
    simp [hmem, hnone]

lemma exists_applyOverrides (before : Collection) (l : List Resource) :
    ∃ after, applyOverrides d before l = .ok after ∧
      after.map Resource.identity = reached d before l := by
  unfold reached
  induction l generalizing before with
  | nil => exact ⟨before, rfl, rfl⟩
  | cons p l ih =>
    obtain ⟨next, hstep, hnext⟩ := exists_applyOverride d before p
    obtain ⟨after, hrun, hafter⟩ := ih next
    refine ⟨after, ?_, ?_⟩
    · unfold applyOverrides at hrun ⊢
      rw [List.foldlM_cons, hstep]
      exact hrun
    · rw [hafter, hnext, List.foldl_cons]

/-! ### Overrides that bear a name -/

lemma identity_of_named (h : p.Named) : p.identity = (p.kind, some (targetName d p)) := by
  obtain ⟨name, hname⟩ := Option.isSome_iff_exists.mp h
  simp [Resource.identity, targetName, hname]

lemma identity_of_not_named (h : ¬p.Named) : p.identity = (p.kind, none) := by
  have hname : p.name? = none := by simpa [Resource.Named] using h
  rw [Resource.identity, hname]

/-- What is found under a name bears it. -/
lemma named_of_identity {t : Kind × String} (h : p.identity = (t.1, some t.2)) :
    p.Named ∧ target d p = t := by
  obtain ⟨hkind, hname⟩ := Prod.mk.inj h
  refine ⟨Option.isSome_iff_exists.mpr ⟨t.2, hname⟩, ?_⟩
  simp [target, targetName, hkind, hname]

lemma mem_reach {t : Kind × String} :
    (t.1, some t.2) ∈ reach d ids p ↔ (t.1, some t.2) ∈ ids ∨ p.identity = (t.1, some t.2) := by
  unfold reach
  split
  next hfound =>
    constructor
    · exact Or.inl
    · rintro (hmem | hidentity)
      · exact hmem
      · obtain ⟨_, rfl⟩ := named_of_identity d hidentity
        exact hfound
  next => rw [List.mem_append, List.mem_singleton, eq_comm (a := p.identity)]

lemma mem_foldl_reach {t : Kind × String} : (t.1, some t.2) ∈ l.foldl (reach d) ids ↔
    (t.1, some t.2) ∈ ids ∨ ∃ q ∈ l, q.Named ∧ target d q = t := by
  induction l generalizing ids with
  | nil => simp
  | cons p l ih =>
    have hp : p.identity = (t.1, some t.2) ↔ p.Named ∧ target d p = t := by
      constructor
      · exact named_of_identity d
      · rintro ⟨hnamed, rfl⟩
        exact identity_of_named d hnamed
    rw [List.foldl_cons, ih, mem_reach, hp]
    simp only [List.mem_cons, exists_eq_or_imp, or_assoc]

/-- A kind and name can be found after a run if it could before, or if an override bears it. -/
lemma mem_reached_iff {t : Kind × String} : (t.1, some t.2) ∈ reached d before l ↔
    before.hasNamed t.1 t.2 = true ∨ ∃ q ∈ l, q.Named ∧ target d q = t := by
  rw [hasNamed_iff]
  exact mem_foldl_reach d

lemma prefix_foldl_reach (ids : List (Kind × Option String)) (l : List Resource) :
    ids <+: l.foldl (reach d) ids := by
  induction l generalizing ids with
  | nil => exact List.prefix_rfl
  | cons p l ih =>
    refine List.IsPrefix.trans ?_ (ih (reach d ids p))
    unfold reach
    split
    · exact List.prefix_rfl
    · exact List.prefix_append ids _

/-! ### Counting -/

/-- The kinds and names that overrides are for and that can not be found. -/
def missing (before : Collection) (overrides : List Resource) : Finset (Kind × String) :=
  (overrides.map (target d)).toFinset.filter fun t => before.hasNamed t.1 t.2 = false

/-- Every override finds its resource afterwards, and as many resources are new as there are kinds
and names that could not be found. -/
structure Reaches (before : Collection) (overrides : List Resource) (after : Collection) :
    Prop where
  found : ∀ patch ∈ overrides, after.hasNamed patch.kind (targetName d patch) = true
  length : after.length = before.length + (missing d before overrides).card

/-- The first override for each resource that can not be found bears its name. -/
def Introduced (before : Collection) (overrides : List Resource) : Prop :=
  ∀ earlier patch later, overrides = earlier ++ patch :: later →
    before.hasNamed patch.kind (targetName d patch) = false →
    target d patch ∉ earlier.map (target d) → patch.Named

lemma mem_missing {t : Kind × String} : t ∈ missing d before l ↔
    t ∈ l.map (target d) ∧ (t.1, some t.2) ∉ before.map Resource.identity := by
  rw [missing, Finset.mem_filter, List.mem_toFinset, ← hasNamed_iff, Bool.not_eq_true]

lemma missing_concat : missing d before (l ++ [p]) =
    if target d p ∈ l.map (target d) ∨ before.hasNamed p.kind (targetName d p) = true
      then missing d before l else insert (target d p) (missing d before l) := by
  ext t
  split
  next hold =>
    rw [mem_missing, mem_missing, List.map_append, List.mem_append, List.map_singleton,
      List.mem_singleton]
    constructor
    · rintro ⟨hmem | rfl, hnot⟩
      · exact ⟨hmem, hnot⟩
      · exact ⟨hold.resolve_right fun hfound => hnot (hasNamed_iff.mp hfound), hnot⟩
    · rintro ⟨hmem, hnot⟩
      exact ⟨.inl hmem, hnot⟩
  next hnew =>
    obtain ⟨_, hmissing⟩ := not_or.mp hnew
    rw [hasNamed_iff] at hmissing
    rw [Finset.mem_insert, mem_missing, mem_missing, List.map_append, List.mem_append,
      List.map_singleton, List.mem_singleton]
    constructor
    · rintro ⟨hmem | rfl, hnot⟩
      · exact .inr ⟨hmem, hnot⟩
      · exact .inl rfl
    · rintro (rfl | ⟨hmem, hnot⟩)
      · exact ⟨.inr rfl, hmissing⟩
      · exact ⟨.inl hmem, hnot⟩

lemma Introduced.dropLast (h : Introduced d before (l ++ [p])) : Introduced d before l := by
  intro earlier patch later hl
  refine h earlier patch (later ++ [p]) ?_
  rw [hl, List.append_assoc, List.cons_append]

/-- The first one of several overrides for a missing resource bears its name. -/
lemma Introduced.exists_named (h : Introduced d before l) {t : Kind × String}
    (ht : t ∈ l.map (target d)) (hmissing : before.hasNamed t.1 t.2 = false) :
    ∃ q ∈ l, q.Named ∧ target d q = t := by
  obtain ⟨as, bs, hsplit, hfirst⟩ := List.eq_append_cons_of_mem ht
  obtain ⟨earlier, rest, rfl, rfl, hrest⟩ := List.map_eq_append_iff.mp hsplit
  obtain ⟨q, later, rfl, rfl, _⟩ := List.map_eq_cons_iff.mp hrest
  exact ⟨q, by simp, h earlier q later rfl hmissing hfirst, rfl⟩

/-- Where the first ones bear names, what was overridden can be found. -/
lemma Introduced.mem_reached (h : Introduced d before l) {t : Kind × String} :
    (t.1, some t.2) ∈ reached d before l ↔
      t ∈ l.map (target d) ∨ before.hasNamed t.1 t.2 = true := by
  rw [mem_reached_iff]
  constructor
  · rintro (hbefore | ⟨q, hq, _, rfl⟩)
    · exact .inr hbefore
    · exact .inl (List.mem_map_of_mem hq)
  · rintro (ht | hbefore)
    · cases hbefore : before.hasNamed t.1 t.2 with
      | true => exact .inl rfl
      | false => exact .inr (h.exists_named d ht hbefore)
    · exact .inl hbefore

lemma Introduced.length_reached (h : Introduced d before l) :
    (reached d before l).length = before.length + (missing d before l).card := by
  induction l using List.reverseRecOn with
  | nil => simp [reached, missing]
  | append_singleton l p ih =>
    have hlength := ih h.dropLast
    have hfound : (p.kind, some (targetName d p)) ∈ reached d before l ↔
        target d p ∈ l.map (target d) ∨ before.hasNamed p.kind (targetName d p) = true :=
      h.dropLast.mem_reached d (t := target d p)
    rw [reached_concat, missing_concat]
    unfold reach
    by_cases hold : target d p ∈ l.map (target d) ∨
        before.hasNamed p.kind (targetName d p) = true
    · rw [if_pos (hfound.mpr hold), if_pos hold]
      exact hlength
    · have hnot : target d p ∉ missing d before l := by
        intro hmem
        exact hold (.inl ((mem_missing d).mp hmem).1)
      rw [if_neg fun hmem => hold (hfound.mp hmem), if_neg hold,
        Finset.card_insert_of_notMem hnot, List.length_append, hlength, List.length_singleton,
        Nat.add_assoc]

/-- Where the first ones bear names, a run reaches all. -/
lemma Introduced.reaches (h : Introduced d before l)
    (hids : after.map Resource.identity = reached d before l) : Reaches d before l after where
  found p hp := by
    rw [hasNamed_iff, hids]
    exact (h.mem_reached d (t := target d p)).mpr (.inl (List.mem_map_of_mem hp))
  length := by
    rw [← h.length_reached, ← hids, List.length_map]

/-- An override that is appended without a name is one too many, if all are to be found. -/
lemma Reaches.introduced (h : Reaches d before l after)
    (hids : after.map Resource.identity = reached d before l) : Introduced d before l := by
  rintro earlier p later rfl hmissing hfirst
  by_contra hnamed
  have hp : (p.kind, some (targetName d p)) ∉ reached d before earlier := by
    intro hmem
    obtain hbefore | ⟨q, hq, _, htarget⟩ := (mem_reached_iff d (t := target d p)).mp hmem
    · exact Bool.eq_false_iff.mp hmissing hbefore
    · exact hfirst (List.mem_map.mpr ⟨q, hq, htarget⟩)
  obtain ⟨front, hfront⟩ := prefix_foldl_reach d (before.map Resource.identity) earlier
  obtain ⟨back, hback⟩ := prefix_foldl_reach d (reached d before earlier ++ [p.identity]) later
  have hrun : after.map Resource.identity =
      before.map Resource.identity ++ (front ++ p.identity :: back) := by
    rw [hids, reached, List.foldl_append, List.foldl_cons, ← reached, reach, if_neg hp, ← hback,
      reached, ← hfront]
    simp
  -- The missing ones are found among the new resources that bear names.
  have hsub : (missing d before (earlier ++ p :: later)).image
      (fun t => (t.1, some t.2)) ⊆ (front ++ back).toFinset := by
    intro i hi
    obtain ⟨t, ht, rfl⟩ := Finset.mem_image.mp hi
    obtain ⟨hmem, hnot⟩ := (mem_missing d).mp ht
    obtain ⟨q, hq, rfl⟩ := List.mem_map.mp hmem
    have hfound := hasNamed_iff.mp (h.found q hq)
    rw [hrun, identity_of_not_named hnamed] at hfound
    have hnew := (List.mem_append.mp hfound).resolve_left hnot
    simpa [target] using hnew
  have hinjective : Function.Injective fun t : Kind × String => (t.1, some t.2) := by
    intro t u htu
    obtain ⟨hkind, hname⟩ := Prod.mk.inj htu
    exact Prod.ext hkind (Option.some.inj hname)
  have hcard := (Finset.card_le_card hsub).trans (front ++ back).toFinset_card_le
  have hlength := congrArg List.length hrun
  have hcount := h.length
  rw [Finset.card_image_of_injective _ hinjective, List.length_append] at hcard
  simp only [List.length_map, List.length_append, List.length_cons] at hlength
  omega

/-- A run of overrides never fails, and it reaches all of them just if each resource that is missing
is introduced under its name. -/
theorem applyOverrides_reaches_iff (before : Collection) (l : List Resource) :
    ∃ after, applyOverrides d before l = .ok after ∧
      (∀ p ∈ l, after.hasNamed p.kind (targetName d p) = true ↔
        before.hasNamed p.kind (targetName d p) = true ∨
          ∃ q ∈ l, q.Named ∧ target d q = target d p) ∧
      (Reaches d before l after ↔ Introduced d before l) := by
  obtain ⟨after, hrun, hids⟩ := exists_applyOverrides d before l
  refine ⟨after, hrun, fun p _ => ?_, fun h => h.introduced d hids, fun h => h.reaches d hids⟩
  rw [hasNamed_iff, hids]
  exact mem_reached_iff d (t := target d p)

/-- Two overrides without names for one resource that is not there are both appended. -/
example : (applyOverrides "shop" []
    [⟨default, .configMap default⟩, ⟨default, .configMap default⟩]).map List.length = .ok 2 := by
  decide

end Manifests.Collection
