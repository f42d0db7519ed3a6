import Manifests.Collection
import Manifests.Proofs.Extension
import Manifests.Proofs.Outcome
import Manifests.Proofs.Repetition.Names

/-! A resource is known by its kind and its name.  What keeps these is found at the same place, and
resources that are known apart stay so. -/
namespace Manifests

namespace Resource

/-- The kind and the name, unless it is blank. -/
def identity (r : Resource) : Kind × Option String := (r.kind, r.name?)

variable {r s r' s' t : Resource}

/-- The kind stays, and so does a name. -/
structure KeepsIdentity (r s : Resource) : Prop where
  kind : s.kind = r.kind
  name : r.Named → s.name? = r.name?

namespace KeepsIdentity

lemma refl (r : Resource) : r.KeepsIdentity r := ⟨rfl, fun _ => rfl⟩

lemma named (h : r.KeepsIdentity s) (hr : r.Named) : s.Named := by
  unfold Named
  rw [h.name hr]
  exact hr

lemma trans (h : r.KeepsIdentity s) (h' : s.KeepsIdentity t) : r.KeepsIdentity t where
  kind := h'.kind.trans h.kind
  name hr := (h'.name (h.named hr)).trans (h.name hr)

lemma of_keepsText (hkind : s.kind = r.kind) (h : KeepsText r.metadata.name s.metadata.name) :
    r.KeepsIdentity s where
  kind := hkind
  name hr := by
    obtain ⟨name, hname, hblank⟩ := named_iff.mp hr
    unfold name?
    rw [hname, h name hname hblank]

lemma of_name (hkind : s.kind = r.kind) (h : s.metadata.name = r.metadata.name) :
    r.KeepsIdentity s := .of_keepsText hkind (h ▸ .refl _)

lemma identity_eq {kind : Kind} {name : String} (h : r.KeepsIdentity s)
    (hr : r.identity = (kind, some name)) : s.identity = (kind, some name) := by
  have hname : r.name? = some name := congrArg Prod.snd hr
  rw [← hr]
  exact Prod.ext h.kind (h.name (Option.isSome_iff_exists.mpr ⟨name, hname⟩))

end KeepsIdentity

/-- Resources of different kinds, or with different names. -/
def Apart (r s : Resource) : Prop := r.kind = s.kind → r.Named ∧ s.Named ∧ r.name? ≠ s.name?

lemma Apart.of_keepsIdentity (h : r.Apart s) (hr : r.KeepsIdentity r') (hs : s.KeepsIdentity s') :
    r'.Apart s' := by
  intro hkind
  rw [hr.kind, hs.kind] at hkind
  obtain ⟨hrn, hsn, hne⟩ := h hkind
  refine ⟨hr.named hrn, hs.named hsn, ?_⟩
  rwa [hr.name hrn, hs.name hsn]

lemma Apart.identity_ne (h : r.Apart s) : r.identity ≠ s.identity := by
  intro hidentity
  obtain ⟨hkind, hname⟩ := Prod.mk.inj hidentity
  exact (h hkind).2.2 hname

end Resource

namespace Collection

variable {before after added : Collection} {kind : Kind} {name : String}

lemma isCalled_eq (r : Resource) : isCalled kind name r = (r.identity == (kind, some name)) := rfl

lemma isCalled_iff {r : Resource} :
    isCalled kind name r = true ↔ r.identity = (kind, some name) := by
  rw [isCalled_eq, beq_iff_eq]

lemma position?_eq_findIdx? (d : Collection) (kind : Kind) (name : String) :
    d.position? kind name = (d.map Resource.identity).findIdx? (· == (kind, some name)) := by
  rw [List.findIdx?_map]
  rfl

lemma position?_congr (h : before.map Resource.identity = after.map Resource.identity) (kind : Kind)
    (name : String) : before.position? kind name = after.position? kind name := by
  rw [position?_eq_findIdx?, position?_eq_findIdx?, h]

lemma position?_append_of_forall (h : ∀ r ∈ added, r.identity ≠ (kind, some name)) :
    (before ++ added).position? kind name = before.position? kind name := by
  have hadded : added.position? kind name = none := by
    refine List.findIdx?_eq_none_iff.mpr fun r hr => ?_
    exact Bool.eq_false_iff.mpr fun hcalled => h r hr (isCalled_iff.mp hcalled)
  unfold position? at hadded ⊢
  rw [List.findIdx?_append, hadded]
  exact Option.or_none

/-- A place is where a resource of the kind and name stands. -/
lemma identity_of_position? {i : Nat} (h : before.position? kind name = some i) :
    ∃ r, before[i]? = some r ∧ r.identity = (kind, some name) := by
  obtain ⟨hi, hcalled, -⟩ := List.findIdx?_eq_some_iff_getElem.mp h
  exact ⟨before[i], List.getElem?_eq_getElem hi, isCalled_iff.mp hcalled⟩

/-! ### Distinct resources -/

/-- No two resources are of one kind and name. -/
def Distinct (c : Collection) : Prop := (c.map Resource.identity).Nodup

lemma distinct_of_pairwise (h : before.Pairwise Resource.Apart) : before.Distinct :=
  List.pairwise_map.mpr (h.imp Resource.Apart.identity_ne)

lemma Distinct.pairwise (h : before.Distinct) (hnamed : ∀ r ∈ before, r.Named) :
    before.Pairwise Resource.Apart := by
  refine (List.pairwise_map.mp h).imp_of_mem fun {r s} hr hs hne hkind => ?_
  exact ⟨hnamed r hr, hnamed s hs, fun hname => hne (Prod.ext hkind hname)⟩

lemma pairwise_apart_append {s : Resource} (hbefore : before.Pairwise Resource.Apart)
    (h : ∀ r ∈ before, r.Apart s) : (before ++ [s]).Pairwise Resource.Apart := by
  refine List.pairwise_append.mpr ⟨hbefore, List.pairwise_singleton _ s, fun r hr s' hs' => ?_⟩
  cases List.mem_singleton.mp hs'
  exact h r hr

lemma pairwise_apart_of_forall₂ (h : List.Forall₂ Resource.KeepsIdentity before after)
    (hbefore : before.Pairwise Resource.Apart) : after.Pairwise Resource.Apart := by
  induction h with
  | nil => exact .nil
  | cons hrs hrest ih =>
    obtain ⟨hr, hbefore⟩ := List.pairwise_cons.mp hbefore
    refine List.pairwise_cons.mpr ⟨?_, ih hbefore⟩
    exact forall_of_forall₂ (fun hkeeps hapart => hapart.of_keepsIdentity hrs hkeeps) hrest hr

/-- A named resource is found again. -/
lemma count_le_of_forall₂ (h : List.Forall₂ Resource.KeepsIdentity before after) (kind : Kind)
    (name : String) :
    (before.map Resource.identity).count (kind, some name) ≤
      (after.map Resource.identity).count (kind, some name) := by
  induction h with
  | nil => exact Nat.le_refl _
  | @cons r s before after hrs _ ih =>
    rw [List.map_cons, List.map_cons, List.count_cons, List.count_cons]
    by_cases hr : r.identity = (kind, some name)
    · rw [hr, hrs.identity_eq hr]
      exact Nat.add_le_add_right ih _
    · rw [if_neg (by simpa using hr)]
      exact Nat.le_trans ih (Nat.le_add_right _ _)

end Collection
end Manifests
