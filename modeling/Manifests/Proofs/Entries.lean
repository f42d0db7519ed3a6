import Mathlib.Data.List.Sort
import Manifests.Enricher
import Manifests.Overlay

/-! What the operations on maps do to lookups.  Lookups determine a map, so an equation between maps
is an equation between their lookups. -/
namespace Manifests.SortedMap

variable {α β : Type}

lemma get?_eq_some_iff {m : SortedMap α} {k : String} {v : α} :
    m.get? k = some v ↔ (k, v) ∈ m.toList := by
  obtain ⟨l, h⟩ := m
  change (l.find? (·.1 == k)).map (·.2) = some v ↔ (k, v) ∈ l
  induction l with
  | nil => simp
  | cons e l ih =>
    obtain ⟨hlt, htail⟩ := List.pairwise_cons.mp h
    by_cases he : e.1 = k
    · have hnot : (k, v) ∉ l := fun hm => String.lt_irrefl k (he ▸ hlt (k, v) hm)
      obtain ⟨k', v'⟩ := e
      cases he
      simp [hnot, eq_comm]
    · have hne : (k, v) ≠ e := fun hv => he (hv ▸ rfl)
      simp [he, hne, ih htail]

lemma nodup_keys (m : SortedMap α) : (m.toList.map (·.1)).Nodup := by
  rw [List.Nodup, List.pairwise_map]
  exact m.ascending.imp fun hlt => String.ne_of_lt hlt

instance : Std.Irrefl fun a b : String × α => a.1 < b.1 := ⟨fun a => String.lt_irrefl a.1⟩

instance : Std.Antisymm fun a b : String × α => a.1 < b.1 :=
  ⟨fun _ _ h h' => absurd (String.lt_trans h h') (String.lt_irrefl _)⟩

theorem ext_get? {m n : SortedMap α} (h : ∀ k, m.get? k = n.get? k) : m = n := by
  apply ext
  apply List.Pairwise.eq_of_mem_iff m.ascending n.ascending
  rintro ⟨k, v⟩
  rw [← get?_eq_some_iff, ← get?_eq_some_iff, h]

lemma isEmpty_iff {m : SortedMap α} : m.isEmpty = true ↔ m = ∅ := by
  constructor
  · intro h
    exact ext (List.isEmpty_iff.mp h)
  · rintro rfl
    rfl

lemma isEmpty_iff_get? {m : SortedMap α} : m.isEmpty = true ↔ ∀ k, m.get? k = none := by
  rw [isEmpty_iff]
  exact ⟨fun h k => h ▸ get?_empty k, fun h => ext_get? fun k => (h k).trans (get?_empty k).symm⟩

/-- A fold over the entries of `patch`, each of which decides on its own key alone. -/
lemma get?_foldl {f : SortedMap β → String × α → SortedMap β} {g : α → Option β}
    (hf : ∀ m e k, (f m e).get? k = if e.1 = k then g e.2 else m.get? k)
    (patch : SortedMap α) (m : SortedMap β) (k : String) :
    (patch.toList.foldl f m).get? k = ((patch.get? k).map g).getD (m.get? k) := by
  obtain ⟨l, h⟩ := patch
  change (l.foldl f m).get? k = (((l.find? (·.1 == k)).map (·.2)).map g).getD (m.get? k)
  induction l generalizing m with
  | nil => rfl
  | cons e l ih =>
    obtain ⟨hlt, htail⟩ := List.pairwise_cons.mp h
    rw [List.foldl_cons, ih (f m e) htail, hf]
    by_cases he : e.1 = k
    · have hnone : l.find? (·.1 == k) = none := by
        rw [List.find?_eq_none]
        intro e' he' hk
        have hlt' := hlt e' he'
        rw [he, beq_iff_eq.mp hk] at hlt'
        exact String.lt_irrefl k hlt'
      simp [he, hnone]
    · simp [he]

@[simp] lemma get?_union (base patch : SortedMap α) (k : String) :
    (base.union patch).get? k = (patch.get? k).or (base.get? k) := by
  rw [union, get?_foldl (g := some) (fun m e k => get?_insert m e.1 k e.2)]
  cases patch.get? k <;> rfl

@[simp] lemma get?_fill (m fallback : SortedMap α) (k : String) :
    (m.fill fallback).get? k = (m.get? k).or (fallback.get? k) := get?_union fallback m k

lemma fill_fill_self (m fallback : SortedMap α) :
    (m.fill fallback).fill fallback = m.fill fallback := by
  apply ext_get?
  intro k
  rw [get?_fill, get?_fill, Option.or_assoc, Option.or_self]

@[simp] lemma get?_erase (m : SortedMap α) (k k' : String) :
    (m.erase k).get? k' = if k = k' then none else m.get? k' := by
  obtain ⟨l, h⟩ := m
  change ((l.filter fun e => e.1 != k).find? (·.1 == k')).map (·.2) = _
  rw [List.find?_filter]
  split
  next hk =>
    subst hk
    simp
  next hk =>
    unfold get?
    congr 2
    funext e
    by_cases he : e.1 = k'
    · simp [he, Ne.symm hk]
    · simp [he]

end Manifests.SortedMap

namespace Manifests

lemma get?_fillEntries (base : Option (SortedMap String)) (more : SortedMap String) (k : String) :
    ((fillEntries base more).getD ∅).get? k = ((base.getD ∅).get? k).or (more.get? k) :=
  SortedMap.get?_fill _ _ k

end Manifests
