/-!
Finite maps from texts, held as entries in strictly ascending order of their keys.  The order makes
the representation unique: two maps with the same entries are equal.
-/
namespace Manifests

/-- Entries whose keys strictly ascend. -/
structure SortedMap (α : Type) where
  toList : List (String × α)
  ascending : toList.Pairwise fun a b => a.1 < b.1
  deriving DecidableEq

namespace SortedMap

variable {α β : Type}

/-- Puts an entry at its place and replaces the entry of the same key. -/
def insertEntry (k : String) (v : α) : List (String × α) → List (String × α)
  | [] => [(k, v)]
  | (k', v') :: rest =>
    if k < k' then (k, v) :: (k', v') :: rest
    else if k = k' then (k, v) :: rest
    else (k', v') :: insertEntry k v rest

theorem mem_insertEntry {k : String} {v : α} {e : String × α} {l : List (String × α)}
    (h : e ∈ insertEntry k v l) : e = (k, v) ∨ e ∈ l := by
  induction l with
  | nil => simpa [insertEntry] using h
  | cons head rest ih =>
    obtain ⟨k', v'⟩ := head
    rw [insertEntry] at h
    split at h
    · simpa using h
    · split at h
      · simp only [List.mem_cons] at h ⊢
        exact h.imp_right Or.inr
      · simp only [List.mem_cons] at h ⊢
        rcases h with h | h
        · exact Or.inr (Or.inl h)
        · exact (ih h).imp_right Or.inr

theorem key_lt_of_not_lt {k k' : String} (h₁ : ¬k < k') (h₂ : ¬k = k') : k' < k := by
  rcases Decidable.em (k' < k) with h | h
  · exact h
  · exact absurd (String.le_antisymm (String.not_lt.mp h) (String.not_lt.mp h₁)) h₂

theorem pairwise_insertEntry (k : String) (v : α) {l : List (String × α)}
    (h : l.Pairwise fun a b => a.1 < b.1) :
    (insertEntry k v l).Pairwise fun a b => a.1 < b.1 := by
  induction l with
  | nil => simp [insertEntry]
  | cons head rest ih =>
    obtain ⟨k', v'⟩ := head
    have hall := (List.pairwise_cons.mp h).1
    have hrest := (List.pairwise_cons.mp h).2
    rw [insertEntry]
    split
    next hlt =>
      refine List.pairwise_cons.mpr ⟨fun e he => ?_, h⟩
      rcases List.mem_cons.mp he with rfl | he
      · exact hlt
      · exact String.lt_trans hlt (hall e he)
    next hge =>
      split
      next heq =>
        subst heq
        exact List.pairwise_cons.mpr ⟨hall, hrest⟩
      next hne =>
        refine List.pairwise_cons.mpr ⟨fun e he => ?_, ih hrest⟩
        rcases mem_insertEntry he with rfl | he
        · exact key_lt_of_not_lt hge hne
        · exact hall e he

def empty : SortedMap α := ⟨[], List.Pairwise.nil⟩

instance : EmptyCollection (SortedMap α) := ⟨empty⟩
instance : Inhabited (SortedMap α) := ⟨empty⟩

def get? (m : SortedMap α) (k : String) : Option α := (m.toList.find? (·.1 == k)).map (·.2)

def contains (m : SortedMap α) (k : String) : Bool := (m.get? k).isSome

def isEmpty (m : SortedMap α) : Bool := m.toList.isEmpty

def keys (m : SortedMap α) : List String := m.toList.map (·.1)

def insert (m : SortedMap α) (k : String) (v : α) : SortedMap α :=
  ⟨insertEntry k v m.toList, pairwise_insertEntry k v m.ascending⟩

def filter (p : String → α → Bool) (m : SortedMap α) : SortedMap α :=
  ⟨m.toList.filter fun e => p e.1 e.2, m.ascending.filter _⟩

def erase (m : SortedMap α) (k : String) : SortedMap α := m.filter fun k' _ => k' != k

def map (f : α → β) (m : SortedMap α) : SortedMap β :=
  ⟨m.toList.map fun e => (e.1, f e.2),
    List.pairwise_map.mpr (m.ascending.imp fun h => h)⟩

/-- The entries of `patch` on top of those of `base`. -/
def union (base patch : SortedMap α) : SortedMap α :=
  patch.toList.foldl (fun m e => m.insert e.1 e.2) base

/-- Adds the entries of `fallback` whose keys `m` lacks. -/
def fill (m fallback : SortedMap α) : SortedMap α := fallback.union m

/-- The last entry of each key. -/
def ofList (l : List (String × α)) : SortedMap α := l.foldl (fun m e => m.insert e.1 e.2) ∅

@[ext] theorem ext {m n : SortedMap α} (h : m.toList = n.toList) : m = n := by
  cases m; cases n; cases h; rfl

@[simp] theorem toList_empty : (∅ : SortedMap α).toList = [] := rfl

@[simp] theorem get?_empty (k : String) : (∅ : SortedMap α).get? k = none := rfl

theorem find?_insertEntry (k k' : String) (v : α) (l : List (String × α)) :
    (insertEntry k v l).find? (·.1 == k') =
      if k = k' then some (k, v) else l.find? (·.1 == k') := by
  induction l with
  | nil => by_cases h : k = k' <;> simp [insertEntry, h]
  | cons head rest ih =>
    obtain ⟨k'', v''⟩ := head
    rw [insertEntry]
    split
    · by_cases h : k = k' <;> simp [List.find?_cons, h]
    · split
      next heq =>
        subst heq
        by_cases h : k = k' <;> simp [h]
      next hne =>
        by_cases h : k'' = k'
        · have : ¬k = k' := fun e => hne (e.trans h.symm)
          simp [h, this]
        · simp [h, ih]

@[simp] theorem get?_insert (m : SortedMap α) (k k' : String) (v : α) :
    (m.insert k v).get? k' = if k = k' then some v else m.get? k' := by
  simp only [get?, insert, find?_insertEntry]
  split <;> simp

example : (ofList [("b", 1), ("a", 2), ("b", 3)]).toList = [("a", 2), ("b", 3)] := by decide

end SortedMap

/-- A set of texts in ascending order. -/
abbrev TextSet := SortedMap Unit

namespace TextSet

def ofList (l : List String) : TextSet := SortedMap.ofList (l.map (·, ()))

def members (s : TextSet) : List String := s.keys

end TextSet

end Manifests
