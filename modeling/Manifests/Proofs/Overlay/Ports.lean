import Manifests.Proofs.Overlay.Itself
import Manifests.Proofs.Overlay.Keys

/-! Ports of a service under an override whose ports do not match each other.  Matching is no
equivalence, as an unnamed port matches differently named ones, but a port that was put in is met by
none of the others and so is never lost. -/
namespace Manifests

namespace KeyedList

variable {α : Type} {same : α → α → Bool} {base items : List α} {a : α}

/-- What items make of a list that are put into it.  Every item is there, what was there keeps its
place or leaves it to an item that is the same, and other items stand behind in their order. -/
structure PutInto (same : α → α → Bool) (base items merged : List α) : Prop where
  present : ∀ a ∈ items, a ∈ merged
  inPlace : ∀ (i : Nat) b, base[i]? = some b →
    merged[i]? = some b ∨ ∃ a ∈ items, same a b = true ∧ merged[i]? = some a
  behind : (merged.drop base.length).Sublist items

/-- An item goes where the first match stands, or behind everything. -/
lemma put_cases (f : α → Bool) (a : α) (l : List α) :
    (∃ k x, l[k]? = some x ∧ f x = true ∧ put f a l = l.set k a) ∨
      (∀ x ∈ l, f x = false) ∧ put f a l = l ++ [a] := by
  induction l with
  | nil => exact .inr ⟨by simp, rfl⟩
  | cons c rest ih =>
    rw [put]
    cases hc : f c with
    | true => exact .inl ⟨0, c, rfl, hc, rfl⟩
    | false =>
      rw [if_neg (by simp)]
      obtain ⟨k, x, hk, hx, hput⟩ | ⟨hnone, hput⟩ := ih
      · exact .inl ⟨k + 1, x, hk, hx, by rw [hput]; rfl⟩
      · exact .inr ⟨List.forall_mem_cons.mpr ⟨hc, hnone⟩, by rw [hput]; rfl⟩

namespace PutInto
variable {merged : List α}

lemma length_le (h : PutInto same base items merged) : base.length ≤ merged.length := by
  by_contra hlt
  obtain ⟨b, hb⟩ : ∃ b, base[merged.length]? = some b := ⟨_, List.getElem?_eq_getElem (by omega)⟩
  have hnone : merged[merged.length]? = none := List.getElem?_eq_none (Nat.le_refl _)
  obtain hmerged | ⟨a, _, _, hmerged⟩ := h.inPlace _ b hb
  · rw [hnone] at hmerged
    cases hmerged
  · rw [hnone] at hmerged
    cases hmerged

/-- What no item matches stays where it is. -/
lemma unmatched (h : PutInto same base items merged) {i : Nat} {b : α} (hb : base[i]? = some b)
    (hnone : ∀ a ∈ items, same a b = false) : merged[i]? = some b := by
  refine (h.inPlace i b hb).resolve_right ?_
  rintro ⟨a, ha, hab, _⟩
  rw [hnone a ha] at hab
  cases hab

lemma inPlace_more (h : PutInto same base items merged) (a : α) (i : Nat) (b : α)
    (hb : base[i]? = some b) :
    merged[i]? = some b ∨ ∃ c ∈ items ++ [a], same c b = true ∧ merged[i]? = some c := by
  refine (h.inPlace i b hb).imp_right ?_
  rintro ⟨c, hc, hcb, hmerged⟩
  exact ⟨c, List.mem_append_left _ hc, hcb, hmerged⟩

/-- An item that replaces no other item. -/
lemma replace (h : PutInto same base items merged) {k : Nat} {x : α} (hk : merged[k]? = some x)
    (hx : same a x = true) (hitems : x ∉ items) :
    PutInto same base (items ++ [a]) (merged.set k a) := by
  have hkmerged : k < merged.length := (List.getElem?_eq_some_iff.mp hk).1
  -- Behind the base there are only items.
  have hklt : k < base.length := by
    by_contra hle
    refine hitems (h.behind.subset (List.mem_of_getElem? (i := k - base.length) ?_))
    rw [List.getElem?_drop, Nat.add_sub_cancel' (not_lt.mp hle), hk]
  refine ⟨fun b hb => ?_, fun i b hb => ?_, ?_⟩
  · obtain hb | hb := List.mem_append.mp hb
    · obtain ⟨j, hj⟩ := List.mem_iff_getElem?.mp (h.present b hb)
      refine List.mem_of_getElem? (i := j) ?_
      rw [List.getElem?_set_ne ?_, hj]
      rintro rfl
      rw [hk] at hj
      cases hj
      exact hitems hb
    · rw [List.mem_singleton.mp hb]
      exact List.mem_set hkmerged a
  · by_cases hki : k = i
    · subst hki
      have hab : same a b = true := by
        obtain hmerged | ⟨c, hc, _, hmerged⟩ := h.inPlace k b hb
        · rw [hk] at hmerged
          cases hmerged
          exact hx
        · rw [hk] at hmerged
          cases hmerged
          exact absurd hc hitems
      exact .inr ⟨a, by simp, hab, List.getElem?_set_self hkmerged⟩
    · rw [List.getElem?_set_ne hki]
      exact h.inPlace_more a i b hb
  · rw [List.drop_set_of_lt hklt]
    exact h.behind.trans (List.sublist_append_left _ _)

lemma append (h : PutInto same base items merged) (a : α) :
    PutInto same base (items ++ [a]) (merged ++ [a]) := by
  refine ⟨fun b hb => ?_, fun i b hb => ?_, ?_⟩
  · obtain hb | hb := List.mem_append.mp hb
    · exact List.mem_append_left _ (h.present b hb)
    · exact List.mem_append_right _ hb
  · have hi : i < merged.length := (List.getElem?_eq_some_iff.mp hb).1.trans_le h.length_le
    rw [List.getElem?_append_left hi]
    exact h.inPlace_more a i b hb
  · rw [List.drop_append_of_le_length h.length_le]
    exact h.behind.append (List.Sublist.refl _)

/-- The step: the item displaces no other one, as it is the same as none of them. -/
lemma concat (h : PutInto same base items merged) (hapart : ∀ b ∈ items, same a b = false) :
    PutInto same base (items ++ [a]) (put (same a) a merged) := by
  obtain ⟨k, x, hk, hx, hput⟩ | ⟨_, hput⟩ := put_cases (same a) a merged
  · rw [hput]
    refine h.replace hk hx fun hmem => ?_
    rw [hapart x hmem] at hx
    cases hx
  · rw [hput]
    exact h.append a

end PutInto

lemma putInto_putAll (h : Apart same items) (base : List α) :
    PutInto same base items (putAll same base items) := by
  induction items using List.reverseRecOn with
  | nil =>
    refine ⟨by simp, fun i b hb => .inl hb, ?_⟩
    rw [putAll, List.foldl_nil, List.drop_length]
  | append_singleton items a ih =>
    obtain ⟨hitems, _, hlast⟩ := List.pairwise_append.mp h.pairwise
    rw [putAll, List.foldl_append]
    refine (ih ⟨h.refl, h.symm, hitems⟩).concat fun b hb => ?_
    rw [h.symm]
    exact hlast b hb a (List.mem_singleton_self a)

end KeyedList

/-- No port of the override is lost, and none of the service's but those that are matched. -/
theorem ServiceSpec.ports_overlay {base patch : ServiceSpec}
    (h : (patch.ports.getD []).Pairwise fun p q => p.isSame q = false) :
    KeyedList.PutInto ServicePort.isSame (base.ports.getD []) (patch.ports.getD [])
        ((base.overlay patch).ports.getD []) ∧
      ∀ (i : Nat) q, (base.ports.getD [])[i]? = some q →
        (∀ p ∈ patch.ports.getD [], p.isSame q = false) →
          ((base.overlay patch).ports.getD [])[i]? = some q := by
  have hports : (base.overlay patch).ports.getD [] =
      KeyedList.putAll ServicePort.isSame (base.ports.getD []) (patch.ports.getD []) :=
    KeyedList.getD_merge? (fun _ => rfl) base.ports patch.ports
  have hput := KeyedList.putInto_putAll
    ⟨ServicePort.isSame_self, ServicePort.isSame_comm, h⟩ (base.ports.getD [])
  rw [hports]
  exact ⟨hput, fun i q => hput.unmatched⟩

/-- A port of the number, which may have a name. -/
def ServicePort.numbered (port : Int32) (name : Option String) : ServicePort :=
  { (default : ServicePort) with port, name }

def ServiceSpec.listening (ports : List ServicePort) : ServiceSpec :=
  { (default : ServiceSpec) with ports := some ports }

/-- Two ports of one number and one of another. -/
def ServiceSpec.doubled : ServiceSpec :=
  listening [.numbered 80 (some "http"), .numbered 80 (some "web"), .numbered 443 (some "tls")]

/-- An unnamed port that matches two, and a named one whose number does not count. -/
def ServiceSpec.renumbering : ServiceSpec :=
  listening [.numbered 80 none, .numbered 443 (some "https")]

theorem ServiceSpec.ports_overlay_renumbering :
    (renumbering.ports.getD []).Pairwise (fun p q => p.isSame q = false) ∧
      .numbered 80 none ∈ (doubled.overlay renumbering).ports.getD [] ∧
      .numbered 443 (some "https") ∈ (doubled.overlay renumbering).ports.getD [] ∧
      ((doubled.overlay renumbering).ports.getD [])[2]? = some (.numbered 443 (some "tls")) := by
  have hapart : (renumbering.ports.getD []).Pairwise (fun p q => p.isSame q = false) := by decide
  obtain ⟨hput, hunmatched⟩ := @ports_overlay doubled renumbering hapart
  exact ⟨hapart, hput.present _ (by decide), hput.present _ (by decide),
    hunmatched 2 _ rfl (by decide)⟩

end Manifests
