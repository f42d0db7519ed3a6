import Mathlib.Data.List.Induction
import Mathlib.Tactic.Lemma
import Manifests.KeyedList

/-! Putting the same items twice.  It changes nothing as soon as the items tell each other apart by
an equivalence, whatever stands in the list already. -/
namespace Manifests.KeyedList

variable {α : Type}

/-! ### The first match after an item is put -/

section Put
variable {f g : α → Bool} {a b x y : α} {l : List α}

lemma find?_put_self (h : f a = true) : (put f a l).find? f = some a := by
  induction l with
  | nil => simp [put, h]
  | cons c rest ih =>
    rw [put]
    split
    · simp [h]
    next hc => simp [hc, ih]

/-- The item that is put takes over where it stands in the place of the first match or before. -/
lemma find?_put_of_match (h : l.find? f = some x) (hx : g x = true) (ha : f a = true) :
    (put g a l).find? f = some a := by
  induction l with
  | nil => cases h
  | cons c rest ih =>
    rw [put]
    split
    · simp [ha]
    next hc =>
      rw [List.find?_cons] at h ⊢
      cases hf : f c with
      | true =>
        rw [hf] at h
        cases h
        exact absurd hx hc
      | false =>
        rw [hf] at h
        exact ih h

lemma find?_put_of_not_match (h : l.find? f = some x) (hx : g x = false) (ha : f a = false) :
    (put g a l).find? f = some x := by
  induction l with
  | nil => cases h
  | cons c rest ih =>
    rw [List.find?_cons] at h
    rw [put]
    cases hf : f c with
    | true =>
      rw [hf] at h
      cases h
      simp [hx, hf]
    | false =>
      rw [hf] at h
      split
      · simpa [ha] using h
      · simpa [hf] using ih h

lemma put_of_find?_eq_self (h : l.find? f = some a) : put f a l = l := by
  induction l with
  | nil => cases h
  | cons c rest ih =>
    rw [List.find?_cons] at h
    rw [put]
    cases hf : f c with
    | true =>
      rw [hf] at h
      cases h
      rfl
    | false =>
      rw [hf] at h
      exact congrArg (c :: ·) (ih h)

/-- An item that goes where another one was just put makes the latter forgotten. -/
lemma put_put_of_same (hf : l.find? f = some x) (hx : g x = true) (hg : l.find? g = some y)
    (hy : f y = true) (ha : g a = true) : put g b (put f a l) = put g b l := by
  induction l with
  | nil => cases hf
  | cons c rest ih =>
    rw [List.find?_cons] at hf hg
    cases hfc : f c with
    | true =>
      rw [hfc] at hf
      cases hf
      simp [put, hfc, ha, hx]
    | false =>
      rw [hfc] at hf
      cases hgc : g c with
      | true =>
        rw [hgc] at hg
        cases hg
        rw [hfc] at hy
        cases hy
      | false =>
        rw [hgc] at hg
        simp [put, hfc, hgc, ih hf hg]

lemma put_comm_of_apart (hf : l.find? f = some x) (hx : g x = false) (ha : g a = false)
    (hb : f b = false) : put g b (put f a l) = put f a (put g b l) := by
  induction l with
  | nil => cases hf
  | cons c rest ih =>
    rw [List.find?_cons] at hf
    cases hfc : f c with
    | true =>
      rw [hfc] at hf
      cases hf
      simp [put, hfc, ha, hx]
    | false =>
      rw [hfc] at hf
      cases hgc : g c with
      | true => simp [put, hfc, hgc, hb]
      | false => simp [put, hfc, hgc, ih hf]

end Put

/-! ### Items that an equivalence tells apart -/

/-- Being the same is an equivalence among the items. -/
structure TellsApart (same : α → α → Bool) (items : List α) : Prop where
  refl : ∀ a ∈ items, same a a = true
  symm : ∀ a ∈ items, ∀ b ∈ items, same a b = true → same b a = true
  trans : ∀ a ∈ items, ∀ b ∈ items, ∀ c ∈ items, same a b = true → same b c = true →
    same a c = true

/-- Every item finds one of the items in its place. -/
def Placed (same : α → α → Bool) (items l : List α) : Prop :=
  ∀ a ∈ items, ∃ x ∈ items, l.find? (same a) = some x

/-- Every item finds the last of the items that are the same in its place. -/
def Settled (same : α → α → Bool) (items l : List α) : Prop :=
  ∀ a ∈ items, l.find? (same a) = items.reverse.find? (same a)

section PutAll
variable {same : α → α → Bool} {items : List α} {a b : α}

lemma TellsApart.subset (h : TellsApart same items) {fewer : List α} (hsub : fewer ⊆ items) :
    TellsApart same fewer where
  refl a ha := h.refl a (hsub ha)
  symm a ha b hb := h.symm a (hsub ha) b (hsub hb)
  trans a ha b hb c hc := h.trans a (hsub ha) b (hsub hb) c (hsub hc)

lemma TellsApart.of_key {κ : Type} [DecidableEq κ] (key : α → κ)
    (hsame : ∀ a b, same a b = true ↔ key a = key b) (items : List α) : TellsApart same items where
  refl a _ := (hsame a a).mpr rfl
  symm a _ b _ h := (hsame b a).mpr ((hsame a b).mp h).symm
  trans a _ b _ c _ h h' := (hsame a c).mpr (((hsame a b).mp h).trans ((hsame b c).mp h'))

/-- An item is the same as another one or apart from it together with all that are the same. -/
lemma TellsApart.same_congr (h : TellsApart same items) {c : α} (ha : a ∈ items) (hb : b ∈ items)
    (hc : c ∈ items) (hab : same a b = true) : same a c = same b c := by
  rw [Bool.eq_iff_iff]
  exact ⟨h.trans b hb a ha c hc (h.symm a ha b hb hab), h.trans a ha b hb c hc hab⟩

lemma TellsApart.apart (h : TellsApart same items) {c : α} (ha : a ∈ items) (hb : b ∈ items)
    (hc : c ∈ items) (hac : same a c = true) (hab : same a b = false) : same b c = false := by
  rw [← Bool.not_eq_true] at hab ⊢
  exact fun hbc => hab (h.trans a ha c hc b hb hac (h.symm b hb c hc hbc))

lemma Placed.put (h : TellsApart same items) {l : List α} (hl : Placed same items l)
    (hb : b ∈ items) : Placed same items (put (same b) b l) := by
  intro a ha
  obtain ⟨x, hx, hfind⟩ := hl a ha
  have hax : same a x = true := List.find?_some hfind
  cases hab : same a b with
  | true =>
    refine ⟨b, hb, find?_put_of_match hfind ?_ hab⟩
    rwa [← h.same_congr ha hb hx hab]
  | false => exact ⟨x, hx, find?_put_of_not_match hfind (h.apart ha hb hx hax hab) hab⟩

/-- An item that is put is forgotten when one that is the same follows. -/
lemma putAll_put (h : TellsApart same items) {l rest : List α} (hl : Placed same items l)
    (ha : a ∈ items) (hrest : rest ⊆ items) (hsame : ∃ b ∈ rest, same a b = true) :
    putAll same (put (same a) a l) rest = putAll same l rest := by
  induction rest generalizing l with
  | nil =>
    obtain ⟨b, hb, _⟩ := hsame
    cases hb
  | cons b rest ih =>
    obtain ⟨hb, hsub⟩ := List.cons_subset.mp hrest
    obtain ⟨x, hx, hfa⟩ := hl a ha
    obtain ⟨y, hy, hfb⟩ := hl b hb
    have hax : same a x = true := List.find?_some hfa
    have hby : same b y = true := List.find?_some hfb
    change putAll same (put (same b) b (put (same a) a l)) rest =
      putAll same (put (same b) b l) rest
    cases hab : same a b with
    | true =>
      have hbx : same b x = true := by rwa [← h.same_congr ha hb hx hab]
      have hay : same a y = true := by rwa [h.same_congr ha hb hy hab]
      rw [put_put_of_same hfa hbx hfb hay (h.symm a ha b hb hab)]
    | false =>
      have hba : same b a = false := h.apart ha hb ha (h.refl a ha) hab
      rw [put_comm_of_apart hfa (h.apart ha hb hx hax hab) hba hab]
      refine ih (hl.put h hb) hsub ?_
      obtain ⟨c, hc, hac⟩ := hsame
      obtain rfl | hc := List.mem_cons.mp hc
      · rw [hac] at hab
        cases hab
      · exact ⟨c, hc, hac⟩

lemma Settled.placed (h : TellsApart same items) {l : List α} (hl : Settled same items l) :
    Placed same items l := by
  intro a ha
  obtain ⟨x, hx⟩ : ∃ x, items.reverse.find? (same a) = some x := by
    rw [← Option.isSome_iff_exists, List.find?_isSome]
    exact ⟨a, List.mem_reverse.mpr ha, h.refl a ha⟩
  exact ⟨x, List.mem_reverse.mp (List.mem_of_find?_eq_some hx), (hl a ha).trans hx⟩

/-- The step of a first round: the items stay settled with one more of them. -/
lemma Settled.put {l : List α} (h : TellsApart same (items ++ [b])) (hl : Settled same items l) :
    Settled same (items ++ [b]) (put (same b) b l) := by
  intro a ha
  have hb : b ∈ items ++ [b] := List.mem_append_right items (List.mem_singleton_self b)
  rw [List.reverse_append, List.reverse_singleton, List.singleton_append, List.find?_cons]
  cases hab : same a b with
  | true =>
    obtain ha' | ha' := List.mem_append.mp ha
    · obtain ⟨x, hx, hfind⟩ := hl.placed (h.subset (List.subset_append_left items [b])) a ha'
      have hax : same a x = true := List.find?_some hfind
      refine find?_put_of_match hfind ?_ hab
      rwa [← h.same_congr ha hb (List.mem_append_left [b] hx) hab]
    · cases List.mem_singleton.mp ha'
      exact find?_put_self hab
  | false =>
    have ha' : a ∈ items := by
      refine (List.mem_append.mp ha).resolve_right fun ha' => ?_
      cases List.mem_singleton.mp ha'
      rw [h.refl _ ha] at hab
      cases hab
    obtain ⟨x, hx, hfind⟩ := hl.placed (h.subset (List.subset_append_left items [b])) a ha'
    have hax : same a x = true := List.find?_some hfind
    have hx' := List.mem_append_left [b] hx
    dsimp only
    rw [← hl a ha', hfind]
    exact find?_put_of_not_match hfind (h.apart ha hb hx' hax hab) hab

lemma settled_putAll (h : TellsApart same items) (base : List α) :
    Settled same items (putAll same base items) := by
  induction items using List.reverseRecOn with
  | nil => simp [Settled]
  | append_singleton items b ih =>
    rw [putAll, List.foldl_append]
    exact (ih (h.subset (List.subset_append_left items [b]))).put h

/-- The step of a second round: an item that is the last of its like is in its place, and others
are forgotten. -/
lemma putAll_eq_self (h : TellsApart same items) {l : List α} (hl : Settled same items l) :
    putAll same l items = l := by
  induction items with
  | nil => rfl
  | cons a rest ih =>
    have hsub : rest ⊆ a :: rest := List.subset_cons_self a rest
    have hrest : Settled same rest l := by
      intro b hb
      rw [hl b (hsub hb), List.reverse_cons, List.find?_append]
      have hsome : (rest.reverse.find? (same b)).isSome = true := by
        rw [List.find?_isSome]
        exact ⟨b, List.mem_reverse.mpr hb, h.refl b (hsub hb)⟩
      rw [Option.or_of_isSome hsome]
    have hround := ih (h.subset hsub) hrest
    change putAll same (put (same a) a l) rest = l
    by_cases hsame : ∃ b ∈ rest, same a b = true
    · rw [putAll_put h (hl.placed h) List.mem_cons_self hsub hsame, hround]
    · have hnone : rest.reverse.find? (same a) = none := by
        rw [List.find?_eq_none]
        intro b hb hab
        exact hsame ⟨b, List.mem_reverse.mp hb, hab⟩
      have hself : l.find? (same a) = some a := by
        rw [hl a List.mem_cons_self, List.reverse_cons, List.find?_append, hnone]
        simp [h.refl a List.mem_cons_self]
      rw [put_of_find?_eq_self hself, hround]

theorem putAll_putAll (h : TellsApart same items) (base : List α) :
    putAll same (putAll same base items) items = putAll same base items :=
  putAll_eq_self h (settled_putAll h base)

end PutAll

/-! ### Optional lists -/

lemma merge?_merge?_self {merge : List α → List α → List α} {p : Option (List α)}
    (h : ∀ b, merge (merge b (p.getD [])) (p.getD []) = merge b (p.getD [])) (b : Option (List α)) :
    merge? merge (merge? merge b p) p = merge? merge b p := by
  cases p with
  | none => rfl
  | some p => exact congrArg some (h _)

lemma merge?_self_iff {merge : List α → List α → List α} {p : Option (List α)}
    (hnil : merge [] [] = []) :
    merge? merge p p = p ↔ merge (p.getD []) (p.getD []) = p.getD [] := by
  cases p with
  | none => simp [merge?, hnil]
  | some p => simp [merge?]

end Manifests.KeyedList
