import Mathlib.Data.List.Basic
import Manifests.Proofs.Overlay.Container

/-! Containers under overrides.  Where the unnamed overrides come first and the named ones have
names of their own, every container is reached by at most one of each, and what reaches none is
added. -/
namespace Manifests

/-- Unnamed overrides before named ones, which have names of their own.  What reaches one container,
an unnamed one or a named one or both, removes its variables for good. -/
structure Orderly (us ns : List Container) : Prop where
  unnamed : ∀ u ∈ us, u.name = ""
  named : ∀ n ∈ ns, n.name ≠ ""
  distinct : ns.Pairwise fun m n => m.name ≠ n.name
  removesUnnamed : ∀ u ∈ us, RemovesForGood u.vars
  removesNamed : ∀ n ∈ ns, RemovesForGood n.vars
  removesBoth : ∀ u ∈ us, ∀ n ∈ ns, RemovesForGood (u.vars ++ n.vars)

section Lists
variable {us ns : List Container} {c n : Container}

lemma Orderly.next (h : Orderly us ns) (p : Container → Bool) : Orderly us.tail (ns.filter p) where
  unnamed u hu := h.unnamed u (List.mem_of_mem_tail hu)
  named n hn := h.named n (List.mem_filter.mp hn).1
  distinct := h.distinct.filter p
  removesUnnamed u hu := h.removesUnnamed u (List.mem_of_mem_tail hu)
  removesNamed n hn := h.removesNamed n (List.mem_filter.mp hn).1
  removesBoth u hu n hn :=
    h.removesBoth u (List.mem_of_mem_tail hu) n (List.mem_filter.mp hn).1

/-- A container under an override that may be missing. -/
def Container.overlay? (c : Container) : Option Container → Container
  | none => c
  | some p => c.overlay p

@[simp] lemma Container.name_overlay (c p : Container) : (c.overlay p).name = c.name := rfl

@[simp] lemma Container.name_overlay? (c : Container) (p : Option Container) :
    (c.overlay? p).name = c.name := by
  cases p <;> rfl

/-- The containers under overrides, one after the other, each under the next unnamed override and
under the one of its name. -/
def layAll (us ns : List Container) : List Container → List Container
  | [] => us ++ ns
  | c :: rest =>
    (c.overlay? us.head?).overlay? (ns.find? (·.name == c.name)) ::
      layAll us.tail (ns.filter (·.name != c.name)) rest

/-- The overrides that reach no container. -/
def added (us ns : List Container) : List Container → List Container
  | [] => us ++ ns
  | c :: rest => added us.tail (ns.filter (·.name != c.name)) rest

lemma mem_added_iff {base : List Container} :
    c ∈ added us ns base ↔
      c ∈ us.drop base.length ∨ c ∈ ns ∧ ∀ b ∈ base, b.name ≠ c.name := by
  induction base generalizing us ns with
  | nil => simp [added]
  | cons b rest ih =>
    rw [added, ih, List.length_cons, List.drop_tail, List.mem_filter, bne_iff_ne,
      List.forall_mem_cons, and_assoc, ne_comm (a := c.name)]

/-! #### The result of all overrides -/

lemma overlayContainers_append (index : Nat) (base ps qs : List Container) :
    overlayContainers index base (ps ++ qs) =
      overlayContainers (index + ps.length) (overlayContainers index base ps) qs := by
  induction ps generalizing index base with
  | nil => rfl
  | cons p ps ih =>
    rw [List.cons_append, overlayContainers, overlayContainers, ih, List.length_cons]
    congr 1
    omega

def layUnnamed : List Container → List Container → List Container
  | us, [] => us
  | us, c :: rest => c.overlay? us.head? :: layUnnamed us.tail rest

lemma layUnnamed_nil (rest : List Container) : layUnnamed [] rest = rest := by
  induction rest with
  | nil => rfl
  | cons c rest ih => exact congrArg (c :: ·) ih

/-- Unnamed overrides take the containers behind those in front by their order. -/
lemma overlayContainers_unnamed (hus : ∀ u ∈ us, u.name = "") (front rest : List Container) :
    overlayContainers front.length (front ++ rest) us = front ++ layUnnamed us rest := by
  induction us generalizing front rest with
  | nil => rw [overlayContainers, layUnnamed_nil]
  | cons u us ih =>
    obtain ⟨hu, hus⟩ := List.forall_mem_cons.mp hus
    have hnext : ∀ (c : Container) (rest : List Container),
        overlayContainers (front.length + 1) (front ++ c :: rest) us =
          front ++ c :: layUnnamed us rest := by
      intro c rest
      have h := ih hus (front ++ [c]) rest
      rwa [List.length_append, List.length_singleton, List.append_assoc, List.append_assoc] at h
    rw [overlayContainers, overriddenAt?, if_pos hu]
    cases rest with
    | nil =>
      rw [List.append_nil, if_neg (Nat.lt_irrefl _)]
      exact hnext u []
    | cons c rest =>
      rw [if_pos (by simp)]
      have hmodify : (front ++ c :: rest).modify front.length (·.overlay u) =
          front ++ c.overlay u :: rest := by
        rw [List.modify_eq_take_drop, List.take_left, List.drop_left]
        rfl
      dsimp only
      rw [hmodify]
      exact hnext (c.overlay u) rest

/-- A named override takes the first container of its name, or is added. -/
def layNamed (n : Container) : List Container → List Container
  | [] => [n]
  | c :: rest => if c.name == n.name then c.overlay n :: rest else c :: layNamed n rest

lemma overlayContainers_cons_named (hn : n.name ≠ "") (index : Nat) (base rest : List Container) :
    overlayContainers index base (n :: rest) =
      overlayContainers (index + 1) (layNamed n base) rest := by
  rw [overlayContainers, overriddenAt?, if_neg hn]
  congr 1
  induction base with
  | nil => rfl
  | cons c base ih =>
    rw [List.findIdx?_cons, layNamed]
    by_cases hc : (c.name == n.name) = true
    · rw [if_pos hc, if_pos hc]
      rfl
    · rw [if_neg hc, if_neg hc, ← ih]
      cases base.findIdx? (·.name == n.name) <;> rfl

lemma layNamed_append {front : List Container} (h : ∀ c ∈ front, c.name ≠ n.name)
    (rest : List Container) : layNamed n (front ++ rest) = front ++ layNamed n rest := by
  induction front with
  | nil => rfl
  | cons c front ih =>
    obtain ⟨hc, hfront⟩ := List.forall_mem_cons.mp h
    rw [List.cons_append, layNamed, if_neg (by simpa using hc), ih hfront]
    rfl

lemma layNamed_of_forall_ne {base : List Container} (h : ∀ c ∈ base, c.name ≠ n.name) :
    layNamed n base = base ++ [n] := by
  have happend := layNamed_append h []
  rwa [List.append_nil] at happend

/-- The named overrides behind the unnamed ones. -/
def layAllNamed (ns base : List Container) : List Container :=
  ns.foldl (fun base n => layNamed n base) base

lemma overlayContainers_named (hns : ∀ n ∈ ns, n.name ≠ "") (index : Nat) (base : List Container) :
    overlayContainers index base ns = layAllNamed ns base := by
  induction ns generalizing index base with
  | nil => rfl
  | cons n ns ih =>
    obtain ⟨hn, hns⟩ := List.forall_mem_cons.mp hns
    rw [overlayContainers_cons_named hn]
    exact ih hns _ _

lemma layAllNamed_of_forall_ne {base : List Container} (hdistinct : ns.Pairwise (·.name ≠ ·.name))
    (h : ∀ n ∈ ns, ∀ c ∈ base, c.name ≠ n.name) : layAllNamed ns base = base ++ ns := by
  induction ns generalizing base with
  | nil => exact (List.append_nil base).symm
  | cons n ns ih =>
    obtain ⟨hn, hdistinct⟩ := List.pairwise_cons.mp hdistinct
    obtain ⟨hbase, h⟩ := List.forall_mem_cons.mp h
    change layAllNamed ns (layNamed n base) = _
    rw [layNamed_of_forall_ne hbase, ih hdistinct, List.append_assoc]
    · rfl
    · intro m hm c hc
      obtain hc | hc := List.mem_append.mp hc
      · exact h m hm c hc
      · rw [List.mem_singleton.mp hc]
        exact hn m hm

/-- The first container goes under the override of its name, which is of no use for the others. -/
lemma layAllNamed_cons (hdistinct : ns.Pairwise (·.name ≠ ·.name)) (c : Container)
    (rest : List Container) :
    layAllNamed ns (c :: rest) =
      c.overlay? (ns.find? (·.name == c.name)) ::
        layAllNamed (ns.filter (·.name != c.name)) rest := by
  induction ns generalizing c rest with
  | nil => rfl
  | cons n ns ih =>
    obtain ⟨hn, hdistinct⟩ := List.pairwise_cons.mp hdistinct
    change layAllNamed ns (layNamed n (c :: rest)) = _
    rw [layNamed, List.find?_cons, List.filter_cons]
    by_cases hname : n.name = c.name
    · have hnone : ns.find? (·.name == c.name) = none := by
        rw [List.find?_eq_none]
        intro m hm
        rw [← hname]
        simpa using (hn m hm).symm
      have hall : ns.filter (·.name != c.name) = ns := by
        rw [List.filter_eq_self]
        intro m hm
        rw [← hname]
        simpa using (hn m hm).symm
      have hcons := ih hdistinct (c.overlay n) rest
      rw [Container.name_overlay, hnone, hall] at hcons
      simpa [hname, hall, Container.overlay?] using hcons
    · have hne : (n.name == c.name) = false := beq_eq_false_iff_ne.mpr hname
      have hcons := ih hdistinct c (layNamed n rest)
      rw [if_neg (by simpa using Ne.symm hname), if_pos (by simpa using hname), hne]
      exact hcons

theorem overlayContainers_eq_layAll (h : Orderly us ns) (base : List Container) :
    overlayContainers 0 base (us ++ ns) = layAll us ns base := by
  have hunnamed := overlayContainers_unnamed h.unnamed [] base
  rw [List.length_nil, List.nil_append, List.nil_append] at hunnamed
  rw [overlayContainers_append, hunnamed, overlayContainers_named h.named]
  clear hunnamed
  induction base generalizing us ns with
  | nil =>
    refine layAllNamed_of_forall_ne h.distinct fun n hn u hu => ?_
    rw [layUnnamed] at hu
    rw [h.unnamed u hu]
    exact (h.named n hn).symm
  | cons c rest ih =>
    rw [layUnnamed, layAllNamed_cons h.distinct, layAll, Container.name_overlay?, ih (h.next _)]

/-! #### The same overrides again -/

lemma layAll_self (h : Orderly us ns) :
    layAll us ns (us ++ ns) = (us ++ ns).map fun c => c.overlay c := by
  induction us with
  | nil =>
    rw [List.nil_append]
    replace h := h.distinct
    induction ns with
    | nil => rfl
    | cons n ns ih =>
      obtain ⟨hn, hdistinct⟩ := List.pairwise_cons.mp h
      have hothers : (n :: ns).filter (·.name != n.name) = ns := by
        rw [List.filter_cons_of_neg (by simp), List.filter_eq_self]
        intro m hm
        simpa using (hn m hm).symm
      have hself : (n :: ns).find? (·.name == n.name) = some n := by simp
      rw [layAll, hothers, hself, List.tail_nil, ih hdistinct]
      rfl
  | cons u us ih =>
    have hu : u.name = "" := h.unnamed u List.mem_cons_self
    have hnone : ns.find? (·.name == u.name) = none := by
      rw [List.find?_eq_none, hu]
      intro n hn
      simpa using h.named n hn
    have hall : ns.filter (·.name != u.name) = ns := by
      rw [List.filter_eq_self, hu]
      intro n hn
      simpa using h.named n hn
    have hnext := h.next (·.name != u.name)
    rw [hall] at hnext
    rw [List.cons_append, layAll, hnone, hall, List.tail_cons, ih hnext]
    rfl

/-- A container stays as it is under the overrides that it is under already. -/
lemma Orderly.overlay?_overlay? (h : Orderly us ns) {u n : Option Container} (hu : ∀ p ∈ u, p ∈ us)
    (hn : ∀ p ∈ n, p ∈ ns) (c : Container) :
    (((c.overlay? u).overlay? n).overlay? u).overlay? n = (c.overlay? u).overlay? n := by
  cases u with
  | none =>
    cases n with
    | none => rfl
    | some n => exact Container.overlay_overlay (h.removesNamed n (hn n rfl)) c
  | some u =>
    cases n with
    | none => exact Container.overlay_overlay (h.removesUnnamed u (hu u rfl)) c
    | some n =>
      change (((c.overlay u).overlay n).overlay u).overlay n = (c.overlay u).overlay n
      rw [Container.overlay_overlay_eq _ u n, Container.overlay_overlay_eq c u n]
      apply Container.overlay_overlay
      rw [Container.vars_andThen]
      exact h.removesBoth u (hu u rfl) n (hn n rfl)

/-- The same overrides change nothing again exactly if those that were added can be laid over
themselves. -/
theorem layAll_layAll_iff (h : Orderly us ns) (base : List Container) :
    layAll us ns (layAll us ns base) = layAll us ns base ↔
      ∀ c ∈ added us ns base, c.IsSettled := by
  induction base generalizing us ns with
  | nil =>
    have hremoves : ∀ c ∈ us ++ ns, RemovesForGood c.vars :=
      List.forall_mem_append.mpr ⟨h.removesUnnamed, h.removesNamed⟩
    change layAll us ns (us ++ ns) = us ++ ns ↔ ∀ c ∈ us ++ ns, c.IsSettled
    rw [layAll_self h]
    nth_rewrite 2 [← List.map_id (us ++ ns)]
    rw [List.map_inj_left]
    exact forall₂_congr fun c hc => Container.overlay_self_iff (hremoves c hc)
  | cons c rest ih =>
    rw [layAll, layAll, added, ← ih (h.next _), Container.name_overlay?, Container.name_overlay?,
      h.overlay?_overlay? (fun _ => List.mem_of_mem_head?) fun _ hn =>
        List.mem_of_find?_eq_some hn, List.cons.injEq]
    exact and_iff_right rfl

end Lists
end Manifests
