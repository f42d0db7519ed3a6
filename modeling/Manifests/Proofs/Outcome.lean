import Mathlib.Data.List.Forall2
import Manifests.Logged

/-! What a computation returns or fails with, whatever it logs.  A result of a sequence is taken
apart into the results of its steps, and what every step keeps is kept by a whole run. -/
namespace Manifests

variable {α β γ : Type}

lemma Except.bind_eq_ok {ε : Type} {x : Except ε α} {f : α → Except ε β} {b : β} :
    (x >>= f) = .ok b ↔ ∃ a, x = .ok a ∧ f a = .ok b := by
  cases x <;> simp [Bind.bind, Except.bind]

lemma Except.bind_eq_error {ε : Type} {x : Except ε α} {f : α → Except ε β} {error : ε} :
    (x >>= f) = .error error ↔ x = .error error ∨ ∃ a, x = .ok a ∧ f a = .error error := by
  cases x <;> simp [Bind.bind, Except.bind]

lemma Except.exists_eq_ok {ε : Type} {x : Except ε α} (h : x.toOption.isSome = true) :
    ∃ a, x = .ok a := by
  cases x with
  | error error => cases h
  | ok a => exact ⟨a, rfl⟩

/-- What the items of one list say about the related items of another. -/
lemma forall_of_forall₂ {P : α → Prop} {Q : β → Prop} {R : α → β → Prop} {xs : List α}
    {ys : List β} (hR : ∀ {x y}, R x y → P x → Q y) (h : List.Forall₂ R xs ys)
    (hxs : ∀ x ∈ xs, P x) : ∀ y ∈ ys, Q y := by
  induction h with
  | nil => simp
  | cons hxy _ ih =>
    obtain ⟨hx, hxs⟩ := List.forall_mem_cons.mp hxs
    exact List.forall_mem_cons.mpr ⟨hR hxy hx, ih hxs⟩

lemma forall₂_trans {R : α → β → Prop} {S : β → γ → Prop} {T : α → γ → Prop}
    (hRS : ∀ {a b c}, R a b → S b c → T a c) {xs : List α} {ys : List β} {zs : List γ}
    (h : List.Forall₂ R xs ys) (h' : List.Forall₂ S ys zs) : List.Forall₂ T xs zs := by
  induction h generalizing zs with
  | nil =>
    cases h'
    exact .nil
  | cons hxy _ ih =>
    obtain _ | ⟨hyz, htail⟩ := h'
    exact .cons (hRS hxy hyz) (ih htail)

lemma Except.mapM_eq_ok_iff {ε : Type} {f : α → Except ε β} {xs : List α} {ys : List β} :
    xs.mapM f = .ok ys ↔ List.Forall₂ (fun x y => f x = .ok y) xs ys := by
  induction xs generalizing ys with
  | nil => simp [pure, Except.pure, eq_comm]
  | cons x xs ih =>
    rw [List.mapM_cons, List.forall₂_cons_left_iff]
    simp only [Except.bind_eq_ok, ih]
    constructor
    · rintro ⟨y, hy, zs, hzs, ⟨⟩⟩
      exact ⟨y, zs, hy, hzs, rfl⟩
    · rintro ⟨y, zs, hy, hzs, rfl⟩
      exact ⟨y, hy, zs, hzs, rfl⟩

/-- A list of computations fails where one of them does. -/
lemma Except.exists_of_mapM_eq_error {ε : Type} {f : α → Except ε β} {xs : List α} {error : ε}
    (h : xs.mapM f = .error error) : ∃ x ∈ xs, f x = .error error := by
  induction xs with
  | nil => cases h
  | cons x xs ih =>
    rw [List.mapM_cons, Except.bind_eq_error] at h
    obtain h | ⟨y, _, h⟩ := h
    · exact ⟨x, List.mem_cons_self, h⟩
    · obtain h | ⟨ys, _, h⟩ := Except.bind_eq_error.mp h
      · obtain ⟨z, hz, hfail⟩ := ih h
        exact ⟨z, List.mem_cons_of_mem x hz, hfail⟩
      · cases h

lemma Except.exists_of_mem_mapM {ε : Type} {f : α → Except ε β} {xs : List α} {ys : List β}
    (h : xs.mapM f = .ok ys) {y : β} (hy : y ∈ ys) : ∃ x ∈ xs, f x = .ok y :=
  forall_of_forall₂ (P := (· ∈ xs)) (Q := fun y => ∃ x ∈ xs, f x = .ok y)
    (fun hxy hx => ⟨_, hx, hxy⟩) (Except.mapM_eq_ok_iff.mp h) (fun _ => id) y hy

lemma Except.exists_mem_of_mapM {ε : Type} {f : α → Except ε β} {xs : List α} {ys : List β}
    (h : xs.mapM f = .ok ys) {x : α} (hx : x ∈ xs) : ∃ y ∈ ys, f x = .ok y :=
  forall_of_forall₂ (P := (· ∈ ys)) (Q := fun x => ∃ y ∈ ys, f x = .ok y)
    (R := fun y x => f x = .ok y) (fun hxy hy => ⟨_, hy, hxy⟩) (Except.mapM_eq_ok_iff.mp h).flip
    (fun _ => id) x hx

namespace Logged

def Returns (x : Logged α) (a : α) : Prop := x.outcome = .ok a

lemma Returns.unique {x : Logged α} {a b : α} (ha : x.Returns a) (hb : x.Returns b) : a = b :=
  Except.ok.inj (ha.symm.trans hb)

lemma exists_returns {x : Logged α} (h : x.outcome.toOption.isSome = true) : ∃ a, x.Returns a :=
  Except.exists_eq_ok h

lemma exists_returns_of_any {x : Logged α} {p : α → Bool} (h : x.outcome.toOption.any p = true) :
    ∃ a, x.Returns a ∧ p a = true := by
  obtain ⟨outcome, log⟩ := x
  cases outcome with
  | error e => cases h
  | ok a => exact ⟨a, rfl, h⟩

@[simp] lemma returns_pure {a b : α} : (pure a : Logged α).Returns b ↔ a = b := by
  simp [Returns]

@[simp] lemma returns_ofExcept {x : Except Error α} {a : α} :
    (ofExcept x).Returns a ↔ x = .ok a := Iff.rfl

@[simp] lemma returns_info {text : String} {u : Unit} : (info text).Returns u := rfl

@[simp] lemma returns_warn {text : String} {u : Unit} : (warn text).Returns u := rfl

@[simp] lemma returns_throw {e : Error} {a : α} : ¬(throw e : Logged α).Returns a := by
  intro h
  cases h

lemma returns_bind {x : Logged α} {f : α → Logged β} {b : β} :
    (x >>= f).Returns b ↔ ∃ a, x.Returns a ∧ (f a).Returns b := by
  unfold Returns
  rw [outcome_bind]
  exact Except.bind_eq_ok

lemma exists_returns_bind {x : Logged α} {f : α → Logged β} {a : α} (ha : x.Returns a)
    (h : ∃ b, (f a).Returns b) : ∃ b, (x >>= f).Returns b := by
  obtain ⟨b, hb⟩ := h
  exact ⟨b, returns_bind.mpr ⟨a, ha, hb⟩⟩

/-- A result of a list of computations lists their results. -/
lemma returns_mapM {f : α → Logged β} {xs : List α} {ys : List β} :
    (xs.mapM f).Returns ys ↔ List.Forall₂ (fun x y => (f x).Returns y) xs ys := by
  induction xs generalizing ys with
  | nil => simp [eq_comm]
  | cons x xs ih =>
    rw [List.mapM_cons, List.forall₂_cons_left_iff]
    simp only [returns_bind, returns_pure, ih]
    constructor
    · rintro ⟨y, hy, zs, hzs, rfl⟩
      exact ⟨y, zs, hy, hzs, rfl⟩
    · rintro ⟨y, zs, hy, hzs, rfl⟩
      exact ⟨y, hy, zs, hzs, rfl⟩

lemma exists_returns_mapM {f : α → Logged β} (hf : ∀ x, ∃ y, (f x).Returns y) (xs : List α) :
    ∃ ys, (xs.mapM f).Returns ys := by
  choose g hg using hf
  refine ⟨xs.map g, returns_mapM.mpr ?_⟩
  rw [List.forall₂_map_right_iff, List.forall₂_same]
  exact fun x _ => hg x

/-- What is known of the result for every item is known along the list. -/
lemma exists_returns_mapM_forall₂ {f : α → Logged β} {R : α → β → Prop} {xs : List α}
    (h : ∀ x ∈ xs, ∃ y, (f x).Returns y ∧ R x y) :
    ∃ ys, (xs.mapM f).Returns ys ∧ List.Forall₂ R xs ys := by
  induction xs with
  | nil => exact ⟨[], returns_mapM.mpr .nil, .nil⟩
  | cons x xs ih =>
    obtain ⟨⟨y, hy, hR⟩, hxs⟩ := List.forall_mem_cons.mp h
    obtain ⟨ys, hys, hRs⟩ := ih hxs
    exact ⟨y :: ys, returns_mapM.mpr (.cons hy (returns_mapM.mp hys)), .cons hR hRs⟩

lemma forall_of_returns_mapM {P : α → Prop} {Q : β → Prop} {f : α → Logged β} {xs : List α}
    {ys : List β} (hf : ∀ {x y}, (f x).Returns y → P x → Q y) (h : (xs.mapM f).Returns ys)
    (hxs : ∀ x ∈ xs, P x) : ∀ y ∈ ys, Q y :=
  forall_of_forall₂ (R := fun x y => (f x).Returns y) hf (returns_mapM.mp h) hxs

/-- A run of steps that all leave a value alone returns it. -/
lemma returns_foldlM_self {f : β → α → Logged β} {xs : List α} {b : β}
    (h : ∀ x ∈ xs, (f b x).Returns b) : (xs.foldlM f b).Returns b := by
  induction xs with
  | nil => exact returns_pure.mpr rfl
  | cons x xs ih =>
    obtain ⟨hx, hxs⟩ := List.forall_mem_cons.mp h
    rw [List.foldlM_cons, returns_bind]
    exact ⟨b, hx, ih hxs⟩

/-- What every step of a run keeps, related by a preorder, the whole run keeps. -/
lemma returns_foldlM {R : β → β → Prop} (refl : ∀ b, R b b)
    (trans : ∀ {a b c}, R a b → R b c → R a c) {f : β → α → Logged β} {xs : List α}
    (step : ∀ x ∈ xs, ∀ {b c}, (f b x).Returns c → R b c)
    {b c : β} (h : (xs.foldlM f b).Returns c) : R b c := by
  induction xs generalizing b with
  | nil =>
    rw [List.foldlM_nil, returns_pure] at h
    exact h ▸ refl b
  | cons x xs ih =>
    rw [List.foldlM_cons, returns_bind] at h
    obtain ⟨d, hd, h⟩ := h
    exact trans (step x List.mem_cons_self hd)
      (ih (fun y hy => step y (List.mem_cons_of_mem x hy)) h)

/-- What a step establishes from an invariant of the steps before it, and the steps behind it keep,
holds at the end of a run. -/
lemma returns_foldlM_of_mem {I P : β → Prop} {f : β → α → Logged β} {xs : List α} {x : α}
    (hx : x ∈ xs) (keeps : ∀ y ∈ xs, y ≠ x → ∀ {b c}, (f b y).Returns c → I b → I c)
    (establishes : ∀ {b c}, (f b x).Returns c → I b → P c)
    (retains : ∀ y ∈ xs, ∀ {b c}, (f b y).Returns c → P b → P c)
    {b c : β} (hb : I b) (h : (xs.foldlM f b).Returns c) : P c := by
  induction xs generalizing b with
  | nil => cases hx
  | cons y xs ih =>
    rw [List.foldlM_cons, returns_bind] at h
    obtain ⟨d, hd, h⟩ := h
    by_cases hyx : y = x
    · subst hyx
      exact returns_foldlM (R := fun b c => P b → P c) (fun _ => id) (fun hab hbc => hbc ∘ hab)
        (fun z hz _ _ => retains z (List.mem_cons_of_mem y hz)) h (establishes hd hb)
    · have hmem : x ∈ xs := (List.mem_cons.mp hx).resolve_left (Ne.symm hyx)
      exact ih hmem (fun z hz => keeps z (List.mem_cons_of_mem y hz))
        (fun z hz => retains z (List.mem_cons_of_mem y hz)) (keeps y List.mem_cons_self hyx hd hb) h

/-- What each step of a run establishes from what the steps before it keep for it, and the steps
behind it keep, holds at the end. -/
lemma returns_foldlM_forall {I P : α → β → Prop} {f : β → α → Logged β} {xs : List α}
    (prepares : ∀ {x y}, [x, y].Sublist xs → ∀ {b c}, (f b x).Returns c → I y b → I y c)
    (establishes : ∀ x ∈ xs, ∀ {b c}, (f b x).Returns c → I x b → P x c)
    (retains : ∀ {x y}, [x, y].Sublist xs → ∀ {b c}, (f b y).Returns c → P x b → P x c)
    {b c : β} (hb : ∀ x ∈ xs, I x b) (h : (xs.foldlM f b).Returns c) : ∀ x ∈ xs, P x c := by
  induction xs generalizing b with
  | nil => simp
  | cons x xs ih =>
    rw [List.foldlM_cons, returns_bind] at h
    obtain ⟨d, hd, h⟩ := h
    obtain ⟨hx, hxs⟩ := List.forall_mem_cons.mp hb
    have hpair : ∀ y ∈ xs, [x, y].Sublist (x :: xs) := fun y hy =>
      (List.singleton_sublist.mpr hy).cons_cons x
    refine List.forall_mem_cons.mpr ⟨?_, ih (fun hxy => prepares (hxy.cons x))
      (fun y hy => establishes y (List.mem_cons_of_mem x hy)) (fun hxy => retains (hxy.cons x))
      (fun y hy => prepares (hpair y hy) hd (hxs y hy)) h⟩
    exact returns_foldlM (R := fun b c => P x b → P x c) (fun _ => id) (fun hab hbc => hbc ∘ hab)
      (fun y hy _ _ => retains (hpair y hy)) h (establishes x List.mem_cons_self hd hx)

/-! ### Failing -/

def Fails (x : Logged α) (error : Error) : Prop := x.outcome = .error error

lemma Returns.not_fails {x : Logged α} {a : α} {error : Error} (h : x.Returns a) :
    ¬x.Fails error := by
  intro hfails
  cases h.symm.trans hfails

lemma returns_or_fails (x : Logged α) : (∃ a, x.Returns a) ∨ ∃ error, x.Fails error := by
  obtain ⟨outcome, log⟩ := x
  cases outcome with
  | error error => exact .inr ⟨error, rfl⟩
  | ok a => exact .inl ⟨a, rfl⟩

@[simp] lemma fails_pure {a : α} {error : Error} : ¬(pure a : Logged α).Fails error := by
  intro h
  cases h

@[simp] lemma fails_ofExcept {x : Except Error α} {error : Error} :
    (ofExcept x).Fails error ↔ x = .error error := Iff.rfl

/-- A sequence fails with its first step, or behind it. -/
lemma fails_bind {x : Logged α} {f : α → Logged β} {error : Error} :
    (x >>= f).Fails error ↔ x.Fails error ∨ ∃ a, x.Returns a ∧ (f a).Fails error := by
  unfold Fails
  rw [outcome_bind]
  exact Except.bind_eq_error

lemma outcome_mapM (f : α → Logged β) (xs : List α) :
    (xs.mapM f).outcome = xs.mapM fun x => (f x).outcome := by
  induction xs with
  | nil => rfl
  | cons x xs ih =>
    simp only [List.mapM_cons, outcome_bind, outcome_pure, ih]
    rfl

lemma exists_of_fails_mapM {f : α → Logged β} {xs : List α} {error : Error}
    (h : (xs.mapM f).Fails error) : ∃ x ∈ xs, (f x).Fails error := by
  rw [Fails, outcome_mapM] at h
  exact Except.exists_of_mapM_eq_error h

lemma exists_of_fails_foldlM {f : β → α → Logged β} {xs : List α} {b : β} {error : Error}
    (h : (xs.foldlM f b).Fails error) : ∃ x ∈ xs, ∃ c, (f c x).Fails error := by
  induction xs generalizing b with
  | nil => simp at h
  | cons x xs ih =>
    rw [List.foldlM_cons, fails_bind] at h
    obtain h | ⟨c, _, h⟩ := h
    · exact ⟨x, List.mem_cons_self, b, h⟩
    · obtain ⟨y, hy, d, hfail⟩ := ih h
      exact ⟨y, List.mem_cons_of_mem x hy, d, hfail⟩

end Logged
end Manifests
