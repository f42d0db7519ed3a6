import Manifests.Config.Selection
import Manifests.Proofs.Outcome

/-! Which processors a selection makes run. -/
namespace Manifests.Config.Selection

variable {α : Type} {s : Selection} {nameOf : α → String} {items active : List α} {kind : String}

/-- The items that run, in order: the last one of each name that is included, whatever is excluded,
and with no includes all that are not excluded. -/
def Chooses (s : Selection) (nameOf : α → String) (items active : List α) : Prop :=
  match s.includes with
  | none => active = items.filter fun item => !s.excludes.contains (nameOf item)
  | some names =>
    List.Forall₂ (fun name item => items.reverse.find? (nameOf · == name) = some item) names active

lemma chooses_iff_of_some {names : List String} (h : s.includes = some names) :
    s.Chooses nameOf items active ↔ List.Forall₂
      (fun name item => items.reverse.find? (nameOf · == name) = some item) names active := by
  unfold Chooses
  rw [h]

lemma order_eq_ok_iff {names : List String} (h : s.includes = some names) :
    s.order kind nameOf items = .ok active ↔ s.Chooses nameOf items active := by
  unfold order
  rw [h, chooses_iff_of_some h]
  refine Except.mapM_eq_ok_iff.trans (iff_of_eq (congrArg (List.Forall₂ · names active) ?_))
  funext name item
  cases items.reverse.find? (nameOf · == name) <;> simp

/-- What is included is not left out again. -/
lemma filter_uses_of_chooses {names : List String} (h : s.includes = some names)
    (hactive : s.Chooses nameOf items active) :
    (active.filter fun item => s.uses (nameOf item)) = active := by
  refine List.filter_eq_self.mpr ?_
  refine forall_of_forall₂ (P := (· ∈ names)) ?_ ((chooses_iff_of_some h).mp hactive) fun _ => id
  intro name item hfind hname
  have hitem := List.find?_some hfind
  unfold uses
  rw [h, beq_iff_eq.mp hitem]
  exact List.contains_iff_mem.mpr hname

lemma prepare_eq_ok_iff :
    s.prepare kind nameOf items = .ok active ↔ s.Chooses nameOf items active := by
  unfold prepare
  rw [Except.bind_eq_ok]
  cases h : s.includes with
  | none =>
    have huses : ∀ item, s.uses (nameOf item) = !s.excludes.contains (nameOf item) := by
      intro item
      unfold uses
      rw [h]
    unfold order Chooses
    simp only [h, huses]
    constructor
    · rintro ⟨_, ⟨⟩, ⟨⟩⟩
      rfl
    · rintro rfl
      exact ⟨items, rfl, rfl⟩
  | some names =>
    constructor
    · rintro ⟨ordered, hordered, ⟨⟩⟩
      have hchooses := (order_eq_ok_iff h).mp hordered
      rwa [filter_uses_of_chooses h hchooses]
    · intro hchooses
      refine ⟨active, (order_eq_ok_iff h).mpr hchooses, ?_⟩
      exact congrArg Except.ok (filter_uses_of_chooses h hchooses)

/-- Nothing runs but what there is to choose from. -/
lemma mem_of_prepare (h : s.prepare kind nameOf items = .ok active) :
    ∀ item ∈ active, item ∈ items := by
  have hchooses := prepare_eq_ok_iff.mp h
  unfold Chooses at hchooses
  split at hchooses
  next =>
    rw [hchooses]
    exact fun item hitem => List.mem_of_mem_filter hitem
  next names hincludes =>
    refine forall_of_forall₂ (P := fun _ => True) ?_ hchooses fun _ _ => trivial
    intro name item hfind _
    exact List.mem_reverse.mp (List.mem_of_find?_eq_some hfind)

end Manifests.Config.Selection
