import Manifests.Overlay.Pod
import Manifests.Proofs.Overlay.KeyedLists

/-! Variables under an override.  One that removes no variable to set it again behind amounts to
putting what it leaves into what it leaves of the present variables. -/
namespace Manifests

namespace KeyedList

variable {α : Type} {same : α → α → Bool} {p : α → Bool}

lemma filter_put (hp : ∀ a b, same a b = true → p b = p a) (item : α) (l : List α) :
    (put (same item) item l).filter p =
      if p item then put (same item) item (l.filter p) else l.filter p := by
  induction l with
  | nil => exact List.filter_cons
  | cons a rest ih =>
    rw [put]
    cases hsame : same item a with
    | true =>
      have hpa := hp item a hsame
      by_cases hitem : p item = true <;> simp [hitem, hpa, put, hsame]
    | false =>
      by_cases hpa : p a = true <;> by_cases hitem : p item = true <;>
        simp [hpa, hitem, put, hsame, ih]

/-- A choice that goes by the key can be made before items are put or afterwards. -/
lemma filter_putAll (hp : ∀ a b, same a b = true → p b = p a) (base items : List α) :
    (putAll same base items).filter p = putAll same (base.filter p) (items.filter p) := by
  induction items generalizing base with
  | nil => rfl
  | cons item items ih =>
    change (putAll same (put (same item) item base) items).filter p = _
    rw [ih, filter_put hp, List.filter_cons]
    split <;> rfl

/-- Items that are put into themselves stay as they are if the first and the last that are the same
are equal. -/
lemma putAll_self_iff {items : List α} (h : TellsApart same items) :
    putAll same items items = items ↔ Settled same items items := by
  constructor
  · intro heq
    have hsettled := settled_putAll h items
    rwa [heq] at hsettled
  · exact putAll_eq_self h

end KeyedList

def EnvVar.sameName (v w : EnvVar) : Bool := w.name == v.name

/-- No variable is removed and set again behind. -/
def RemovesForGood (vars : List EnvVar) : Prop :=
  vars.Pairwise fun v w => v.isEmpty = true → v.name = w.name → w.isEmpty = true

instance (vars : List EnvVar) : Decidable (RemovesForGood vars) :=
  inferInstanceAs (Decidable (vars.Pairwise _))

/-- Whether nothing removes the variables of the name. -/
def leaves (vars : List EnvVar) (v : EnvVar) : Bool :=
  vars.all fun w => !(w.isEmpty && w.name == v.name)

section Variables
variable {vars init : List EnvVar} {v w : EnvVar}

lemma tellsApart_sameName (vars : List EnvVar) : KeyedList.TellsApart EnvVar.sameName vars :=
  .of_key EnvVar.name (fun _ _ => beq_iff_eq.trans eq_comm) vars

lemma leaves_congr (h : EnvVar.sameName v w = true) : leaves vars w = leaves vars v := by
  unfold leaves
  rw [beq_iff_eq.mp h]

lemma leaves_append_of_isEmpty (hv : v.isEmpty = true) :
    leaves (init ++ [v]) w = (leaves init w && w.name != v.name) := by
  unfold leaves
  rw [List.all_append, List.all_cons, List.all_nil, Bool.and_true, hv, Bool.true_and]
  congr 2
  exact BEq.comm

lemma leaves_append_of_not_isEmpty (hv : v.isEmpty = false) :
    leaves (init ++ [v]) w = leaves init w := by
  simp [leaves, hv]

lemma overlayVariables_append (base : List EnvVar) (init rest : List EnvVar) :
    overlayVariables base (init ++ rest) = overlayVariables (overlayVariables base init) rest :=
  List.foldl_append

lemma overlayVariables_eq (h : RemovesForGood vars) (base : List EnvVar) :
    overlayVariables base vars =
      KeyedList.putAll EnvVar.sameName (base.filter (leaves vars)) (vars.filter (leaves vars)) := by
  induction vars using List.reverseRecOn with
  | nil => exact (List.filter_eq_self.mpr fun _ _ => rfl).symm
  | append_singleton init v ih =>
    obtain ⟨hinit, _, hlast⟩ := List.pairwise_append.mp h
    rw [overlayVariables_append, ih hinit]
    change overlayVariable _ v = _
    unfold overlayVariable
    by_cases hv : v.isEmpty = true
    · have hfilter : ∀ l : List EnvVar,
          l.filter (leaves (init ++ [v])) = (l.filter (leaves init)).filter (·.name != v.name) := by
        intro l
        rw [List.filter_filter]
        congr 1
        funext w
        rw [leaves_append_of_isEmpty hv, Bool.and_comm]
      have hkey : ∀ a b : EnvVar, EnvVar.sameName a b = true →
          (b.name != v.name) = (a.name != v.name) := by
        intro a b hab
        rw [beq_iff_eq.mp hab]
      rw [if_pos hv, KeyedList.filter_putAll hkey, ← hfilter, ← hfilter, List.filter_append]
      congr 1
      simp [leaves_append_of_isEmpty hv]
    · have hv' : v.isEmpty = false := by simpa using hv
      have hleaves : leaves (init ++ [v]) = leaves init := by
        funext w
        exact leaves_append_of_not_isEmpty hv'
      have hself : leaves init v = true := by
        unfold leaves
        rw [List.all_eq_true]
        intro w hw
        by_contra hremoved
        simp only [Bool.not_eq_true', Bool.not_eq_false, Bool.and_eq_true, beq_iff_eq] at hremoved
        exact hv (hlast w hw v (List.mem_singleton_self v) hremoved.1 hremoved.2)
      rw [if_neg hv, hleaves, List.filter_append, List.filter_cons_of_pos hself, KeyedList.putAll,
        KeyedList.putAll, List.foldl_append]
      rfl

lemma overlayVariables_overlayVariables (h : RemovesForGood vars) (base : List EnvVar) :
    overlayVariables (overlayVariables base vars) vars = overlayVariables base vars := by
  rw [overlayVariables_eq h, overlayVariables_eq h,
    KeyedList.filter_putAll (p := leaves vars) fun _ _ => leaves_congr]
  simp only [List.filter_filter, Bool.and_self]
  exact KeyedList.putAll_putAll (tellsApart_sameName _) _

/-- Variables override themselves without a change if none of them removes, and the first and the
last of a name are equal. -/
lemma overlayVariables_self_iff (h : RemovesForGood vars) :
    overlayVariables vars vars = vars ↔
      (∀ v ∈ vars, v.isEmpty = false) ∧ KeyedList.Settled EnvVar.sameName vars vars := by
  have hsame := tellsApart_sameName vars
  constructor
  · intro heq
    have hleaves : vars.filter (leaves vars) = vars := by
      rw [overlayVariables_eq h] at heq
      have hfilter := congrArg (List.filter (leaves vars)) heq
      rw [KeyedList.filter_putAll (p := leaves vars) fun _ _ => leaves_congr] at hfilter
      simp only [List.filter_filter, Bool.and_self] at hfilter
      exact hfilter.symm.trans heq
    rw [overlayVariables_eq h, hleaves] at heq
    refine ⟨fun v hv => ?_, (KeyedList.putAll_self_iff hsame).mp heq⟩
    have hv' := List.all_eq_true.mp (List.filter_eq_self.mp hleaves v hv) v hv
    simpa using hv'
  · rintro ⟨hvars, hsettled⟩
    have hleaves : vars.filter (leaves vars) = vars := by
      rw [List.filter_eq_self]
      intro v _
      exact List.all_eq_true.mpr fun w hw => by simp [hvars w hw]
    rw [overlayVariables_eq h, hleaves]
    exact (KeyedList.putAll_self_iff hsame).mpr hsettled

end Variables
end Manifests
