import Mathlib.Tactic.Lemma
import Manifests.Text.LetterCase

/-! What lower case keeps of a text: its length, but for dotted capitals, and the capitals that have
no small letter.  All other capitals are gone. -/
namespace Manifests.Text

open LetterCase

variable {c : Char}

/-- An upper-case character that is its own lower case. -/
def IsUnpaired (c : Char) : Prop := isUpperChar c = true ∧ lowerChar c = [c]

instance (c : Char) : Decidable (IsUnpaired c) :=
  inferInstanceAs (Decidable (isUpperChar c = true ∧ lowerChar c = [c]))

namespace LetterCase

lemma isUpperChar_toLower : ∀ n < 128, isUpperChar (Char.ofNat n).toLower = false := by
  decide +kernel

/-- What a run shifts its code points to lies above or below a run of capitals, or passes each of
them by. -/
def missesRun (run : Nat × Nat × Nat × Int) (capitals : Nat × Nat × Nat) : Bool :=
  let image := fun n : Nat => (Int.ofNat n + run.2.2.2).toNat
  Nat.blt capitals.2.1 (image run.1) || Nat.blt (image run.2.1) capitals.1 ||
    (List.range ((run.2.1 - run.1) / run.2.2.1 + 1)).all fun k =>
      !onRun [capitals] (image (run.1 + run.2.2.1 * k))

-- Most pairs of runs lie apart, which is seen from their ends without a look at every code point.
lemma missesRun_upperRuns :
    (toLowerRuns.all fun run => upperRuns.all (missesRun run)) = true := by
  decide +kernel

lemma onRun_cons (run : Nat × Nat × Nat) (runs : List (Nat × Nat × Nat)) (n : Nat) :
    onRun (run :: runs) n = (onRun [run] n || onRun runs n) := by
  unfold onRun
  rw [List.any_cons, List.any_cons, List.any_nil, Bool.or_false]

lemma onRun_eq_false {runs : List (Nat × Nat × Nat)} {n : Nat}
    (h : ∀ run ∈ runs, onRun [run] n = false) : onRun runs n = false := by
  induction runs with
  | nil => rfl
  | cons run runs ih =>
    obtain ⟨hrun, hruns⟩ := List.forall_mem_cons.mp h
    rw [onRun_cons, hrun, ih hruns, Bool.false_or]

lemma onRun_eq_false_of_missesRun {first last step : Nat} {shift : Int}
    {capitals : Nat × Nat × Nat} (h : missesRun (first, last, step, shift) capitals = true)
    {n : Nat} (hfirst : first ≤ n) (hlast : n ≤ last) (hstep : (n - first) % step = 0) :
    onRun [capitals] (Int.ofNat n + shift).toNat = false := by
  obtain ⟨low, high, stride⟩ := capitals
  unfold missesRun at h
  simp only [Bool.or_eq_true, Nat.blt_eq] at h
  obtain (habove | hbelow) | hpast := h
  · have hgrows : (Int.ofNat first + shift).toNat ≤ (Int.ofNat n + shift).toNat :=
      Int.toNat_le_toNat (Int.add_le_add_right (Int.ofNat_le.mpr hfirst) shift)
    have hout : ¬(Int.ofNat n + shift).toNat ≤ high :=
      Nat.not_le.mpr (Nat.lt_of_lt_of_le habove hgrows)
    simp only [onRun, List.any_cons, List.any_nil, hout, decide_false, Bool.and_false,
      Bool.false_and, Bool.or_false]
  · have hgrows : (Int.ofNat n + shift).toNat ≤ (Int.ofNat last + shift).toNat :=
      Int.toNat_le_toNat (Int.add_le_add_right (Int.ofNat_le.mpr hlast) shift)
    have hout : ¬low ≤ (Int.ofNat n + shift).toNat :=
      Nat.not_le.mpr (Nat.lt_of_le_of_lt hgrows hbelow)
    simp only [onRun, List.any_cons, List.any_nil, hout, decide_false, Bool.false_and,
      Bool.or_false]
  · have hplace : (n - first) / step < (last - first) / step + 1 :=
      Nat.lt_succ_of_le (Nat.div_le_div_right (by omega))
    have hn : first + step * ((n - first) / step) = n := by
      rw [Nat.mul_div_cancel' (Nat.dvd_of_mod_eq_zero hstep)]
      omega
    have hmiss := List.all_eq_true.mp hpast _ (List.mem_range.mpr hplace)
    rw [hn, Bool.not_eq_true'] at hmiss
    exact hmiss

/-- A code point that is none counts as the zero, which is no capital. -/
lemma isUpperChar_ofNat {n : Nat} (h : onRun upperRuns n = false) :
    isUpperChar (Char.ofNat n) = false := by
  unfold isUpperChar
  by_cases hn : n.isValidChar
  · have hcode : (Char.ofNat n).toNat = n := by
      rw [Char.ofNat, dif_pos hn]
      rfl
    rw [hcode, h]
  · have hcode : (Char.ofNat n).toNat = 0 := by
      rw [Char.ofNat, dif_neg hn]
      rfl
    rw [hcode]
    decide +kernel

lemma shifted_cases (n : Nat) : shifted toLowerRuns n = n ∨
    isUpperChar (Char.ofNat (shifted toLowerRuns n)) = false := by
  unfold shifted
  dsimp only
  split
  next first last step shift hfind =>
    obtain ⟨⟨hfirst, hlast⟩, hstep⟩ : (first ≤ n ∧ n ≤ last) ∧ (n - first) % step = 0 := by
      simpa using List.find?_some hfind
    have hmisses := List.all_eq_true.mp missesRun_upperRuns _ (List.mem_of_find?_eq_some hfind)
    refine .inr (isUpperChar_ofNat (onRun_eq_false fun capitals hcapitals => ?_))
    exact onRun_eq_false_of_missesRun (List.all_eq_true.mp hmisses capitals hcapitals) hfirst hlast
      hstep
  next => exact .inl rfl

/-- Lower case keeps a character or gets rid of its capital. -/
lemma lowerChar_cases (c : Char) :
    lowerChar c = [c] ∨ ∀ d ∈ lowerChar c, isUpperChar d = false := by
  unfold lowerChar
  split
  next hascii =>
    refine .inr fun d hd => ?_
    rw [List.mem_singleton.mp hd, ← Char.ofNat_toNat c]
    exact isUpperChar_toLower c.toNat hascii
  next =>
    split
    next =>
      refine .inr (List.forall_mem_cons.mpr ⟨?_, List.forall_mem_singleton.mpr ?_⟩)
      · decide +kernel
      · decide +kernel
    next =>
      obtain hself | hlower := shifted_cases c.toNat
      · rw [hself, Char.ofNat_toNat]
        exact .inl rfl
      · refine .inr fun d hd => ?_
        rw [List.mem_singleton.mp hd]
        exact hlower

lemma forall_lowerChar_iff :
    (∀ d ∈ lowerChar c, isUpperChar d = false) ↔ ¬IsUnpaired c := by
  constructor
  · rintro hlower ⟨hupper, hself⟩
    rw [hlower c (by rw [hself]; exact List.mem_singleton_self c)] at hupper
    cases hupper
  · intro hpaired
    obtain hself | hlower := lowerChar_cases c
    · rw [hself, List.forall_mem_singleton, Bool.eq_false_iff]
      exact fun hupper => hpaired ⟨hupper, hself⟩
    · exact hlower

lemma not_isUnpaired_sigma : ¬IsUnpaired 'Σ' := by decide +kernel

/-- Only unpaired capitals are still capitals in lower case. -/
lemma forall_lowerAfter_iff {before cs : List Char} :
    (∀ d ∈ lowerAfter before cs, isUpperChar d = false) ↔ ∀ c ∈ cs, ¬IsUnpaired c := by
  induction cs generalizing before with
  | nil => simp [lowerAfter]
  | cons c rest ih =>
    rw [lowerAfter, List.forall_mem_append, ih, List.forall_mem_cons]
    refine and_congr_left fun _ => ?_
    split
    next hsigma =>
      subst hsigma
      refine iff_of_true ?_ not_isUnpaired_sigma
      split
      · exact List.forall_mem_singleton.mpr (by decide +kernel)
      · exact List.forall_mem_singleton.mpr (by decide +kernel)
    next => exact forall_lowerChar_iff

lemma length_lowerChar (c : Char) : (lowerChar c).length = 1 + [c].count 'İ' := by
  have hdotted : c.toNat = 0x130 ↔ c = 'İ' := Char.toNat_inj (d := 'İ')
  unfold lowerChar
  rw [List.count_singleton]
  split
  next hascii =>
    have hne : c ≠ 'İ' := fun h => by
      rw [hdotted.mpr h] at hascii
      omega
    simp [hne]
  next =>
    split
    next h => simp [hdotted.mp h]
    next h => simp [mt hdotted.mpr h]

/-- Only a dotted capital becomes two characters. -/
lemma length_lowerAfter (before cs : List Char) :
    (lowerAfter before cs).length = cs.length + cs.count 'İ' := by
  induction cs generalizing before with
  | nil => rfl
  | cons c rest ih =>
    rw [lowerAfter, List.length_append, ih, List.count_cons, List.length_cons]
    have hhere : (if c = 'Σ' then if startsCased before && !startsCased rest then ['ς'] else ['σ']
        else lowerChar c).length = 1 + [c].count 'İ' := by
      split
      next hsigma =>
        subst hsigma
        split <;> rfl
      next => exact length_lowerChar c
    rw [hhere, List.count_singleton]
    omega

end LetterCase
end Manifests.Text
