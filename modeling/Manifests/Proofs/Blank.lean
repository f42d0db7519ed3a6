import Mathlib.Tactic.Lemma
import Manifests.Config.Image
import Manifests.Port

/-! Texts that can not be blank: what trimming leaves, the references and container names of images,
and the names of ports. -/
namespace Manifests

namespace Text

lemma isBlank_eq_false_of_mem {s : String} {c : Char} (h : c ∈ s.toList)
    (hc : isBlankChar c = false) : isBlank s = false := by
  rw [isBlank, List.all_eq_false]
  exact ⟨c, h, by simp [hc]⟩

lemma isBlank_append (s t : String) : isBlank (s ++ t) = (isBlank s && isBlank t) := by
  simp [isBlank]

lemma mem_dropWhile {p : Char → Bool} {c : Char} {cs : List Char} (h : c ∈ cs) (hc : p c = false) :
    c ∈ cs.dropWhile p := by
  induction cs with
  | nil => cases h
  | cons d cs ih =>
    rw [List.dropWhile_cons]
    split
    next hd =>
      obtain rfl | h := List.mem_cons.mp h
      · rw [hc] at hd
        cases hd
      · exact ih h
    next => exact h

/-- A character that is not blank is not trimmed away. -/
lemma isBlank_trim (s : String) : isBlank (trim s) = isBlank s := by
  cases hs : isBlank s with
  | true =>
    have hnil : trimChars s.toList = [] := trimWhere_eq_nil_iff.mpr hs
    rw [trim, hnil]
    rfl
  | false =>
    rw [isBlank, List.all_eq_false] at hs
    obtain ⟨c, hmem, hc⟩ := hs
    rw [Bool.not_eq_true] at hc
    refine isBlank_eq_false_of_mem (c := c) ?_ hc
    rw [trim, String.toList_ofList, trimChars, trimWhere, List.mem_reverse]
    refine mem_dropWhile ?_ hc
    rw [List.mem_reverse]
    exact mem_dropWhile hmem hc

lemma isBlank_of_nonBlank? {s t : String} (h : nonBlank? s = some t) : isBlank t = false := by
  have hs : isBlank s = false := by
    have hsome := isSome_nonBlank? s
    rw [h] at hsome
    simpa using hsome.symm
  dsimp only [nonBlank?] at h
  split at h
  · cases h
  · cases h
    rw [isBlank_trim, hs]

/-- A character that has no other case stays. -/
lemma mem_lowerAfter {c : Char} {cs : List Char} (before : List Char) (h : c ∈ cs)
    (hsigma : c ≠ 'Σ') (hc : LetterCase.lowerChar c = [c]) :
    c ∈ LetterCase.lowerAfter before cs := by
  induction cs generalizing before with
  | nil => cases h
  | cons d cs ih =>
    rw [LetterCase.lowerAfter, List.mem_append]
    obtain rfl | h := List.mem_cons.mp h
    · rw [if_neg hsigma, hc]
      exact .inl List.mem_cons_self
    · exact .inr (ih _ h)

end Text

namespace Config.Image

/-- The reference ends with the trimmed name of the image. -/
lemma isBlank_reference? {i : Image} {reference : String} (h : i.reference? = some reference) :
    Text.isBlank reference = false := by
  unfold reference? at h
  obtain ⟨name, hname, h⟩ := Option.bind_eq_some_iff.mp h
  obtain ⟨given, _, hgiven⟩ := Option.bind_eq_some_iff.mp hname
  have hblank := Text.isBlank_of_nonBlank? hgiven
  split at h
  · cases h
    rw [Text.isBlank_append, hblank, Bool.and_false]
  · cases h
    exact hblank

/-- The name of a container is an alias, or there is a hyphen in it. -/
lemma isBlank_containerName (i : Image) (p : Project) :
    Text.isBlank (i.containerName p) = false := by
  unfold containerName
  split
  next name hname =>
    have hnot := (Option.filter_eq_some_iff.mp hname).2
    simpa using hnot
  next =>
    refine Text.isBlank_eq_false_of_mem (c := '-') ?_ (by decide)
    rw [Text.lower, String.toList_ofList]
    exact Text.mem_lowerAfter [] (by simp) (by decide) (by decide)

end Config.Image

lemma isBlank_wellKnownPortName (port : Int32) :
    Text.isBlank (wellKnownPortName port) = false := by
  unfold wellKnownPortName
  repeat' split
  all_goals decide

end Manifests
