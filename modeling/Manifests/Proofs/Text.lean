import Mathlib.Data.List.DropRight
import Mathlib.Data.List.TakeWhile
import Mathlib.Tactic.Lemma
import Manifests.Text.Blank
import Manifests.Text.Split

/-! The characters of texts in one letter case, and trimming and cutting of texts that are put
together from parts. -/
namespace Manifests.Text

section LetterCase

lemma toList_toLower (s : String) : s.toLower.toList = s.toList.map Char.toLower :=
  String.toList_map

lemma toList_toUpper (s : String) : s.toUpper.toList = s.toList.map Char.toUpper :=
  String.toList_map

end LetterCase

section Trimming
variable {p : Char → Bool} {front back : List Char} {c : Char}

/-- Dropping ends at a character that is kept. -/
lemma dropWhile_append_cons (hc : p c = false) (front back : List Char) :
    (front ++ c :: back).dropWhile p = front.dropWhile p ++ c :: back := by
  have hkept : (c :: back).dropWhile p = c :: back := by simp [hc]
  rw [List.dropWhile_append]
  split
  next h => rw [hkept, List.isEmpty_iff.mp h, List.nil_append]
  next => rfl

lemma rdropWhile_append_cons (hc : p c = false) (front back : List Char) :
    (front ++ c :: back).rdropWhile p = front ++ c :: back.rdropWhile p := by
  have hreverse : (front ++ c :: back).reverse = back.reverse ++ c :: front.reverse := by simp
  rw [List.rdropWhile, List.rdropWhile, hreverse, dropWhile_append_cons hc]
  simp

/-- What is trimmed away does not matter. -/
lemma trimWhere_append (hfront : ∀ c ∈ front, p c = true) (cs : List Char)
    (hback : ∀ c ∈ back, p c = true) : trimWhere p (front ++ cs ++ back) = trimWhere p cs := by
  unfold trimWhere
  rw [List.append_assoc, List.dropWhile_append_of_pos hfront, List.dropWhile_append]
  split
  next h =>
    have hall : back.dropWhile p = [] := List.dropWhile_eq_nil_iff.mpr hback
    rw [List.isEmpty_iff.mp h, hall]
  next =>
    have hreverse : ∀ c ∈ back.reverse, p c = true := fun c hc => hback c (List.mem_reverse.mp hc)
    rw [List.reverse_append, List.dropWhile_append_of_pos hreverse]

lemma trimChars_eq_rdropWhile (cs : List Char) :
    trimChars cs = (cs.dropWhile isBlankChar).rdropWhile isBlankChar := rfl

/-- A text without the blanks before and behind it. -/
structure Trims (cs core : List Char) : Prop where
  around : ∃ front back, cs = front ++ core ++ back ∧ ∀ c ∈ front ++ back, isBlankChar c = true
  first : ∀ c ∈ core.head?, isBlankChar c = false
  last : ∀ c ∈ core.getLast?, isBlankChar c = false

lemma Trims.trimChars_eq {cs core : List Char} (h : Trims cs core) : trimChars cs = core := by
  obtain ⟨⟨front, back, rfl, hblank⟩, hfirst, hlast⟩ := h
  obtain ⟨hfront, hback⟩ := List.forall_mem_append.mp hblank
  have htrim : trimChars (front ++ core ++ back) = trimChars core :=
    trimWhere_append hfront core hback
  have hdrop : core.dropWhile isBlankChar = core := by
    refine List.dropWhile_eq_self_iff.mpr fun hlength => ?_
    have hhead := hfirst _ (List.head?_eq_getElem? ▸ List.getElem?_eq_getElem hlength)
    simp [hhead]
  have hrdrop : core.rdropWhile isBlankChar = core := by
    refine List.rdropWhile_eq_self_iff.mpr fun hne => ?_
    have hfinal := hlast _ (List.getLast?_eq_some_getLast hne)
    simp [hfinal]
  rw [htrim, trimChars_eq_rdropWhile, hdrop, hrdrop]

lemma trims_trimChars (cs : List Char) : Trims cs (trimChars cs) where
  around := by
    refine ⟨cs.takeWhile isBlankChar, (cs.dropWhile isBlankChar).rtakeWhile isBlankChar, ?_, ?_⟩
    · rw [trimChars_eq_rdropWhile, List.append_assoc, List.rdropWhile_append_rtakeWhile,
        List.takeWhile_append_dropWhile]
    · exact List.forall_mem_append.mpr
        ⟨fun _ => List.mem_takeWhile_imp, fun _ => List.mem_rtakeWhile_imp⟩
  first c hc := by
    -- What is left behind the blanks begins as it does without those behind it.
    obtain ⟨rest, hrest⟩ : trimChars cs <+: cs.dropWhile isBlankChar :=
      List.rdropWhile_prefix isBlankChar _
    have hhead : (cs.dropWhile isBlankChar).head? = some c := by
      rw [← hrest, List.head?_append, hc]
      rfl
    have hnot := List.head?_dropWhile_not isBlankChar cs
    rw [hhead] at hnot
    simpa using hnot
  last c hc := by
    obtain ⟨hne, rfl⟩ := List.mem_getLast?_eq_getLast hc
    exact Bool.eq_false_iff.mpr
      (List.rdropWhile_last_not isBlankChar (cs.dropWhile isBlankChar) hne)

lemma trims_iff {cs core : List Char} : Trims cs core ↔ trimChars cs = core :=
  ⟨Trims.trimChars_eq, fun h => h ▸ trims_trimChars cs⟩

/-- A character that is not blank stays where it begins a text. -/
lemma trimChars_cons (hc : isBlankChar c = false) (cs : List Char) :
    trimChars (c :: cs) = c :: cs.rdropWhile isBlankChar := by
  rw [trimChars_eq_rdropWhile, List.dropWhile_cons_of_neg (by simp [hc])]
  exact rdropWhile_append_cons hc [] cs

lemma trimChars_rdropWhile (cs : List Char) :
    trimChars (cs.rdropWhile isBlankChar) = trimChars cs := by
  have htrim := trimWhere_append (List.forall_mem_nil _) (cs.rdropWhile isBlankChar)
    fun c (hc : c ∈ cs.rtakeWhile isBlankChar) => List.mem_rtakeWhile_imp hc
  rw [List.nil_append, List.rdropWhile_append_rtakeWhile] at htrim
  exact htrim.symm

end Trimming

section Cutting
variable {sep : Char} {cs : List Char}

lemma splitAt_eq_splitOn (sep : Char) (cs : List Char) : splitAt sep cs = cs.splitOn sep := by
  induction cs with
  | nil => rw [List.splitOn_nil, splitAt]
  | cons c cs ih =>
    rw [splitAt, List.splitOn_cons_eq_if_modifyHead, ih]
    obtain ⟨piece, pieces, hpieces⟩ := List.exists_cons_of_ne_nil (List.splitOn_ne_nil sep cs)
    by_cases hc : c = sep <;> simp [hc, hpieces]

lemma splitAt_of_not_mem (h : sep ∉ cs) : splitAt sep cs = [cs] := by
  rw [splitAt_eq_splitOn, List.splitOn_eq_singleton h]

/-- Cutting loses nothing but the separators. -/
lemma exists_mem_splitAt_iff {c : Char} (hc : c ≠ sep) :
    (∃ piece ∈ splitAt sep cs, c ∈ piece) ↔ c ∈ cs := by
  induction cs with
  | nil => simp [splitAt]
  | cons d cs ih =>
    rw [splitAt, List.mem_cons]
    split
    next hd =>
      rw [hd, or_iff_right hc, ← ih]
      simp
    next =>
      obtain ⟨piece, pieces, h⟩ := List.exists_cons_of_ne_nil (splitAt_ne_nil sep cs)
      rw [h] at ih ⊢
      rw [← ih]
      simp [or_assoc]

lemma intercalate_concat {pieces : List (List Char)} (hne : pieces ≠ []) (final : List Char) :
    [sep].intercalate (pieces ++ [final]) = [sep].intercalate pieces ++ sep :: final := by
  induction pieces with
  | nil => exact absurd rfl hne
  | cons piece pieces ih =>
    cases pieces with
    | nil => simp [List.intercalate_cons_cons]
    | cons next pieces =>
      rw [List.cons_append, List.cons_append, List.intercalate_cons_cons, ← List.cons_append,
        ih (by simp), List.intercalate_cons_cons]
      simp

lemma dropWhile_intercalate {p : Char → Bool} (hsep : p sep = false) (piece : List Char)
    (pieces : List (List Char)) : ([sep].intercalate (piece :: pieces)).dropWhile p =
      [sep].intercalate (piece.dropWhile p :: pieces) := by
  cases pieces with
  | nil => rw [List.intercalate_singleton, List.intercalate_singleton]
  | cons next pieces =>
    rw [List.intercalate_cons_cons, List.intercalate_cons_cons, List.append_assoc,
      List.singleton_append, dropWhile_append_cons hsep, List.append_assoc, List.singleton_append]

/-- Cutting undoes joining. -/
lemma splitAt_intercalate {pieces : List (List Char)} (hne : pieces ≠ [])
    (h : ∀ piece ∈ pieces, sep ∉ piece) :
    splitAt sep ([sep].intercalate pieces) = pieces := by
  rw [splitAt_eq_splitOn, List.splitOn_intercalate sep h hne]

end Cutting

section Cuts
variable {sep : Char} {cs front back : List Char}

lemma cutFirst?_append (h : sep ∉ front) :
    cutFirst? sep (front ++ sep :: back) = some (front, back) := by
  induction front with
  | nil => simp [cutFirst?]
  | cons c front ih =>
    obtain ⟨hc, hfront⟩ := List.ne_and_not_mem_of_not_mem_cons h
    rw [List.cons_append, cutFirst?, if_neg (Ne.symm hc), ih hfront]
    rfl

lemma cutFirst?_eq_none_iff : cutFirst? sep cs = none ↔ sep ∉ cs := by
  induction cs with
  | nil => simp [cutFirst?]
  | cons c cs ih =>
    rw [cutFirst?, List.mem_cons]
    split
    next hc => simp [hc]
    next hc => simp [ih, Ne.symm hc]

/-- The first separator has none in front of it. -/
lemma cutFirst?_eq_some_iff :
    cutFirst? sep cs = some (front, back) ↔ cs = front ++ sep :: back ∧ sep ∉ front := by
  constructor
  · intro h
    have hmem : sep ∈ cs := by
      by_contra hnot
      rw [cutFirst?_eq_none_iff.mpr hnot] at h
      cases h
    obtain ⟨front', back', rfl, hfront⟩ := List.eq_append_cons_of_mem hmem
    rw [cutFirst?_append hfront] at h
    cases h
    exact ⟨rfl, hfront⟩
  · rintro ⟨rfl, hfront⟩
    exact cutFirst?_append hfront

/-- The last separator has none behind it. -/
lemma cutLast?_eq_some_iff :
    cutLast? sep cs = some (front, back) ↔ cs = front ++ sep :: back ∧ sep ∉ back := by
  have hreverse : cutLast? sep cs = some (front, back) ↔
      cutFirst? sep cs.reverse = some (back.reverse, front.reverse) := by
    unfold cutLast?
    cases cutFirst? sep cs.reverse with
    | none => simp
    | some cut => simp [Prod.ext_iff, List.reverse_eq_iff, and_comm]
  rw [hreverse, cutFirst?_eq_some_iff, List.mem_reverse, List.reverse_eq_iff]
  simp

lemma cutLast?_eq_none_iff : cutLast? sep cs = none ↔ sep ∉ cs := by
  rw [cutLast?, Option.map_eq_none_iff, cutFirst?_eq_none_iff, List.mem_reverse]

lemma cutLast?_append (front : List Char) (h : sep ∉ back) :
    cutLast? sep (front ++ sep :: back) = some (front, back) :=
  cutLast?_eq_some_iff.mpr ⟨rfl, h⟩

lemma mem_of_cutLast? (h : cutLast? sep cs = some (front, back)) : sep ∈ cs := by
  rw [(cutLast?_eq_some_iff.mp h).1]
  simp

end Cuts

end Manifests.Text
