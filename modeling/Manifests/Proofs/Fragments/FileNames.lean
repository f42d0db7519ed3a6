import Manifests.Fragment
import Manifests.Proofs.Blank
import Manifests.Proofs.Text

/-! What the file name of a fragment says about it.  The stem in front of the extension ends with a
type behind its last hyphen, or is nothing but a type, or is a name as a whole. -/
namespace Manifests

namespace Fragment

variable {file : String} {stem : List Char}

/-! ### Extensions -/

/-- What stands in front of the extension of a file name. -/
def stem? (file : String) : Option (List Char) :=
  ["yaml", "yml", "json"].findSome? (stemBefore? file.toList)

/-- Only a dot is read as the dot of an extension. -/
lemma foldLetter_eq_dot {c : Char} : foldLetter c = '.' ↔ c = '.' := by
  constructor
  · intro h
    unfold foldLetter at h
    split at h
    · cases h
    · unfold Char.toLower at h
      split at h
      next hupper =>
        have hlow : 65 ≤ c.val.toNat := UInt32.le_iff_toNat_le.mp hupper.1
        have hhigh : c.val.toNat ≤ 90 := UInt32.le_iff_toNat_le.mp hupper.2
        have hsum : (c.val + 32).toNat = 46 := congrArg (fun d => d.val.toNat) h
        rw [UInt32.toNat_add] at hsum
        have hword : (32 : UInt32).toNat = 32 := rfl
        omega
      next => exact h
  · rintro rfl
    decide

/-- An extension without a dot of its own stands behind the last one. -/
lemma cutLast?_of_stemBefore? {cs : List Char} {extension : String}
    (hdot : '.' ∉ extension.toList) (h : stemBefore? cs extension = some stem) :
    ∃ ending, Text.cutLast? '.' cs = some (stem, ending) := by
  unfold stemBefore? at h
  dsimp only at h
  split at h
  next hending =>
    cases h
    generalize cs.length - ('.' :: extension.toList).length = front at hending ⊢
    obtain ⟨c, ending, hdrop, hc, hmap⟩ := List.map_eq_cons_iff.mp hending
    have hcs : cs = cs.take front ++ '.' :: ending := by
      rw [← foldLetter_eq_dot.mp hc, ← hdrop, List.take_append_drop]
    have hend : '.' ∉ ending := by
      intro hmem
      have hfolded := List.mem_map_of_mem (f := foldLetter) hmem
      rw [hmap, foldLetter_eq_dot.mpr rfl] at hfolded
      exact hdot hfolded
    have hcut := Text.cutLast?_append (cs.take front) hend
    rw [← hcs] at hcut
    exact ⟨ending, hcut⟩
  next => cases h

lemma cutLast?_of_stem? (h : stem? file = some stem) :
    ∃ ending, Text.cutLast? '.' file.toList = some (stem, ending) := by
  obtain ⟨extension, hextension, hstem⟩ := List.exists_of_findSome?_eq_some h
  have hdot : ∀ extension ∈ ["yaml", "yml", "json"], '.' ∉ extension.toList := by decide
  exact cutLast?_of_stemBefore? (hdot extension hextension) hstem

/-! ### Types and names -/

/-- What stands in front of the last hyphen of a stem and what behind it; without a hyphen,
everything is behind it. -/
def hyphenParts (stem : List Char) : List Char × List Char :=
  (Text.cutLast? '-' stem).getD ([], stem)

/-- The kind whose type a stem ends with, or is. -/
def stemKind? (stem : List Char) : Option Kind :=
  kindOfType? (String.ofList (hyphenParts stem).2)

/-- The name in a stem, which is what a known type leaves of it. -/
def namePart (stem : List Char) : List Char :=
  if (stemKind? stem).isSome then (hyphenParts stem).1 else stem

lemma namePart_of_some {kind : Kind} (h : stemKind? stem = some kind) :
    namePart stem = (hyphenParts stem).1 := by
  rw [namePart, h, if_pos (Option.isSome_some)]

lemma namePart_of_none (h : stemKind? stem = none) : namePart stem = stem := by
  rw [namePart, h, if_neg (by decide)]

/-- A text that is absent rather than empty. -/
def text? (cs : List Char) : Option String := if cs = [] then none else some (String.ofList cs)

lemma kindOfType?_nil : kindOfType? (String.ofList []) = none := by decide +kernel

/-- No type has a hyphen in it. -/
lemma kindOfType?_of_mem_hyphen {cs : List Char} (h : '-' ∈ cs) :
    kindOfType? (String.ofList cs) = none := by
  have hlower : '-' ∈ (Text.lower (String.ofList cs)).toList := by
    rw [Text.lower, String.toList_ofList, String.toList_ofList]
    exact Text.mem_lowerAfter [] h (by decide) (by decide)
  have htypes : ∀ e ∈ types, '-' ∉ e.1.toList := by decide
  unfold kindOfType?
  rw [List.find?_eq_none.mpr, Option.map_none]
  intro e he htype
  rw [beq_iff_eq] at htype
  exact htypes e he (htype ▸ hlower)

/-- No hyphen in the stem has anything behind it. -/
def Plain (stem : List Char) : Prop :=
  hyphenParts stem = ([], stem) ∨ '-' ∈ stem ∧ (hyphenParts stem).2 = []

/-- A plain stem is a type as a whole, or there is none in it. -/
lemma Plain.stemKind?_eq (h : Plain stem) : stemKind? stem = (text? stem).bind kindOfType? ∧
    ((stemKind? stem).isSome = true → (hyphenParts stem).1 = []) := by
  unfold stemKind? text?
  obtain h | ⟨hhyphen, h⟩ := h
  · rw [h]
    refine ⟨?_, fun _ => rfl⟩
    split
    next hnil =>
      rw [hnil]
      exact kindOfType?_nil
    next => rfl
  · rw [h, kindOfType?_nil, if_neg (List.ne_nil_of_mem hhyphen), Option.bind_some,
      kindOfType?_of_mem_hyphen hhyphen]
    exact ⟨rfl, nofun⟩

/-- The parts of a file name are a name and a type, or a plain stem. -/
lemma parts_of_parse? {parts : FileName} (h : FileName.parse? file = some parts) :
    ∃ stem, stem? file = some stem ∧
      ('-' ∈ stem ∧ parts =
          ⟨text? (hyphenParts stem).1, some (String.ofList (hyphenParts stem).2)⟩ ∨
        Plain stem ∧ parts = ⟨text? stem, none⟩) := by
  obtain ⟨stem, hstem, h⟩ := Option.bind_eq_some_iff.mp h
  refine ⟨stem, hstem, ?_⟩
  unfold Plain hyphenParts text?
  cases hcut : Text.cutLast? '-' stem with
  | none =>
    rw [hcut] at h
    dsimp only at h
    split at h
    · cases h
    · cases h
      exact .inr ⟨.inl rfl, rfl⟩
  | some cut =>
    obtain ⟨front, back⟩ := cut
    rw [hcut] at h
    cases back with
    | nil =>
      dsimp only at h
      split at h
      · cases h
      · cases h
        exact .inr ⟨.inr ⟨Text.mem_of_cutLast? hcut, rfl⟩, rfl⟩
    | cons c back =>
      dsimp only at h
      split at h
      · cases h
      · cases h
        exact .inl ⟨Text.mem_of_cutLast? hcut, rfl⟩

lemma identify_of_hyphen {declared name : Option String} {kind : Option Kind}
    (hstem : stem? file = some stem) (hhyphen : '-' ∈ stem)
    (h : identify file ⟨text? (hyphenParts stem).1, some (String.ofList (hyphenParts stem).2)⟩
      declared = .ok (name, kind)) :
    name = text? (namePart stem) ∧ kind = stemKind? stem := by
  unfold identify at h
  dsimp only at h
  cases hkind : stemKind? stem with
  | some known =>
    rw [namePart_of_some hkind]
    rw [stemKind?] at hkind
    rw [hkind] at h
    cases h
    exact ⟨rfl, rfl⟩
  | none =>
    rw [namePart_of_none hkind]
    rw [stemKind?] at hkind
    rw [hkind] at h
    cases declared with
    | none => cases h
    | some declared =>
      obtain ⟨ending, hdot⟩ := cutLast?_of_stem? hstem
      rw [hdot] at h
      cases h
      refine ⟨?_, rfl⟩
      rw [text?, if_neg (List.ne_nil_of_mem hhyphen)]
      rfl

lemma Plain.identify_eq {declared name : Option String} {kind : Option Kind} (hplain : Plain stem)
    (h : identify file ⟨text? stem, none⟩ declared = .ok (name, kind)) :
    name = text? (namePart stem) ∧ kind = stemKind? stem := by
  obtain ⟨hkind, hfront⟩ := hplain.stemKind?_eq
  unfold identify at h
  dsimp only at h
  rw [← hkind] at h
  cases hknown : stemKind? stem with
  | some known =>
    rw [namePart_of_some hknown, hfront (Option.isSome_of_eq_some hknown)]
    rw [hknown] at h
    cases h
    exact ⟨rfl, rfl⟩
  | none =>
    rw [namePart_of_none hknown]
    rw [hknown] at h
    cases h
    exact ⟨rfl, rfl⟩

/-- A file name gives the kind of its type and the name in front of that, or the whole stem. -/
lemma identify_of_parse? {parts : FileName} {declared name : Option String} {kind : Option Kind}
    (hparts : FileName.parse? file = some parts)
    (h : identify file parts declared = .ok (name, kind)) :
    ∃ stem, stem? file = some stem ∧ name = text? (namePart stem) ∧ kind = stemKind? stem := by
  obtain ⟨stem, hstem, ⟨hhyphen, rfl⟩ | ⟨hplain, rfl⟩⟩ := parts_of_parse? hparts
  · exact ⟨stem, hstem, identify_of_hyphen hstem hhyphen h⟩
  · exact ⟨stem, hstem, hplain.identify_eq h⟩

end Fragment
end Manifests
