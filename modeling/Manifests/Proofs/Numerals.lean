import Mathlib.Tactic.Lemma
import Manifests.Text.IpAddress

/-! Numbers and addresses as they are written.  A decimal numeral is read as its number, and four
decimal bytes with dots between them are an address and no number. -/
namespace Manifests.Text

/-! ### Numerals -/

/-- A row of ASCII digits. -/
structure IsDigits (cs : List Char) : Prop where
  ne_nil : cs ≠ []
  isDigit : ∀ c ∈ cs, c.isDigit = true

/-- A decimal numeral of an integer: digits, perhaps with a sign before them. -/
inductive IsDecimal : List Char → Int → Prop
  | unsigned {digits : List Char} (h : IsDigits digits) :
    IsDecimal digits (Nat.ofDigitChars 10 digits 0)
  | plus {digits : List Char} (h : IsDigits digits) :
    IsDecimal ('+' :: digits) (Nat.ofDigitChars 10 digits 0)
  | minus {digits : List Char} (h : IsDigits digits) :
    IsDecimal ('-' :: digits) (-Nat.ofDigitChars 10 digits 0)

variable {cs : List Char} {n : Int}

lemma natOfDigits_eq (cs : List Char) : natOfDigits cs = Nat.ofDigitChars 10 cs 0 := by
  rw [Nat.ofDigitChars_eq_foldl, natOfDigits]
  congr
  funext value c
  rw [Nat.mul_comm, digitValue]

lemma nat?_eq_some_iff {m : Nat} :
    nat? cs = some m ↔ IsDigits cs ∧ Nat.ofDigitChars 10 cs 0 = m := by
  unfold nat?
  rw [natOfDigits_eq]
  constructor
  · intro h
    split at h
    next hdigits =>
      simp only [ne_eq, Bool.and_eq_true, decide_eq_true_eq, List.all_eq_true] at hdigits
      exact ⟨⟨hdigits.1, hdigits.2⟩, Option.some.inj h⟩
    next => cases h
  · rintro ⟨hdigits, rfl⟩
    have hall : cs.all Char.isDigit = true := List.all_eq_true.mpr hdigits.isDigit
    simp [hdigits.ne_nil, hall]

lemma IsDigits.nat?_eq (h : IsDigits cs) : nat? cs = some (Nat.ofDigitChars 10 cs 0) :=
  nat?_eq_some_iff.mpr ⟨h, rfl⟩

lemma IsDecimal.int?_eq (h : IsDecimal cs n) : int? cs = some n := by
  cases h with
  | unsigned h =>
    -- A digit is no sign.
    obtain ⟨c, rest, rfl⟩ := List.exists_cons_of_ne_nil h.ne_nil
    have hc := h.isDigit c List.mem_cons_self
    unfold int?
    split
    next heq =>
      cases heq
      exact absurd hc (by decide)
    next heq =>
      cases heq
      exact absurd hc (by decide)
    next => exact congrArg (Option.map Int.ofNat) h.nat?_eq
  | plus h => exact congrArg (Option.map Int.ofNat) h.nat?_eq
  | minus h => exact congrArg (Option.map fun n => -Int.ofNat n) h.nat?_eq

lemma isDecimal_of_int? (h : int? cs = some n) : IsDecimal cs n := by
  unfold int? at h
  split at h
  next digits =>
    obtain ⟨m, hm, rfl⟩ := Option.map_eq_some_iff.mp h
    obtain ⟨hdigits, rfl⟩ := nat?_eq_some_iff.mp hm
    exact .plus hdigits
  next digits =>
    obtain ⟨m, hm, rfl⟩ := Option.map_eq_some_iff.mp h
    obtain ⟨hdigits, rfl⟩ := nat?_eq_some_iff.mp hm
    exact .minus hdigits
  next =>
    obtain ⟨m, hm, rfl⟩ := Option.map_eq_some_iff.mp h
    obtain ⟨hdigits, rfl⟩ := nat?_eq_some_iff.mp hm
    exact .unsigned hdigits

/-- The numerals of an integer are the texts that are read as it. -/
lemma int?_eq_some_iff : int? cs = some n ↔ IsDecimal cs n :=
  ⟨isDecimal_of_int?, IsDecimal.int?_eq⟩

lemma int32OfInt?_eq_some_iff {n : Int32} {m : Int} : int32OfInt? m = some n ↔ m = n.toInt := by
  constructor
  · intro h
    unfold int32OfInt? at h
    split at h
    next hm =>
      cases h
      exact (Int32.toInt_ofInt_of_le hm.1 (by omega)).symm
    next => cases h
  · rintro rfl
    exact int32OfInt?_toInt n

lemma int32?_eq_some_iff {n : Int32} : int32? cs = some n ↔ IsDecimal cs n.toInt := by
  simp only [int32?, Option.bind_eq_some_iff, int?_eq_some_iff, int32OfInt?_eq_some_iff,
    exists_eq_right]

lemma IsDecimal.int32?_eq {n : Int32} (h : IsDecimal cs n.toInt) : int32? cs = some n :=
  int32?_eq_some_iff.mpr h

lemma IsDecimal.ne_nil (h : IsDecimal cs n) : cs ≠ [] := by
  cases h with
  | unsigned h => exact h.ne_nil
  | plus h => simp
  | minus h => simp

lemma isDigits_toDigits (n : Nat) : IsDigits (Nat.toDigits 10 n) where
  ne_nil := Nat.toDigits_ne_nil
  isDigit _ hc := Nat.isDigit_of_mem_toDigits (by decide) (by decide) hc

lemma natOfDigits_toDigits (n : Nat) : natOfDigits (Nat.toDigits 10 n) = n := by
  rw [natOfDigits_eq, Nat.ofDigitChars_ten_toDigits]

/-- What integers are shown as are numerals of theirs. -/
lemma isDecimal_toString (n : Int) : IsDecimal (toString n).toList n := by
  cases n with
  | ofNat m =>
    have hdecimal := IsDecimal.unsigned (isDigits_toDigits m)
    rw [Nat.ofDigitChars_ten_toDigits, ← Nat.toList_repr] at hdecimal
    exact hdecimal
  | negSucc m =>
    have hdecimal := IsDecimal.minus (isDigits_toDigits (m + 1))
    have hlist : (toString (Int.negSucc m)).toList = '-' :: Nat.toDigits 10 (m + 1) := by
      rw [← Nat.toList_repr]
      exact String.toList_append
    rw [Nat.ofDigitChars_ten_toDigits] at hdecimal
    rw [hlist]
    exact hdecimal

lemma isDecimal_int32Text (n : Int32) : IsDecimal (int32Text n).toList n.toInt :=
  isDecimal_toString n.toInt

lemma int?_eq_none_of_mem {c : Char} (hmem : c ∈ cs) (hdigit : c.isDigit = false)
    (hplus : c ≠ '+') (hminus : c ≠ '-') : int? cs = none := by
  have hnone : ∀ rest : List Char, c ∈ rest → nat? rest = none := by
    intro rest hrest
    have hall : rest.all Char.isDigit = false := List.all_eq_false.mpr ⟨c, hrest, by simp [hdigit]⟩
    simp [nat?, hall]
  unfold int?
  split
  next rest => rw [hnone rest ((List.mem_cons.mp hmem).resolve_left hplus)]; rfl
  next rest => rw [hnone rest ((List.mem_cons.mp hmem).resolve_left hminus)]; rfl
  next => rw [hnone _ hmem]; rfl

/-! ### Addresses -/

namespace IpAddress

/-- Four decimal bytes with dots between them. -/
def IsFourBytes (s : String) : Prop :=
  ∃ a b c d : UInt8, s = showBytes a.toNat b.toNat c.toNat d.toNat

/-- Bytes are written with at most three digits and without leading zeros. -/
lemma toDigits_byte : ∀ n < 256, ¬ (Nat.toDigits 10 n = [] ∨ 3 < (Nat.toDigits 10 n).length ∨
    ((Nat.toDigits 10 n).length ≠ 1 ∧ (Nat.toDigits 10 n).head? = some '0')) := by
  decide +kernel

/-- A byte ends where its digits end. -/
lemma byte?_toDigits (n : UInt8) {rest : List Char} (hrest : rest.takeWhile Char.isDigit = []) :
    byte? (Nat.toDigits 10 n.toNat ++ rest) = some (n.toNat, rest) := by
  have hdigits := (isDigits_toDigits n.toNat).isDigit
  have htake : (Nat.toDigits 10 n.toNat ++ rest).takeWhile Char.isDigit =
      Nat.toDigits 10 n.toNat := by
    rw [List.takeWhile_append_of_pos hdigits, hrest, List.append_nil]
  have hdrop : (Nat.toDigits 10 n.toNat ++ rest).dropWhile Char.isDigit = rest := by
    have hsplit := List.takeWhile_append_dropWhile (p := Char.isDigit) (l := rest)
    rw [hrest, List.nil_append] at hsplit
    rw [List.dropWhile_append_of_pos hdigits, hsplit]
  unfold byte?
  dsimp only
  rw [htake, hdrop, if_neg (toDigits_byte n.toNat n.toNat_lt), natOfDigits_toDigits,
    if_pos n.toNat_lt]

lemma toList_showBytes (a b c d : Nat) : (showBytes a b c d).toList =
    Nat.toDigits 10 a ++ '.' :: (Nat.toDigits 10 b ++ '.' :: (Nat.toDigits 10 c ++ '.' ::
      (Nat.toDigits 10 d))) := by
  simp [showBytes]

lemma IsFourBytes.isAddress {s : String} (h : IsFourBytes s) : isAddress s.toList = true := by
  obtain ⟨a, b, c, d, rfl⟩ := h
  have hdot : ∀ rest, ('.' :: rest).takeWhile Char.isDigit = [] := fun _ => rfl
  have hfour : fourBytes? (showBytes a.toNat b.toNat c.toNat d.toNat).toList =
      some ((a.toNat, b.toNat, c.toNat, d.toNat), []) := by
    have hlast : byte? (Nat.toDigits 10 d.toNat ++ []) = some (d.toNat, []) := byte?_toDigits d rfl
    rw [List.append_nil] at hlast
    rw [toList_showBytes, fourBytes?]
    simp [byte?_toDigits _ (hdot _), dot?, hlast]
  rw [IpAddress.isAddress, hfour]
  rfl

lemma IsFourBytes.isDigit_or_dot {s : String} (h : IsFourBytes s) :
    ∀ c ∈ s.toList, c.isDigit = true ∨ c = '.' := by
  obtain ⟨a, b, c, d, rfl⟩ := h
  have hdigits := fun n => (isDigits_toDigits n).isDigit
  rw [toList_showBytes]
  simp only [List.mem_append, List.mem_cons]
  rintro x (hx | rfl | hx | rfl | hx | rfl | hx)
  · exact .inl (hdigits _ x hx)
  · exact .inr rfl
  · exact .inl (hdigits _ x hx)
  · exact .inr rfl
  · exact .inl (hdigits _ x hx)
  · exact .inr rfl
  · exact .inl (hdigits _ x hx)

/-- An address is no number, because of its dots. -/
lemma IsFourBytes.int32?_eq_none {s : String} (h : IsFourBytes s) : int32? s.toList = none := by
  obtain ⟨a, b, c, d, rfl⟩ := h
  have hdot : '.' ∈ (showBytes a.toNat b.toNat c.toNat d.toNat).toList := by
    rw [toList_showBytes]
    exact List.mem_append_right _ List.mem_cons_self
  rw [int32?, int?_eq_none_of_mem hdot (by decide) (by decide) (by decide)]
  rfl

end IpAddress
end Manifests.Text
