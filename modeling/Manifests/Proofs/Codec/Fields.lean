import Manifests.Object.Workload
import Manifests.Proofs.Entries

/-!
Reading back what was written, for texts, numbers, bytes, lists and maps, and for the fields that
objects are made of.  A record follows from its fields: writing puts each of them under its own key,
and reading looks each of them up.
-/
namespace Manifests

namespace Text.Base64

lemma value?_digit {n : Nat} (h : n < 64) : value? (digit n) = some n := by
  have hall : ∀ i : Fin 64, value? (digit i) = some i.val := by decide
  exact hall ⟨n, h⟩

lemma digit_ne_padding {n : Nat} (h : n < 64) : digit n ≠ '=' := by
  have hall : ∀ i : Fin 64, digit i ≠ '=' := by decide
  exact hall ⟨n, h⟩

section Digits

variable {i j k l : Nat} (hi : i < 64) (hj : j < 64) (hk : k < 64) (hl : l < 64)
include hi hj

lemma decode?_two_digits (h : j % 16 = 0) :
    decode? [digit i, digit j, '=', '='] = some [UInt8.ofNat (i * 4 + j / 16)] := by
  simp only [decode?, value?_digit hi, value?_digit hj, Option.bind_eq_bind, Option.bind_some,
    guard, if_pos h]
  rfl

include hk

lemma decode?_three_digits (h : k % 4 = 0) :
    decode? [digit i, digit j, digit k, '='] =
      some [UInt8.ofNat (i * 4 + j / 16), UInt8.ofNat (j % 16 * 16 + k / 4)] := by
  rw [decode?]
  · simp only [value?_digit hi, value?_digit hj, value?_digit hk, Option.bind_eq_bind,
      Option.bind_some, guard, if_pos h]
    rfl
  · exact fun h => digit_ne_padding hk h

include hl

lemma decode?_four_digits (rest : List Char) :
    decode? (digit i :: digit j :: digit k :: digit l :: rest) = (decode? rest).map fun tail =>
      UInt8.ofNat (i * 4 + j / 16) :: UInt8.ofNat (j % 16 * 16 + k / 4) ::
        UInt8.ofNat (k % 4 * 64 + l) :: tail := by
  rw [decode?]
  · rw [value?_digit hi, value?_digit hj, value?_digit hk, value?_digit hl]
    cases decode? rest <;> rfl
  · exact fun _ h => absurd h (digit_ne_padding hl)
  · exact fun h => absurd h (digit_ne_padding hl)

end Digits

lemma ofNat_eq {n : Nat} {b : UInt8} (h : n = b.toNat) : UInt8.ofNat n = b :=
  h ▸ UInt8.ofNat_toNat

theorem decode?_encode (bytes : List UInt8) : decode? (encode bytes) = some bytes := by
  fun_induction encode bytes with
  | case1 => rfl
  | case2 a x =>
    have hx : x < 256 := a.toNat_lt
    rw [decode?_two_digits (by omega) (by omega) (by omega), ofNat_eq (b := a) (by omega)]
  | case3 a b x y =>
    have hx : x < 256 := a.toNat_lt
    have hy : y < 256 := b.toNat_lt
    rw [decode?_three_digits (by omega) (by omega) (by omega) (by omega),
      ofNat_eq (b := a) (by omega), ofNat_eq (b := b) (by omega)]
  | case4 a b c rest x y z ih =>
    have hx : x < 256 := a.toNat_lt
    have hy : y < 256 := b.toNat_lt
    have hz : z < 256 := c.toNat_lt
    rw [decode?_four_digits (by omega) (by omega) (by omega) (by omega), ih, Option.map_some,
      ofNat_eq (b := a) (by omega), ofNat_eq (b := b) (by omega),
      ofNat_eq (b := c) (by omega)]

end Text.Base64

lemma SortedMap.ofList_toList {α : Type} (m : SortedMap α) : ofList m.toList = m := by
  apply ext_get?
  intro k
  rw [ofList, get?_foldl (g := some) (fun m e k => get?_insert m e.1 k e.2)]
  cases m.get? k <;> rfl

lemma mapM_map_of_inverse {α β : Type} {m : Type → Type} [Monad m] [LawfulMonad m]
    {f : β → m α} {g : α → β} (h : ∀ a, f (g a) = pure a) (l : List α) :
    (l.map g).mapM f = pure l := by
  induction l with
  | nil => rfl
  | cons a l ih => rw [List.map_cons, List.mapM_cons, h, ih, pure_bind, pure_bind]

namespace Coded

/-- A type whose values are read back as they were written.  No value is written as `null`, which
stands for a field that is absent. -/
class Lawful (α : Type) [Coded α] : Prop where
  decode_encode (a : α) : decode (encode a) = some a
  encode_ne_null (a : α) : encode a ≠ .null

attribute [simp] Lawful.decode_encode

variable {α : Type} [Coded α]

/-- A record is read back if its fields are read back from the members that they are written to. -/
lemma Lawful.of_fields {fields : α → List (String × Json)}
    {members : Json → Option (List (String × Json))} {read : List (String × Json) → Option α}
    (hencode : ∀ a, encode a = .object (fields a)) (hmembers : ∀ m, members (.object m) = some m)
    (hdecode : ∀ v, decode v = members v >>= read) (hread : ∀ a, read (fields a) = some a) :
    Lawful α where
  decode_encode a := by
    rw [hencode, hdecode, hmembers]
    exact hread a
  encode_ne_null a := by
    rw [hencode]
    nofun

section Fields

@[simp] lemma find?_append (m m' : List (String × Json)) (key : String) :
    find? (m ++ m') key = (find? m key).or (find? m' key) := by
  unfold find?
  rw [List.find?_append, Option.map_or]

@[simp] lemma find?_required (key key' : String) (a : α) :
    find? (required key a) key' = if key = key' then some (encode a) else none := by
  by_cases h : key = key' <;> simp [find?, required, h]

@[simp] lemma find?_optional (key key' : String) (a : Option α) :
    find? (optional key a) key' = if key = key' then a.map encode else none := by
  cases a with
  | none => by_cases h : key = key' <;> simp [find?, optional, h]
  | some a => by_cases h : key = key' <;> simp [find?, optional, h]

/-- What a required field is read as from the member of its key. -/
def ofRequired [Inhabited α] : Option Json → Option α
  | none | some .null => some default
  | some value => decode value

/-- What an optional field is read as from the member of its key. -/
def ofOptional : Option Json → Option (Option α)
  | none | some .null => some none
  | some value => (decode value).map some

/-- What a field that must not be null is read as from the member of its key. -/
def ofGiven [Inhabited α] : Option Json → Option α
  | none => some default
  | some value => decode value

@[simp] lemma required?_eq [Inhabited α] (m : List (String × Json)) (key : String) :
    (required? m key : Option α) = ofRequired (find? m key) := rfl

@[simp] lemma optional?_eq (m : List (String × Json)) (key : String) :
    (optional? m key : Option (Option α)) = ofOptional (find? m key) := rfl

@[simp] lemma given?_eq [Inhabited α] (m : List (String × Json)) (key : String) :
    (given? m key : Option α) = ofGiven (find? m key) := rfl

variable [Lawful α]

@[simp] lemma ofRequired_encode [Inhabited α] (a : α) :
    ofRequired (some (encode a)) = some a := by
  unfold ofRequired
  split
  next h => cases h
  next h => exact absurd (Option.some.inj h) (Lawful.encode_ne_null a)
  next h =>
    cases h
    exact Lawful.decode_encode a

@[simp] lemma ofOptional_encode (a : Option α) : ofOptional (a.map encode) = some a := by
  cases a with
  | none => rfl
  | some a =>
    unfold ofOptional
    split
    next h => cases h
    next h => exact absurd (Option.some.inj h) (Lawful.encode_ne_null a)
    next h =>
      cases h
      exact congrArg (Option.map some) (Lawful.decode_encode a)

@[simp] lemma ofGiven_encode [Inhabited α] (a : α) : ofGiven (some (encode a)) = some a :=
  Lawful.decode_encode a

end Fields

instance : Lawful String := ⟨fun _ => rfl, nofun⟩

instance : Lawful Bool := ⟨fun _ => rfl, nofun⟩

instance : Lawful Int32 := ⟨Text.int32OfInt?_toInt, nofun⟩

instance : Lawful Int64 := ⟨Text.int64OfInt?_toInt, nofun⟩

instance : Lawful Bytes where
  decode_encode b := by
    change (Text.Base64.decode? (String.ofList (Text.Base64.encode b.toList)).toList).map _ = _
    rw [String.toList_ofList, Text.Base64.decode?_encode]
    rfl
  encode_ne_null := nofun

instance : Lawful IntOrString where
  decode_encode
    | .int n => congrArg (Option.map IntOrString.int) (Lawful.decode_encode n)
    | .text _ => rfl
  encode_ne_null
    | .int _ => nofun
    | .text _ => nofun

section Collections

variable [Lawful α]

instance : Lawful (List α) := ⟨mapM_map_of_inverse Lawful.decode_encode, nofun⟩

instance : Lawful (SortedMap α) where
  decode_encode m := by
    change (List.mapM _ _ >>= fun entries => some (SortedMap.ofList entries)) = _
    rw [mapM_map_of_inverse (g := fun e : String × α => (e.1, encode e.2))]
    · exact congrArg some (SortedMap.ofList_toList m)
    · exact fun e => congrArg (Option.map (e.1, ·)) (Lawful.decode_encode e.2)
  encode_ne_null _ := nofun

end Collections

end Coded
end Manifests
