import Manifests.Error
import Manifests.Text.Blank
import Manifests.Text.LetterCase

/-!
Names that a resource may carry: not blank, and without upper-case letters.
-/
namespace Manifests.ResourceName

/-- The first upper-case character with its index, counted from `start`. -/
def firstUpper? (start : Nat) : List Char → Option (Char × Nat)
  | [] => none
  | c :: rest => if Text.isUpperChar c then some (c, start) else firstUpper? (start + 1) rest

/-- The value itself, if it is usable as a resource id; `what` says what it is the name of. -/
def check (value : Option String) (what : String) : Except Error String :=
  match value with
  | none => .error (.resourceName (.missing what))
  | some value =>
    if Text.isBlank value then .error (.resourceName (.missing what))
    else match firstUpper? 0 value.toList with
      | some (letter, index) => .error (.resourceName (.upperCase letter index what value))
      | none => .ok value

theorem firstUpper?_eq_none_iff (start : Nat) (cs : List Char) :
    firstUpper? start cs = none ↔ ∀ c ∈ cs, Text.isUpperChar c = false := by
  induction cs generalizing start with
  | nil => simp [firstUpper?]
  | cons c rest ih =>
    rw [firstUpper?]
    split <;> simp_all

end Manifests.ResourceName
