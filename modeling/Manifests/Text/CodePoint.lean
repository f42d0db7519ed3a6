import Manifests.Text.Hexadecimal
import Manifests.Text.Split

/-!
Sets and maps of code points.  Large ones are written as texts of hexadecimal numbers.
-/
namespace Manifests.Text

/-- Membership in one of some ranges with both ends included. -/
def inRanges (ranges : List (Nat × Nat)) (n : Nat) : Bool :=
  ranges.any fun (first, last) => first ≤ n && n ≤ last

/-- The words between blanks and line breaks. -/
def tableWords (text : String) : List (List Char) :=
  (splitAt ' ' (text.toList.map fun c => if c = '\n' then ' ' else c)).filter (· ≠ [])

/-- The ranges that a text such as `41-5A AA` lists. -/
def ranges (text : String) : List (Nat × Nat) :=
  (tableWords text).map fun word =>
    match splitAt '-' word with
    | first :: last :: _ => (natOfHexDigits first, natOfHexDigits last)
    | _ => (natOfHexDigits word, natOfHexDigits word)

/-- The rows of some words when the next one belongs to the code point `next`. -/
def rowsFrom (next : Nat) : List (List Char) → List (Nat × List Nat)
  | [] => []
  | word :: rest =>
    match word.reverse with
    | ':' :: digits => rowsFrom (natOfHexDigits digits.reverse) rest
    | ['-'] => rowsFrom (next + 1) rest
    | _ => (next, (splitAt '+' word).map natOfHexDigits) :: rowsFrom (next + 1) rest

/-- The map that a text such as `41: 61 - 63+327` lists: behind a code point with a colon stand the
images of that one and of those that follow it, where a hyphen passes one without an image. -/
def rows (text : String) : List (Nat × List Nat) := rowsFrom 0 (tableWords text)

/-- The image of a code point. -/
def row? (rows : List (Nat × List Nat)) (n : Nat) : Option (List Nat) :=
  (rows.find? fun (code, _) => code == n).map Prod.snd

example : inRanges (ranges "30-39\n  41-46 5F") 'F'.toNat = true := by decide +kernel
example : rows "41: 61 - 63+327" = [(65, [97]), (67, [99, 807])] := by decide +kernel

end Manifests.Text
