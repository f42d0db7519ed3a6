/-!
Hexadecimal digits in either letter case.
-/
namespace Manifests.Text

def hexDigit? (c : Char) : Option Nat :=
  let n := c.toNat
  if 48 ≤ n ∧ n ≤ 57 then some (n - 48)
  else if 65 ≤ n ∧ n ≤ 70 then some (n - 55)
  else if 97 ≤ n ∧ n ≤ 102 then some (n - 87)
  else none

/-- The value of a row of digits; any other character counts as a zero. -/
def natOfHexDigits (cs : List Char) : Nat :=
  cs.foldl (fun n c => n * 16 + (hexDigit? c).getD 0) 0

example : natOfHexDigits "fF".toList = 255 := by decide

end Manifests.Text
