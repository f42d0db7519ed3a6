/-!
Decimal integers in text: an optional sign and at least one ASCII digit, read exactly and then
held against the range of the word that should carry the value.
-/
namespace Manifests.Text

def digitValue (c : Char) : Nat := c.toNat - '0'.toNat

/-- The value of a row of ASCII digits, read from the most significant one. -/
def natOfDigits (cs : List Char) : Nat := cs.foldl (fun n c => n * 10 + digitValue c) 0

def nat? (cs : List Char) : Option Nat :=
  if cs ≠ [] && cs.all Char.isDigit then some (natOfDigits cs) else none

/-- An integer with an optional sign of either kind. -/
def int? : List Char → Option Int
  | '+' :: cs => (nat? cs).map Int.ofNat
  | '-' :: cs => (nat? cs).map fun n => -Int.ofNat n
  | cs => (nat? cs).map Int.ofNat

/-- The 32-bit word of an integer that lies in its range. -/
def int32OfInt? (n : Int) : Option Int32 :=
  if -2147483648 ≤ n ∧ n ≤ 2147483647 then some (Int32.ofInt n) else none

/-- The 64-bit word of an integer that lies in its range. -/
def int64OfInt? (n : Int) : Option Int64 :=
  if -9223372036854775808 ≤ n ∧ n ≤ 9223372036854775807 then some (Int64.ofInt n) else none

theorem int32OfInt?_toInt (n : Int32) : int32OfInt? n.toInt = some n := by
  have h₁ := n.le_toInt
  have h₂ := n.toInt_lt
  simp only [int32OfInt?]
  rw [if_pos (by omega), Int32.ofInt_toInt]

theorem int64OfInt?_toInt (n : Int64) : int64OfInt? n.toInt = some n := by
  have h₁ := n.le_toInt
  have h₂ := n.toInt_lt
  simp only [int64OfInt?]
  rw [if_pos (by omega), Int64.ofInt_toInt]

def int32? (cs : List Char) : Option Int32 := (int? cs).bind int32OfInt?

def int32Text (n : Int32) : String := toString n.toInt

example : int32? "+80".toList = some 80 := by decide
example : int32? "2147483648".toList = none := by decide
example : int32? "-".toList = none := by decide

end Manifests.Text
