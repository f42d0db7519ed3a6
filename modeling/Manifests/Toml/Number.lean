import Manifests.Number.Double
import Manifests.Text.Hexadecimal
import Manifests.Text.Integer
import Manifests.Toml.Scan

/-!
Numbers of TOML: integers of 64 bits in four radices, and fractions.  Underscores may stand between
two digits.
-/
namespace Manifests.Toml.Number

open Scan Manifests.Number

/-- Further digits of a number, each of which an underscore may precede. -/
def moreDigits (isDigit : Char → Bool) : List Char → List Char × List Char
  | '_' :: d :: rest =>
    if isDigit d then
      let (digits, rest) := moreDigits isDigit rest
      (d :: digits, rest)
    else ([], '_' :: d :: rest)
  | d :: rest =>
    if isDigit d then
      let (digits, rest) := moreDigits isDigit rest
      (d :: digits, rest)
    else ([], d :: rest)
  | [] => ([], [])

def digits (isDigit : Char → Bool) : Scan (List Char) := do
  let first ← char
  unless isDigit first do failure
  return first :: (← fun cs => some (moreDigits isDigit cs))

/-- Whether a sign makes the number negative. -/
def sign : Scan Bool := do
  if ← accept "-" then return true
  else
    let _ ← accept "+"
    return false

/-- Decimal digits that no zero leads, unless it is the only one. -/
def whole : Scan (List Char) := do
  if ← accept "0" then return ['0'] else digits Char.isDigit

def digitIn (radix : Nat) (c : Char) : Bool :=
  match Text.hexDigit? c with
  | some d => d < radix
  | none => false

def valueIn (radix : Nat) (ds : List Char) : Nat :=
  ds.foldl (fun n c => n * radix + (Text.hexDigit? c).getD 0) 0

def word (n : Int) : Scan Int :=
  if -0x8000000000000000 ≤ n ∧ n < 0x8000000000000000 then return n else failure

def integer : Scan Int := do
  if ← accept "0x" then word (valueIn 16 (← digits (digitIn 16)))
  else if ← accept "0o" then word (valueIn 8 (← digits (digitIn 8)))
  else if ← accept "0b" then word (valueIn 2 (← digits (digitIn 2)))
  else
    let negative ← sign
    let n := Int.ofNat (Text.natOfDigits (← whole))
    word (if negative then -n else n)

def power : Scan Int := do
  unless (← accept "e") || (← accept "E") do failure
  let negative ← sign
  let n := Int.ofNat (Text.natOfDigits (← digits Char.isDigit))
  return if negative then -n else n

/-- A fraction, or one of the words for what is no finite number.  One that is too large in the
positive direction is refused. -/
def fraction : Scan Unit := do
  let negative ← sign
  if (← accept "inf") || (← accept "nan") then return
  let front ← whole
  let back ← if ← accept "." then some <$> digits Char.isDigit else pure none
  let power ← match back with
    | none => power
    | some _ => power <|> pure 0
  let back := back.getD []
  let value := Double.ofDecimal? false (Text.natOfDigits (front ++ back))
    (power - Int.ofNat back.length)
  unless negative || value.isSome do failure

example : (integer.run "0x1_F".toList).map (·.1) = some 31 := by decide +kernel
example : (integer.run "1_000".toList).map (·.1) = some 1000 := by decide +kernel
example : (fraction.run "1e400".toList).isNone = true := by decide +kernel

end Manifests.Toml.Number
