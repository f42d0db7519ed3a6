import Manifests.Number.Double
import Manifests.Text.Integer

/-!
What plain words stand for: nothing, a truth value, an integer in one of four radices, a decimal
fraction, or themselves.
-/
namespace Manifests.Yaml.Word

open Number

def nullWords : List String := ["null", "Null", "NULL", "~"]

def bool? (word : String) : Option Bool :=
  if ["true", "True", "TRUE"].contains word then some true
  else if ["false", "False", "FALSE"].contains word then some false
  else none

def digitOf? (radix : Nat) (c : Char) : Option Nat :=
  let n := c.toNat
  let v :=
    if 48 ≤ n ∧ n ≤ 57 then n - 48
    else if 65 ≤ n ∧ n ≤ 90 then n - 55
    else if 97 ≤ n ∧ n ≤ 122 then n - 87
    else radix
  if v < radix then some v else none

/-- A natural number of at least one digit. -/
def natIn? (radix : Nat) (cs : List Char) : Option Nat :=
  if cs = [] then none
  else cs.foldlM (fun n c => (digitOf? radix c).map (n * radix + ·)) 0

/-- Leading zeros make a row of digits a text. -/
def isZeroPadded (cs : List Char) : Bool :=
  let digits := match cs with
    | '-' :: rest => rest
    | '+' :: rest => rest
    | _ => cs
  match digits with
  | '0' :: rest => rest ≠ [] && rest.all Char.isDigit
  | _ => false

/-- Digits of an integer behind its sign. -/
def magnitude? : List Char → Option Nat
  | '0' :: 'x' :: digits => natIn? 16 digits
  | '0' :: 'o' :: digits => natIn? 8 digits
  | '0' :: 'b' :: digits => natIn? 2 digits
  | digits => natIn? 10 digits

/-- The integer that a word denotes, of any size. -/
def integer? (word : String) : Option Int :=
  let cs := word.toList
  if isZeroPadded cs then none
  else match cs with
    | '+' :: rest => (magnitude? rest).map Int.ofNat
    | '-' :: rest => (magnitude? rest).map fun n => -Int.ofNat n
    | rest => (magnitude? rest).map Int.ofNat

/-- Words for what is no finite number. -/
def isNonFinite (word : String) : Bool :=
  [".inf", ".Inf", ".INF", "+.inf", "+.Inf", "+.INF", "-.inf", "-.Inf", "-.INF",
    ".nan", ".NaN", ".NAN"].contains word

/-- A power of ten behind its mark; without a mark it is zero. -/
def power? (cs : List Char) : Option Int :=
  match cs with
  | [] => some 0
  | mark :: rest => if mark = 'e' ∨ mark = 'E' then Text.int? rest else none

/-- A decimal with a digit on some side of its point. -/
def unsignedDouble? (negative : Bool) (cs : List Char) : Option Double := do
  let whole := cs.takeWhile Char.isDigit
  let rest := cs.dropWhile Char.isDigit
  let (fraction, rest) := match rest with
    | '.' :: more => (more.takeWhile Char.isDigit, more.dropWhile Char.isDigit)
    | _ => ([], rest)
  guard (whole ++ fraction ≠ [])
  let power ← power? rest
  Double.ofDecimal? negative (Text.natOfDigits (whole ++ fraction))
    (power - Int.ofNat fraction.length)

/-- The double that a word denotes. -/
def double? (word : String) : Option Double :=
  match word.toList with
  | '+' :: '-' :: _ => none
  | '+' :: rest => unsignedDouble? false rest
  | '-' :: rest => unsignedDouble? true rest
  | rest => unsignedDouble? false rest

example : integer? "0x1F" = some 31 := by decide +kernel
example : integer? "017" = none := by decide +kernel
example : integer? "1_000" = none := by decide +kernel

end Manifests.Yaml.Word
