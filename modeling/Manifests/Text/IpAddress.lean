import Manifests.Text.Hexadecimal
import Manifests.Text.Integer
import Manifests.Text.Split

/-!
Internet addresses in text: four decimal bytes, or eight hexadecimal groups of which one run of
zeros may be left out and the last two may be written as four bytes.
-/
namespace Manifests.Text.IpAddress

/-- A decimal byte without leading zeros, and the rest of the text. -/
def byte? (cs : List Char) : Option (Nat × List Char) :=
  let digits := cs.takeWhile Char.isDigit
  let rest := cs.dropWhile Char.isDigit
  if digits = [] ∨ 3 < digits.length ∨ (digits.length ≠ 1 ∧ digits.head? = some '0') then none
  else
    let n := natOfDigits digits
    if n < 256 then some (n, rest) else none

def dot? : List Char → Option (List Char)
  | '.' :: rest => some rest
  | _ => none

/-- The four bytes that the text starts with. -/
def fourBytes? (cs : List Char) : Option ((Nat × Nat × Nat × Nat) × List Char) := do
  let (a, cs) ← byte? cs
  let (b, cs) ← byte? (← dot? cs)
  let (c, cs) ← byte? (← dot? cs)
  let (d, cs) ← byte? (← dot? cs)
  return ((a, b, c, d), cs)

/-- A group of one to four hexadecimal digits, and the rest of the text. -/
def group? (cs : List Char) : Option (Nat × List Char) :=
  let digits := cs.takeWhile fun c => (hexDigit? c).isSome
  if digits = [] ∨ 4 < digits.length then none
  else some (natOfHexDigits digits, cs.drop digits.length)

/-- Groups that were read, whether four bytes ended them, and the rest of the text. -/
structure Groups where
  values : List Nat
  endsInBytes : Bool
  rest : List Char

def colon? : List Char → Option (List Char)
  | ':' :: rest => some rest
  | _ => none

/-- Reads at most `limit` groups, each but the first behind a colon. -/
def groups (first : Bool) : Nat → List Char → Groups
  | 0, cs => ⟨[], false, cs⟩
  | limit + 1, cs =>
    match if first then some cs else colon? cs with
    | none => ⟨[], false, cs⟩
    | some body =>
      match if limit = 0 then none else fourBytes? body with
      | some ((a, b, c, d), rest) => ⟨[a * 256 + b, c * 256 + d], true, rest⟩
      | none =>
        match group? body with
        | none => ⟨[], false, cs⟩
        | some (value, rest) =>
          let more := groups false limit rest
          ⟨value :: more.values, more.endsInBytes, more.rest⟩

/-- The eight groups of an address. -/
def sixteenBytes? (cs : List Char) : Option (List Nat) :=
  let head := groups true 8 cs
  if head.values.length = 8 then if head.rest = [] then some head.values else none
  else if head.endsInBytes then none
  else match head.rest with
    | ':' :: ':' :: rest =>
      let tail := groups true (7 - head.values.length) rest
      if tail.rest = [] then
        let zeros := 8 - head.values.length - tail.values.length
        some (head.values ++ List.replicate zeros 0 ++ tail.values)
      else none
    | _ => none

def isAddress (cs : List Char) : Bool :=
  (match fourBytes? cs with
    | some (_, []) => true
    | _ => false) || (sixteenBytes? cs).isSome

def showBytes (a b c d : Nat) : String :=
  toString a ++ "." ++ toString b ++ "." ++ toString c ++ "." ++ toString d

/-- Start and length of the first longest run of zeros. -/
def longestZeros (groups : List Nat) : Nat × Nat :=
  let step := fun (best, start, length, index) (g : Nat) =>
    if g = 0 then
      let start := if length = 0 then index else start
      let best : Nat × Nat := if best.2 < length + 1 then (start, length + 1) else best
      (best, start, length + 1, index + 1)
    else (best, start, 0, index + 1)
  (groups.foldl step (((0, 0), 0, 0, 0) : (Nat × Nat) × Nat × Nat × Nat)).1

def hexText (n : Nat) : String := String.ofList (Nat.toDigits 16 n)

def showGroups (groups : List Nat) : String := String.intercalate ":" (groups.map hexText)

/-- An address in its shortest form: the longest run of two or more zero groups is left out, and
an embedded address of four bytes is written as such. -/
def showSixteen (groups : List Nat) : String :=
  match groups with
  | [0, 0, 0, 0, 0, 65535, g, h] =>
    "::ffff:" ++ showBytes (g / 256) (g % 256) (h / 256) (h % 256)
  | _ =>
    let (start, length) := longestZeros groups
    if 1 < length then
      showGroups (groups.take start) ++ "::" ++ showGroups (groups.drop (start + length))
    else showGroups groups

example : isAddress "10.0.0.7".toList = true := by decide +kernel
example : isAddress "10.0.0.07".toList = false := by decide +kernel
example : (sixteenBytes? "fe80::1".toList).map showSixteen = some "fe80::1" := by decide +kernel

end Manifests.Text.IpAddress
