import Manifests.Text.CodePoint
import Manifests.Text.LetterCase.Tables

/-!
Upper and lower case of whole texts.  One character may become several, and a capital sigma at the
end of a word becomes the final form of the letter.
-/
namespace Manifests.Text
namespace LetterCase

/-- Whether a code point lies on one of the runs. -/
def onRun (runs : List (Nat × Nat × Nat)) (n : Nat) : Bool :=
  runs.any fun (first, last, step) => first ≤ n && n ≤ last && (n - first) % step == 0

/-- The code point that a shifted run assigns to `n`, and `n` itself off all runs. -/
def shifted (runs : List (Nat × Nat × Nat × Int)) (n : Nat) : Nat :=
  let covers := fun (first, last, step, _) => first ≤ n && n ≤ last && (n - first) % step == 0
  match runs.find? covers with
  | some (_, _, _, shift) => (Int.ofNat n + shift).toNat
  | none => n

def isCased (c : Char) : Bool := inRanges casedRanges c.toNat

def isIgnorable (c : Char) : Bool := inRanges ignorableRanges c.toNat

/-- Whether the first character that is not ignorable is a cased one. -/
def startsCased (cs : List Char) : Bool :=
  match cs.dropWhile isIgnorable with
  | c :: _ => isCased c
  | [] => false

/-- The lower case of one character, which only for the dotted capital I is two characters. -/
def lowerChar (c : Char) : List Char :=
  if c.toNat < 128 then [c.toLower]
  else if c.toNat = 0x130 then ['i', Char.ofNat 0x307]
  else [Char.ofNat (shifted toLowerRuns c.toNat)]

def upperChar (c : Char) : List Char :=
  if c.toNat < 128 then [c.toUpper]
  else match toUpperMany.find? fun (n, _) => n == c.toNat with
    | some (_, many) => many.map Char.ofNat
    | none => [Char.ofNat (shifted toUpperRuns c.toNat)]

/-- Lower case of the characters after `before`, which is held in reverse. -/
def lowerAfter (before : List Char) : List Char → List Char
  | [] => []
  | c :: rest =>
    let here :=
      if c = 'Σ' then
        if startsCased before && !startsCased rest then ['ς'] else ['σ']
      else lowerChar c
    here ++ lowerAfter (c :: before) rest

end LetterCase

/-- Whether a character has the property Uppercase. -/
def isUpperChar (c : Char) : Bool := LetterCase.onRun LetterCase.upperRuns c.toNat

def lower (s : String) : String := String.ofList (LetterCase.lowerAfter [] s.toList)

def upper (s : String) : String := String.ofList (s.toList.flatMap LetterCase.upperChar)

/-- Equality of texts up to the case of ASCII letters. -/
def sameAsciiText (s t : String) : Bool := s.toList.map Char.toLower == t.toList.map Char.toLower

example : lower "ABC-1" = "abc-1" := by decide
example : lower "ΟΔΟΣ" = "οδος" := by decide +kernel
example : upper "ß" = "SS" := by decide +kernel

end Manifests.Text
