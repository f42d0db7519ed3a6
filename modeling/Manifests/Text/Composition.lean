import Manifests.Text.Composition.Tables

/-!
The composed form of a text: letters take the marks behind them into one character where there is
one, and the marks that are left stand in the order of their classes.
-/
namespace Manifests.Text.Composition

/-- The class of a combining mark, and zero for any other character. -/
def markClass (c : Char) : Nat :=
  match classRanges.find? fun (first, last, _) => first ≤ c.toNat && c.toNat ≤ last with
  | some (_, _, k) => k
  | none => 0

/-- Whether a code point is a syllable that is written from two or three letters. -/
def isSyllable (n : Nat) : Bool := 0xAC00 ≤ n && n ≤ 0xD7A3

/-- The letters of a syllable: a leading consonant, a vowel, and perhaps a trailing consonant. -/
def syllableParts (n : Nat) : List Nat :=
  let i := n - 0xAC00
  let parts := [0x1100 + i / 588, 0x1161 + i % 588 / 28]
  if i % 28 = 0 then parts else parts ++ [0x11A7 + i % 28]

/-- A character in its parts. -/
def parts (c : Char) : List Char :=
  let n := c.toNat
  if n < 0xC0 then [c]
  else if isSyllable n then (syllableParts n).map Char.ofNat
  else ((row? partsRows n).getD [n]).map Char.ofNat

/-- The syllable that a letter continues, if it can. -/
def syllable? (a b : Nat) : Option Nat :=
  if 0x1100 ≤ a ∧ a ≤ 0x1112 ∧ 0x1161 ≤ b ∧ b ≤ 0x1175 then
    some (0xAC00 + (a - 0x1100) * 588 + (b - 0x1161) * 28)
  else if isSyllable a ∧ (a - 0xAC00) % 28 = 0 ∧ 0x11A8 ≤ b ∧ b ≤ 0x11C2 then
    some (a + (b - 0x11A7))
  else none

/-- The one character that two characters make. -/
def pair? (a b : Char) : Option Char :=
  match syllable? a.toNat b.toNat with
  | some n => some (Char.ofNat n)
  | none =>
    if b.toNat < 0xC0 then none
    else
      let all := (parts a ++ [b]).map Char.toNat
      (partsRows.find? fun (_, image) => image == all).map fun (n, _) => Char.ofNat n

/-- Puts a character in front of ordered ones, behind the marks of lower classes. -/
def insert (c : Char) : List Char → List Char
  | [] => [c]
  | d :: rest =>
    if 0 < markClass d ∧ markClass d < markClass c then d :: insert c rest else c :: d :: rest

/-- Marks in the order of their classes; marks of one class keep their order. -/
def order (cs : List Char) : List Char := cs.foldr insert []

/-- Composes `base`, behind which stand `marks` that it did not take, with what follows. -/
def composeFrom (base : Char) (marks : List Char) : List Char → List Char
  | [] => base :: marks
  | c :: rest =>
    let blocked := match marks.getLast? with
      | some mark => decide (markClass c ≤ markClass mark)
      | none => false
    match if blocked then none else pair? base c with
    | some composed => composeFrom composed marks rest
    | none =>
      if markClass c = 0 then base :: marks ++ composeFrom c [] rest
      else composeFrom base (marks ++ [c]) rest

def composeParts : List Char → List Char
  | [] => []
  | c :: rest => if markClass c = 0 then composeFrom c [] rest else c :: composeParts rest

end Composition

/-- The composed form of a text. -/
def compose (cs : List Char) : List Char :=
  Composition.composeParts (Composition.order (cs.flatMap Composition.parts))

example : Composition.syllableParts 0xAC01 = [0x1100, 0x1161, 0x11A8] := by decide
example : Composition.syllable? 0xAC00 0x11A8 = some 0xAC01 := by decide

end Manifests.Text
