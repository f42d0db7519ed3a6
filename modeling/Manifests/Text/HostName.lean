import Manifests.Text.Composition
import Manifests.Text.HostName.Direction
import Manifests.Text.HostName.Ideographs
import Manifests.Text.HostName.Label
import Manifests.Text.HostName.Scope
import Manifests.Text.HostName.Symbols
import Manifests.Text.LetterCase
import Manifests.Text.Punycode

/-!
Host names in the form that is looked up: letters in lower case, characters that stand for others
resolved, and labels beyond ASCII in Punycode.
-/
namespace Manifests.Text.HostName

/-- Letters whose capital form is the usual one. -/
def keepsCapital (n : Nat) : Bool := 0x13A0 ≤ n && n ≤ 0x13F5

/-- The characters that a character of a name stands for, if names may hold it. -/
def resolve? (c : Char) : Option (List Char) :=
  let n := c.toNat
  if n < 128 then some [c.toLower]
  else if inRanges ignoredRanges n then some []
  else if inRanges excludedRanges n then none
  else match (row? symbolRows n).or (row? ideographRows n) with
    | some image => some (image.map Char.ofNat)
    | none => some (if keepsCapital n then [c] else LetterCase.lowerChar c)

/-- The composed form of a name with all characters resolved. -/
def resolved? (cs : List Char) : Option (List Char) := do
  let images ← cs.mapM resolve?
  return compose images.flatten

/-- Characters with a meaning of their own in a web address, blanks and controls. -/
def isForbidden (c : Char) : Bool :=
  c.toNat ≤ 32 || c.toNat == 127 || "%#/:<>?@[\\]^|".toList.contains c

def isAscii (cs : List Char) : Bool := cs.all (·.toNat < 128)

def encodedStart : List Char := "xn--".toList

/-- A label as it is read: what is in Punycode is decoded, and has to be in resolved form. -/
def readable? (label : List Char) : Option (List Char) :=
  if encodedStart.isPrefixOf label then do
    let code := label.drop 4
    guard (isAscii code ∧ code.length ≤ 2000)
    let decoded ← Punycode.decode? code
    guard (!isAscii decoded)
    guard (resolved? decoded = some decoded)
    return decoded
  else some label

/-- A label as it is looked up. -/
def lookupForm? (label : List Char) : Option (List Char) :=
  if isAscii label then some label
  else if label.length ≤ 1000 then some (encodedStart ++ Punycode.encode label) else none

/-- The form of a name that is looked up. -/
def normalize? (cs : List Char) : Option (List Char) := do
  let name ← resolved? cs
  guard (!name.any isForbidden)
  let labels ← (splitAt '.' name).mapM readable?
  guard (labels.all Label.isValid)
  guard (readsInOneDirection labels)
  let written ← labels.mapM lookupForm?
  return List.intercalate ['.'] written

end Manifests.Text.HostName
