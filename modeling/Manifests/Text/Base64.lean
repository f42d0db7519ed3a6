/-!
Padded base 64 over the alphabet with `+` and `/`.  Reading is strict: it takes exactly what
writing produces, so unused bits are zero and padding is neither missing nor in excess.
-/
namespace Manifests.Text.Base64

def digit (n : Nat) : Char :=
  if n < 26 then Char.ofNat (n + 65)
  else if n < 52 then Char.ofNat (n + 71)
  else if n < 62 then Char.ofNat (n - 4)
  else if n = 62 then '+'
  else '/'

def value? (c : Char) : Option Nat :=
  let n := c.toNat
  if 65 ≤ n ∧ n ≤ 90 then some (n - 65)
  else if 97 ≤ n ∧ n ≤ 122 then some (n - 71)
  else if 48 ≤ n ∧ n ≤ 57 then some (n + 4)
  else if c = '+' then some 62
  else if c = '/' then some 63
  else none

/-- Three bytes become four digits; one or two left over are padded to four characters. -/
def encode : List UInt8 → List Char
  | [] => []
  | [a] =>
    let x := a.toNat
    [digit (x / 4), digit (x % 4 * 16), '=', '=']
  | [a, b] =>
    let x := a.toNat
    let y := b.toNat
    [digit (x / 4), digit (x % 4 * 16 + y / 16), digit (y % 16 * 4), '=']
  | a :: b :: c :: rest =>
    let x := a.toNat
    let y := b.toNat
    let z := c.toNat
    digit (x / 4) :: digit (x % 4 * 16 + y / 16) :: digit (y % 16 * 4 + z / 64) ::
      digit (z % 64) :: encode rest

def decode? : List Char → Option (List UInt8)
  | [] => some []
  | [p, q, '=', '='] => do
    let i ← value? p
    let j ← value? q
    guard (j % 16 = 0)
    return [UInt8.ofNat (i * 4 + j / 16)]
  | [p, q, r, '='] => do
    let i ← value? p
    let j ← value? q
    let k ← value? r
    guard (k % 4 = 0)
    return [UInt8.ofNat (i * 4 + j / 16), UInt8.ofNat (j % 16 * 16 + k / 4)]
  | p :: q :: r :: s :: rest => do
    let i ← value? p
    let j ← value? q
    let k ← value? r
    let l ← value? s
    let tail ← decode? rest
    return UInt8.ofNat (i * 4 + j / 16) :: UInt8.ofNat (j % 16 * 16 + k / 4) ::
      UInt8.ofNat (k % 4 * 64 + l) :: tail
  | _ => none

example : String.ofList (encode [104, 105]) = "aGk=" := by decide
example : decode? "aGk=".toList = some [104, 105] := by decide
example : decode? "aGl=".toList = none := by decide
example : decode? "aGk".toList = none := by decide

end Manifests.Text.Base64
