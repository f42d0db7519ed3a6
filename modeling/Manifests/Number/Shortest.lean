import Manifests.Number.Double

/-!
The shortest decimal that reads back as a given double, and of several such the nearest one.
-/
namespace Manifests.Number

/-- The decimal `digits · 10 ^ exponent`. -/
structure Decimal where
  digits : Nat
  exponent : Int
  deriving Repr, DecidableEq

namespace Double

/-- The reals that round to a double, in quarters of its unit: value, lower and upper end, and
whether the ends belong to it. -/
structure Neighbourhood where
  value : Nat
  lower : Nat
  upper : Nat
  closed : Bool

def neighbourhood (x : Double) : Neighbourhood :=
  let v := 4 * x.significand
  let narrow := x.significand = leastFull ∧ leastExponent < x.exponent
  ⟨v, if narrow then v - 1 else v - 2, v + 2, x.significand % 2 = 0⟩

/-- The factors `(a, b)` for which `m · 2 ^ e` against `c · 10 ^ k` is `m · a` against `c · b`. -/
def commonScale (e k : Int) : Nat × Nat :=
  let two := if 0 ≤ e then (twoPower e.toNat, 1) else (1, twoPower (-e).toNat)
  let ten := if 0 ≤ k then (tenPower k.toNat, 1) else (1, tenPower (-k).toNat)
  (two.1 * ten.2, ten.1 * two.2)

/-- The power of ten of the leading digit. -/
def leadingExponent (x : Double) : Int :=
  let guess : Int := (Int.ofNat x.significand.log2 + x.exponent) * 30103 / 100000
  let reaches (p : Int) : Bool :=
    let (a, b) := commonScale x.exponent p
    b ≤ x.significand * a
  if reaches (guess + 1) then guess + 1 else if reaches guess then guess else guess - 1

/-- The decimal with the given last place nearest to the value, if one reads back. -/
def onGrid? (n : Neighbourhood) (e k : Int) : Option Decimal :=
  let (a, b) := commonScale e k
  let inside (c : Nat) : Bool :=
    if n.closed then n.lower * a ≤ c * b && c * b ≤ n.upper * a
    else n.lower * a < c * b && c * b < n.upper * a
  let below := n.value * a / b
  let rest := n.value * a - below * b
  let nearer := if 2 * rest < b ∨ (2 * rest = b ∧ below % 2 = 0) then below else below + 1
  let farther := if nearer = below then below + 1 else below
  if inside nearer then some ⟨nearer, k⟩
  else if inside farther then some ⟨farther, k⟩
  else none

/-- Moves trailing zeros of the digits into the exponent. -/
def dropZeros (d : Decimal) : Nat → Decimal
  | 0 => d
  | fuel + 1 =>
    if d.digits % 10 = 0 ∧ d.digits ≠ 0 then dropZeros ⟨d.digits / 10, d.exponent + 1⟩ fuel else d

/-- The shortest decimal of a double that is not zero. -/
def shortest (x : Double) : Decimal :=
  let p := x.leadingExponent
  let places := (List.range 17).map fun n => p - Int.ofNat n
  match places.findSome? (onGrid? x.neighbourhood (x.exponent - 2)) with
  | some d => dropZeros d 20
  | none => ⟨x.significand, 0⟩

end Double
end Manifests.Number
