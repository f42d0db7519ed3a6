/-!
Finite binary floating-point numbers of double precision, computed exactly on natural numbers:
every operation is a quotient of naturals that is rounded to the nearest double, ties to even.
-/
namespace Manifests.Number

/-- The number `±significand · 2 ^ exponent`, where the significand has 53 bits or the exponent is
the least one. -/
structure Double where
  negative : Bool
  significand : Nat
  exponent : Int
  deriving Repr, DecidableEq

namespace Double

def leastExponent : Int := -1074

def greatestExponent : Int := 971

/-- The least significand of 53 bits. -/
def leastFull : Nat := 0x10000000000000

def twoPower (n : Nat) : Nat := Nat.pow 2 n

def tenPower (n : Nat) : Nat := Nat.pow 10 n

/-- The quotient `num / den / 2 ^ e` as numerator and denominator. -/
def scaled (num den : Nat) (e : Int) : Nat × Nat :=
  if 0 ≤ e then (num, den * twoPower e.toNat) else (num * twoPower (-e).toNat, den)

/-- The exponent at which the quotient has a 53-bit integer part, or the least exponent. -/
def exponentFor (num den : Nat) : Int :=
  let e : Int := Int.ofNat num.log2 - Int.ofNat den.log2 - 52
  let (n, d) := scaled num den e
  max leastExponent (if n / d < leastFull then e - 1 else e)

/-- The integer nearest to a quotient, ties to even. -/
def roundQuotient (num den : Nat) : Nat :=
  let q := num / den
  let r := num % den
  if den < 2 * r ∨ (den = 2 * r ∧ q % 2 = 1) then q + 1 else q

/-- The double nearest to `num / den`, unless the quotient is too large for one. -/
def ofQuotient? (negative : Bool) (num den : Nat) : Option Double :=
  if num = 0 then some ⟨negative, 0, leastExponent⟩
  else
    let e := exponentFor num den
    let (n, d) := scaled num den e
    let q := roundQuotient n d
    let (q, e) := if q = 2 * leastFull then (leastFull, e + 1) else (q, e)
    if greatestExponent < e then none else some ⟨negative, q, e⟩

/-- The absolute value as numerator and denominator. -/
def quotient (x : Double) : Nat × Nat :=
  if 0 ≤ x.exponent then (x.significand * twoPower x.exponent.toNat, 1)
  else (x.significand, twoPower (-x.exponent).toNat)

/-- The double nearest to `±digits · 10 ^ exponent`. -/
def ofDecimal? (negative : Bool) (digits : Nat) (exponent : Int) : Option Double :=
  let length : Int := Int.ofNat (Nat.toDigits 10 digits).length
  if digits = 0 ∨ length + exponent < -400 then some ⟨negative, 0, leastExponent⟩
  else if 400 < length + exponent then none
  else if 0 ≤ exponent then ofQuotient? negative (digits * tenPower exponent.toNat) 1
  else ofQuotient? negative digits (tenPower (-exponent).toNat)

/-- The product with the double nearest to `10 ^ n`. -/
def timesPowerOfTen? (x : Double) (n : Nat) : Option Double := do
  let p ← ofQuotient? false (tenPower n) 1
  let (a, b) := x.quotient
  let (c, d) := p.quotient
  ofQuotient? x.negative (a * c) (b * d)

/-- The quotient by the double nearest to `10 ^ n`. -/
def overPowerOfTen? (x : Double) (n : Nat) : Option Double := do
  let p ← ofQuotient? false (tenPower n) 1
  let (a, b) := x.quotient
  let (c, d) := p.quotient
  ofQuotient? x.negative (a * d) (b * c)

/-- `significand · 10 ^ exponent` computed in double precision: the significand is rounded, then
multiplied or divided by rounded powers of ten, none above `10 ^ 308`. -/
def ofScientific? (negative : Bool) (significand : Nat) (exponent : Int) : Option Double := do
  let x ← ofQuotient? negative significand 1
  if 0 ≤ exponent then
    if exponent ≤ 308 then x.timesPowerOfTen? exponent.toNat
    else if significand = 0 then some x else none
  else if exponent < -700 then some ⟨negative, 0, leastExponent⟩
  else shrink x (-exponent).toNat 3
where
  shrink (x : Double) (n : Nat) : Nat → Option Double
    | 0 => some x
    | rounds + 1 =>
      if n ≤ 308 then x.overPowerOfTen? n
      else do shrink (← x.overPowerOfTen? 308) (n - 308) rounds

end Double
end Manifests.Number
