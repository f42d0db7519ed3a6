/-!
Labels of host names in ASCII: the characters beyond ASCII are written, in ascending order, as
variable-length differences whose digit thresholds adapt to the differences before.
-/
namespace Manifests.Text.Punycode

def digitChar (d : Nat) : Char := if d < 26 then Char.ofNat (d + 97) else Char.ofNat (d + 22)

def digitOf? (c : Char) : Option Nat :=
  let n := c.toNat
  if 97 ≤ n ∧ n ≤ 122 then some (n - 97)
  else if 65 ≤ n ∧ n ≤ 90 then some (n - 65)
  else if 48 ≤ n ∧ n ≤ 57 then some (n - 22)
  else none

/-- The least digit that ends a difference at a position. -/
def threshold (position bias : Nat) : Nat :=
  if position ≤ bias then 1 else if bias + 26 ≤ position then 26 else position - bias

theorem threshold_bounds (position bias : Nat) :
    1 ≤ threshold position bias ∧ threshold position bias ≤ 26 := by
  unfold threshold
  split
  · omega
  · split <;> omega

/-- Divides a difference by 35 until it is small, counting positions. -/
def scaleDown (delta position : Nat) : Nat × Nat :=
  if 455 < delta then scaleDown (delta / 35) (position + 36) else (delta, position)
termination_by delta
decreasing_by exact Nat.div_lt_self (by omega) (by omega)

/-- The bias after a difference, when so many characters are written. -/
def adapt (delta count : Nat) (first : Bool) : Nat :=
  let d := if first then delta / 700 else delta / 2
  let (d, position) := scaleDown (d + d / count) 0
  position + 36 * d / (d + 38)

/-- The digits of a difference. -/
def digits (bias position delta : Nat) : List Char :=
  let t := threshold position bias
  if delta < t then [digitChar delta]
  else
    digitChar (t + (delta - t) % (36 - t)) :: digits bias (position + 36) ((delta - t) / (36 - t))
termination_by delta
decreasing_by
  have h := threshold_bounds position bias
  have := Nat.div_le_self (delta - threshold position bias) (36 - threshold position bias)
  omega

/-- What is written, the pending difference, the bias and the number of characters written. -/
structure Progress where
  text : List Char
  delta : Nat
  bias : Nat
  count : Nat

/-- Passes one character of the label while the code point `m` is being written. -/
def pass (basic m : Nat) (p : Progress) (c : Char) : Progress :=
  if c.toNat < m then { p with delta := p.delta + 1 }
  else if c.toNat = m then
    ⟨p.text ++ digits p.bias 36 p.delta, 0, adapt p.delta (p.count + 1) (p.count == basic),
      p.count + 1⟩
  else p

/-- Writes the given code points, which ascend; `next` is the least one that is still due. -/
def writeAll (label : List Char) (basic : Nat) : List Nat → Nat → Progress → Progress
  | [], _, p => p
  | m :: rest, next, p =>
    let p := { p with delta := p.delta + (m - next) * (p.count + 1) }
    let p := label.foldl (pass basic m) p
    writeAll label basic rest (m + 1) { p with delta := p.delta + 1 }

def encode (label : List Char) : List Char :=
  let basic := label.filter (·.toNat < 128)
  let others := ((label.map Char.toNat).filter (128 ≤ ·)).mergeSort.eraseDups
  let start := if basic = [] then [] else basic ++ ['-']
  (writeAll label basic.length others 128 ⟨start, 0, 72, basic.length⟩).text

/-- Numbers stay within words of 32 bits. -/
def isWord (n : Nat) : Bool := n ≤ 0xFFFFFFFF

/-- The index `sum` moved on by a difference in digits; `weight` is what the next digit counts. -/
def moved? (bias : Nat) : Nat → Nat → Nat → List Char → Option (Nat × List Char)
  | _, _, _, [] => none
  | position, weight, sum, c :: rest => do
    let d ← digitOf? c
    let sum := sum + d * weight
    guard (isWord weight ∧ isWord sum)
    let t := threshold position bias
    if d < t then some (sum, rest) else moved? bias (position + 36) (weight * (36 - t)) sum rest

/-- Inserts the characters of the differences into `label`. -/
def insertAll? (label : List Char) (next index bias : Nat) : Nat → List Char → Option (List Char)
  | _, [] => some label
  | 0, _ => none
  | fuel + 1, cs => do
    let (i, rest) ← moved? bias 36 1 index cs
    let count := label.length + 1
    let code := next + i / count
    guard (code < 0x110000 ∧ ¬(0xD800 ≤ code ∧ code ≤ 0xDFFF))
    let place := i % count
    let label := label.take place ++ Char.ofNat code :: label.drop place
    insertAll? label code (place + 1) (adapt (i - index) count (index == 0)) fuel rest

/-- What stands before and after the last hyphen; a hyphen at the start is no such mark. -/
def cutLastHyphen (cs : List Char) : List Char × List Char :=
  match cs.reverse.span (· ≠ '-') with
  | (tail, _ :: c :: front) => ((c :: front).reverse, tail.reverse)
  | _ => ([], cs)

def decode? (cs : List Char) : Option (List Char) :=
  let (basic, rest) := cutLastHyphen cs
  insertAll? basic 128 0 72 rest.length rest

example : String.ofList (encode "bücher".toList) = "bcher-kva" := by cbv
example : (decode? "bcher-kva".toList).map String.ofList = some "bücher" := by cbv

end Manifests.Text.Punycode
