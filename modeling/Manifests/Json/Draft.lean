import Manifests.Json.Value
import Manifests.Text.Integer

/-!
JSON as it is written.  A text may hold an escape that stands for no character, and a number may be
one that no double can carry; neither matters until its value is asked for.
-/
namespace Manifests.Json

open Number

/-- The parts of a number as written: whole digits, digits behind the point, power of ten. -/
structure Lexeme where
  negative : Bool
  whole : List Char
  fraction : Option (List Char)
  power : Option Int
  deriving Repr, Inhabited

/-- The greatest unsigned word, beyond which digits no longer count. -/
def wordLimit : Nat := 0x10000000000000000

/-- Takes digits while the value stays below the limit and counts those that are dropped. -/
def takeDigits (acc : Nat) : List Char → Nat × List Char
  | [] => (acc, [])
  | c :: rest =>
    let next := acc * 10 + Text.digitValue c
    if next < wordLimit then takeDigits next rest else (acc, c :: rest)

/-- The number that a lexeme stands for.  Integers of a word are exact; others are computed from
the digits that fit a word. -/
def Lexeme.number? (l : Lexeme) : Option JsonNumber :=
  let (acc, dropped) := takeDigits 0 l.whole
  match l.fraction, l.power, dropped with
  | none, none, [] =>
    if !l.negative then some (.integer acc)
    else if acc = 0 ∨ 0x8000000000000000 < acc then (Double.ofQuotient? true acc 1).map .double
    else some (.integer (-Int.ofNat acc))
  | fraction, power, _ =>
    let digits := fraction.getD []
    let (significand, ignored) := takeDigits acc digits
    let shift := Int.ofNat dropped.length - Int.ofNat (digits.length - ignored.length)
    (Double.ofScientific? l.negative significand (shift + power.getD 0)).map .double

inductive Draft where
  | null
  | bool (value : Bool)
  | number (lexeme : Lexeme)
  | string (text : Option String)
  | array (items : List Draft)
  | object (members : List (Option String × Draft))
  deriving Repr, Inhabited

namespace Draft

mutual

/-- The value of a draft in which arrays and objects nest no deeper than `depth`. -/
def value? (depth : Nat) : Draft → Option Json
  | null => some .null
  | bool b => some (.bool b)
  | number l => l.number?.map .number
  | string s => s.map .string
  | array items => if depth = 0 then none else (values? (depth - 1) items).map .array
  | object members => if depth = 0 then none else (members? (depth - 1) members).map .object

def values? (depth : Nat) : List Draft → Option (List Json)
  | [] => some []
  | item :: rest => do
    let item ← item.value? depth
    return item :: (← values? depth rest)

def members? (depth : Nat) : List (Option String × Draft) → Option (List (String × Json))
  | [] => some []
  | (key, value) :: rest => do
    let key ← key
    let value ← value.value? depth
    return (key, value) :: (← members? depth rest)

end

end Draft
end Manifests.Json
