import Manifests.Json.Draft
import Manifests.Text.Hexadecimal

/-!
Reading JSON.  A document is one value among blanks, and strings hold no bare control characters.
-/
namespace Manifests.Json

def isSpace (c : Char) : Bool := c = ' ' || c = '\n' || c = '\t' || c = '\r'

def skipSpace (cs : List Char) : List Char := cs.dropWhile isSpace

/-- The value of four hexadecimal digits. -/
def hexUnit? : List Char → Option (Nat × List Char)
  | a :: b :: c :: d :: rest => do
    let n ← Text.hexDigit? a
    let m ← Text.hexDigit? b
    let p ← Text.hexDigit? c
    let q ← Text.hexDigit? d
    return (((n * 16 + m) * 16 + p) * 16 + q, rest)
  | _ => none

def simpleEscape? (c : Char) : Option Char :=
  if c = '"' || c = '\\' || c = '/' then some c
  else if c = 'n' then some '\n'
  else if c = 't' then some '\t'
  else if c = 'r' then some '\r'
  else if c = 'b' then some (Char.ofNat 8)
  else if c = 'f' then some (Char.ofNat 12)
  else none

/-- The character of one or two escaped units, and none for half of a pair alone. -/
def unitEscape? (cs : List Char) : Option (Option Char × List Char) := do
  let (high, rest) ← hexUnit? cs
  if 0xD800 ≤ high ∧ high ≤ 0xDBFF then
    match rest with
    | '\\' :: 'u' :: more =>
      let (low, behind) ← hexUnit? more
      if 0xDC00 ≤ low ∧ low ≤ 0xDFFF then
        return (some (Char.ofNat (0x10000 + (high - 0xD800) * 0x400 + (low - 0xDC00))), behind)
      else return (none, rest)
    | _ => return (none, rest)
  else if 0xDC00 ≤ high ∧ high ≤ 0xDFFF then return (none, rest)
  else return (some (Char.ofNat high), rest)

/-- The characters up to the closing quote, which is dropped; `done` holds what was read, in
reverse. -/
def textTo? (done : List (Option Char)) : Nat → List Char → Option (List (Option Char) × List Char)
  | 0, _ => none
  | _, [] => none
  | _, '"' :: rest => some (done.reverse, rest)
  | fuel + 1, '\\' :: 'u' :: rest => do
    let (c, rest) ← unitEscape? rest
    textTo? (c :: done) fuel rest
  | fuel + 1, '\\' :: e :: rest => do
    let c ← simpleEscape? e
    textTo? (some c :: done) fuel rest
  | fuel + 1, c :: rest =>
    if c = '\\' ∨ c.toNat < 32 then none else textTo? (some c :: done) fuel rest

/-- A text behind its opening quote; it has no value if some escape stands for no character. -/
def text? (cs : List Char) : Option (Option String × List Char) := do
  let (s, rest) ← textTo? [] (cs.length + 1) cs
  return ((s.mapM id).map String.ofList, rest)

/-- A number: no leading zeros, and a digit behind the point and the exponent mark. -/
def lexeme? (cs : List Char) : Option (Lexeme × List Char) := do
  let (negative, cs) := match cs with
    | '-' :: rest => (true, rest)
    | _ => (false, cs)
  let whole := cs.takeWhile Char.isDigit
  let rest := cs.dropWhile Char.isDigit
  guard (whole ≠ [])
  guard (whole.length = 1 ∨ whole.head? ≠ some '0')
  let (fraction, rest) ← match rest with
    | '.' :: more =>
      let digits := more.takeWhile Char.isDigit
      if digits = [] then none else some (some digits, more.dropWhile Char.isDigit)
    | _ => some (none, rest)
  let (power, rest) ← match rest with
    | 'e' :: more => power? more
    | 'E' :: more => power? more
    | _ => some (none, rest)
  return (⟨negative, whole, fraction, power⟩, rest)
where
  power? (cs : List Char) : Option (Option Int × List Char) := do
    let (sign, cs) := match cs with
      | '+' :: rest => ((1 : Int), rest)
      | '-' :: rest => (-1, rest)
      | _ => (1, cs)
    let n ← Text.nat? (cs.takeWhile Char.isDigit)
    return (some (sign * Int.ofNat n), cs.dropWhile Char.isDigit)

/-- What follows `word` in a text that starts with it. -/
def after? (word cs : List Char) : Option (List Char) :=
  if word.isPrefixOf cs then some (cs.drop word.length) else none

/-- A value that holds no other values. -/
def scalar? (cs : List Char) : Option (Draft × List Char) :=
  match cs with
  | [] => none
  | c :: rest =>
    if c = '"' then (text? rest).map fun (s, rest) => (.string s, rest)
    else if c = 'n' then (after? ['u', 'l', 'l'] rest).map (.null, ·)
    else if c = 't' then (after? ['r', 'u', 'e'] rest).map (.bool true, ·)
    else if c = 'f' then (after? ['a', 'l', 's', 'e'] rest).map (.bool false, ·)
    else (lexeme? cs).map fun (l, rest) => (.number l, rest)

/-- A key and the colon behind it. -/
def key? (cs : List Char) : Option (Option String × List Char) := do
  let rest ← after? ['"'] (skipSpace cs)
  let (key, rest) ← text? rest
  let rest ← after? [':'] (skipSpace rest)
  return (key, rest)

mutual

def draft? : Nat → List Char → Option (Draft × List Char)
  | 0, _ => none
  | fuel + 1, cs =>
    let cs := skipSpace cs
    match after? ['['] cs, after? ['{'] cs with
    | some rest, _ =>
      match after? [']'] (skipSpace rest) with
      | some rest => some (.array [], rest)
      | none => (items? fuel rest).map fun (items, rest) => (.array items, rest)
    | none, some rest =>
      match after? ['}'] (skipSpace rest) with
      | some rest => some (.object [], rest)
      | none => (entries? fuel rest).map fun (entries, rest) => (.object entries, rest)
    | none, none => scalar? cs

/-- The items of an array up to its closing bracket. -/
def items? : Nat → List Char → Option (List Draft × List Char)
  | 0, _ => none
  | fuel + 1, cs => do
    let (item, rest) ← draft? fuel cs
    let rest := skipSpace rest
    match after? [']'] rest with
    | some rest => return ([item], rest)
    | none =>
      let rest ← after? [','] rest
      let (items, rest) ← items? fuel rest
      return (item :: items, rest)

/-- The members of an object up to its closing brace. -/
def entries? : Nat → List Char → Option (List (Option String × Draft) × List Char)
  | 0, _ => none
  | fuel + 1, cs => do
    let (key, rest) ← key? cs
    let (value, rest) ← draft? fuel rest
    let rest := skipSpace rest
    match after? ['}'] rest with
    | some rest => return ([(key, value)], rest)
    | none =>
      let rest ← after? [','] rest
      let (entries, rest) ← entries? fuel rest
      return ((key, value) :: entries, rest)

end

/-- What a whole document holds. -/
def Draft.parse? (s : String) : Option Draft := do
  let cs := s.toList
  let (draft, rest) ← draft? (2 * cs.length + 2) cs
  guard (skipSpace rest = [])
  return draft

/-- How deep the arrays and objects of a value may nest. -/
def maxDepth : Nat := 127

/-- The value of a whole document. -/
def parse? (s : String) : Option Json := do (← Draft.parse? s).value? maxDepth

example : parse? "[1, true]" = some (array [integer 1, bool true]) := by rfl
example : (parse? "[01]").isNone := by decide +kernel
example : (parse? "\"\\ud83d\"").isNone := by decide +kernel

end Manifests.Json
