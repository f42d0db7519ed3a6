import Manifests.Json.Value
import Manifests.Number.Shortest

/-!
JSON as text, on one line or indented.  Doubles are written shortest: positionally while the
leading digit stands between 10 ^ -5 and 10 ^ 15, with a signed exponent beyond.
-/
namespace Manifests.Json

open Number

def hexDigit (n : Nat) : Char := if n < 10 then Char.ofNat (n + 48) else Char.ofNat (n + 87)

/-- Quotes, backslashes and control characters are escaped and all else stands for itself. -/
def escapeChar (c : Char) : List Char :=
  if c = '"' then ['\\', '"']
  else if c = '\\' then ['\\', '\\']
  else if c = '\n' then ['\\', 'n']
  else if c = '\r' then ['\\', 'r']
  else if c = '\t' then ['\\', 't']
  else if c.toNat = 8 then ['\\', 'b']
  else if c.toNat = 12 then ['\\', 'f']
  else if c.toNat < 32 then ['\\', 'u', '0', '0', hexDigit (c.toNat / 16), hexDigit (c.toNat % 16)]
  else [c]

def quoted (s : String) : List Char := '"' :: s.toList.flatMap escapeChar ++ ['"']

def integerText (n : Int) : List Char := (toString n).toList

/-- A decimal with a point among its digits, behind them or before them. -/
def positional (digits : List Char) (exponent : Int) : List Char :=
  let length := digits.length
  let point := Int.ofNat length + exponent
  if 0 ≤ exponent then digits ++ List.replicate exponent.toNat '0' ++ ['.', '0']
  else if 0 < point then digits.take point.toNat ++ '.' :: digits.drop point.toNat
  else ['0', '.'] ++ List.replicate (-point).toNat '0' ++ digits

/-- A decimal with one digit before the point and a signed power of ten. -/
def scientific (digits : List Char) (exponent : Int) : List Char :=
  let power := Int.ofNat digits.length + exponent - 1
  let mantissa := match digits with
    | [] => ['0']
    | [d] => [d]
    | d :: rest => d :: '.' :: rest
  mantissa ++ 'e' :: (if 0 ≤ power then ['+'] else []) ++ integerText power

def doubleText (x : Double) : List Char :=
  let sign := if x.negative then ['-'] else []
  if x.significand = 0 then sign ++ ['0', '.', '0']
  else
    let d := x.shortest
    let digits := Nat.toDigits 10 d.digits
    let power := Int.ofNat digits.length + d.exponent - 1
    sign ++ if -5 ≤ power ∧ power ≤ 15 then positional digits d.exponent
      else scientific digits d.exponent

def numberText : JsonNumber → List Char
  | .integer n => integerText n
  | .double x => doubleText x

mutual

/-- A value on one line without blanks. -/
def compact : Json → List Char
  | null => ['n', 'u', 'l', 'l']
  | bool true => ['t', 'r', 'u', 'e']
  | bool false => ['f', 'a', 'l', 's', 'e']
  | number n => numberText n
  | string s => quoted s
  | array [] => ['[', ']']
  | array (item :: rest) => '[' :: compact item ++ compactItems rest
  | object [] => ['{', '}']
  | object ((key, value) :: rest) =>
    '{' :: quoted key ++ ':' :: compact value ++ compactMembers rest

def compactItems : List Json → List Char
  | [] => [']']
  | item :: rest => ',' :: compact item ++ compactItems rest

def compactMembers : List (String × Json) → List Char
  | [] => ['}']
  | (key, value) :: rest => ',' :: quoted key ++ ':' :: compact value ++ compactMembers rest

end

def lineStart (depth : Nat) : List Char := '\n' :: List.replicate (2 * depth) ' '

mutual

/-- A value with one item or member a line, indented by two spaces a level. -/
def indented (depth : Nat) : Json → List Char
  | array [] => ['[', ']']
  | array (item :: rest) =>
    '[' :: lineStart (depth + 1) ++ indented (depth + 1) item ++ indentedItems depth rest
  | object [] => ['{', '}']
  | object ((key, value) :: rest) =>
    '{' :: lineStart (depth + 1) ++ quoted key ++ [':', ' '] ++ indented (depth + 1) value ++
      indentedMembers depth rest
  | value => compact value

def indentedItems (depth : Nat) : List Json → List Char
  | [] => lineStart depth ++ [']']
  | item :: rest =>
    ',' :: lineStart (depth + 1) ++ indented (depth + 1) item ++ indentedItems depth rest

def indentedMembers (depth : Nat) : List (String × Json) → List Char
  | [] => lineStart depth ++ ['}']
  | (key, value) :: rest =>
    ',' :: lineStart (depth + 1) ++ quoted key ++ [':', ' '] ++ indented (depth + 1) value ++
      indentedMembers depth rest

end

def compactText (value : Json) : String := String.ofList value.compact

def prettyText (value : Json) : String := String.ofList (value.indented 0)

example : compactText (array [integer 1, string "a\n"]) = "[1,\"a\\n\"]" := by decide +kernel
example : compactText (number (.double ⟨false, 7205759403792794, -56⟩)) = "0.1" := by decide +kernel

end Manifests.Json
