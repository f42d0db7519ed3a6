import Manifests.Text.HostName
import Manifests.Text.IpAddress

/-!
Web addresses: what an `http` or `https` URL says about host, port and path.  Blanks around the
URL and line breaks within it do not count, user names and what follows the path are dropped.
-/
namespace Manifests.Text

structure WebAddress where
  scheme : String
  host : String
  port : Nat
  path : String
  deriving DecidableEq

namespace WebAddress

/-- The text without blanks and controls at its ends, and without tabs and line breaks. -/
def strip (cs : List Char) : List Char :=
  let trimmed := ((cs.dropWhile (·.toNat ≤ 32)).reverse.dropWhile (·.toNat ≤ 32)).reverse
  trimmed.filter fun c => !(c = '\t' || c = '\n' || c = '\r')

def isSchemeChar (c : Char) : Bool := c.isAlphanum || c = '+' || c = '-' || c = '.'

/-- The scheme in lower case and what follows its colon. -/
def scheme? (cs : List Char) : Option (List Char × List Char) := do
  let name := cs.takeWhile isSchemeChar
  let first ← name.head?
  guard first.isAlpha
  match cs.dropWhile isSchemeChar with
  | ':' :: rest => some (name.map Char.toLower, rest)
  | _ => none

def isSlash (c : Char) : Bool := c = '/' || c = '\\'

def endsAuthority (c : Char) : Bool := isSlash c || c = '?' || c = '#'

/-- The host without the user name in front of it. -/
def dropUser (authority : List Char) : List Char :=
  match cutLast? '@' authority with
  | some (_, host) => host
  | none => authority

/-- The host and what follows it; a colon within brackets belongs to the host. -/
def splitHost (inBrackets : Bool) : List Char → List Char × List Char
  | [] => ([], [])
  | c :: rest =>
    if c = ':' ∧ !inBrackets then ([], c :: rest)
    else
      let inBrackets := if c = '[' then true else if c = ']' then false else inBrackets
      let (host, tail) := splitHost inBrackets rest
      (c :: host, tail)

/-- Bytes with the escapes of a percent sign and two digits resolved. -/
def percentDecode : List UInt8 → List UInt8
  | [] => []
  | [a] => [a]
  | [a, b] => [a, b]
  | a :: b :: c :: rest =>
    match hexDigit? (Char.ofNat b.toNat), hexDigit? (Char.ofNat c.toNat) with
    | some high, some low =>
      if a = 37 then UInt8.ofNat (high * 16 + low) :: percentDecode rest
      else a :: percentDecode (b :: c :: rest)
    | _, _ => a :: percentDecode (b :: c :: rest)

/-- A part of a numeric address: hexadecimal behind `0x`, octal behind `0`, else decimal. -/
def numberPart? (cs : List Char) : Option Nat :=
  let (radix, digits) : Nat × List Char := match cs with
    | '0' :: 'x' :: rest => (16, rest)
    | '0' :: 'X' :: rest => (16, rest)
    | '0' :: d :: rest => (8, d :: rest)
    | _ => (10, cs)
  if cs = [] then none
  else digits.foldlM (fun n c => do
    let d ← hexDigit? c
    guard (d < radix)
    return n * radix + d) 0

/-- Whether the last label of a name, a final dot aside, is a number. -/
def endsInNumber (host : List Char) : Bool :=
  match (splitAt '.' host).reverse with
  | [] :: last :: _ => isNumber last
  | last :: _ => isNumber last
  | [] => false
where
  isNumber (label : List Char) : Bool :=
    (label ≠ [] && label.all Char.isDigit) || (numberPart? label).isSome

/-- The four bytes of a numeric address, whose last part fills all bytes that are left. -/
def fourBytes? (host : List Char) : Option String := do
  let parts := splitAt '.' host
  let parts := if parts.getLast? = some [] then parts.dropLast else parts
  guard (parts.length ≤ 4)
  let numbers ← parts.mapM numberPart?
  let last ← numbers.getLast?
  let leading := numbers.dropLast
  guard (leading.all (· < 256))
  guard (last < Nat.pow 256 (4 - leading.length))
  let value := leading.zipIdx.foldl (fun sum (n, i) => sum + n * Nat.pow 256 (3 - i)) last
  return IpAddress.showBytes (value / 16777216) (value / 65536 % 256) (value / 256 % 256)
    (value % 256)

/-- The host as it is looked up: an address in brackets, a numeric address, or a name. -/
def host? (cs : List Char) : Option String :=
  match cs with
  | [] => none
  | '[' :: rest =>
    if rest.getLast? = some ']' then
      (IpAddress.sixteenBytes? rest.dropLast).map IpAddress.showSixteen
    else none
  | _ => do
    let bytes := percentDecode (String.ofList cs).toUTF8.toList
    let text ← String.fromUTF8? ⟨bytes.toArray⟩
    let name ← HostName.normalize? text.toList
    guard (name ≠ [])
    if endsInNumber name then fourBytes? name else some (String.ofList name)

/-- The port behind a host; without digits it is the usual one of the scheme. -/
def port? (usual : Nat) : List Char → Option Nat
  | [] => some usual
  | ':' :: digits =>
    if digits = [] then some usual
    else if digits.all Char.isDigit then
      let n := natOfDigits digits
      if n < 65536 then some n else none
    else none
  | _ => none

def hexUpper (n : Nat) : Char := if n < 10 then Char.ofNat (n + 48) else Char.ofNat (n + 55)

/-- A character of a path; what has no place in one is written as escaped bytes. -/
def escapePathChar (c : Char) : List Char :=
  if c.toNat ≤ 32 ∨ 127 ≤ c.toNat ∨ "\"<>`\x7b\x7d".toList.contains c then
    c.toString.toUTF8.toList.flatMap fun b =>
      ['%', hexUpper (b.toNat / 16), hexUpper (b.toNat % 16)]
  else [c]

/-- The segment with its dots in plain form, to tell dot segments by. -/
def plainDots : List Char → List Char
  | '%' :: '2' :: 'e' :: rest => '.' :: plainDots rest
  | '%' :: '2' :: 'E' :: rest => '.' :: plainDots rest
  | c :: rest => c :: plainDots rest
  | [] => []

/-- The segments of a path with dot segments resolved; `done` holds those passed, in reverse. -/
def resolveDots (done : List (List Char)) : List (List Char) → List (List Char)
  | [] => done.reverse
  | segment :: rest =>
    let final := if rest = [] then [[]] else []
    if plainDots segment = ['.', '.'] then resolveDots (final ++ done.drop 1) rest
    else if plainDots segment = ['.'] then resolveDots (final ++ done) rest
    else resolveDots (segment.flatMap escapePathChar :: done) rest

/-- The path of a URL from what follows its authority. -/
def resolvedPath (cs : List Char) : String :=
  let raw := (cs.takeWhile fun c => !(c = '?' || c = '#')).map fun c => if c = '\\' then '/' else c
  let segments := splitAt '/' (raw.drop 1)
  String.ofList ('/' :: List.intercalate ['/'] (resolveDots [] segments))

/-- Reads a URL of one of the two web schemes. -/
def parse? (url : String) : Option WebAddress := do
  let (scheme, rest) ← scheme? (strip url.toList)
  let usual ← if scheme = "http".toList then some 80
    else if scheme = "https".toList then some 443
    else none
  let rest := rest.dropWhile isSlash
  let authority := rest.takeWhile fun c => !endsAuthority c
  let (host, portText) := splitHost false (dropUser authority)
  let host ← host? host
  let port ← port? usual portText
  return ⟨String.ofList scheme, host, port, resolvedPath (rest.drop authority.length)⟩

end WebAddress
end Manifests.Text
